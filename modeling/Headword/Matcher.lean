import Headword.Grammar
import Headword.Phrase

/-!
# Matchers

A matcher finds the longest run of words at one end of a phrase that a catalog stands for, and splits the
phrase there.
-/

namespace Headword

/-- The set of ignored words meant by a list: trimmed and in lowercase, without blank ones. -/
def ignoredWords (ws : List String) : WordSet :=
  .ofList ((ws.map fun w => Text.lowercase (Text.trim w)).filter (· ≠ ""))

/-- A phrase split at its match. -/
structure Split where
  found : Option String
  rest : String
  deriving DecidableEq

/-- A grammar put to work on phrases. -/
structure Matcher where
  grammar : Grammar
  deriving DecidableEq

namespace Matcher

/-- Compiles a catalog and leaves out what mentions an ignored word. -/
def build (catalog : Catalog) (vocabulary : Vocabulary) (direction : Direction)
    (ignored : List String) : Except Fault Matcher :=
  (Grammar.compile catalog vocabulary direction (ignoredWords ignored)).map Matcher.mk

def direction (m : Matcher) : Direction :=
  m.grammar.direction

def knows (m : Matcher) (w : String) : Bool :=
  m.grammar.knows w

/-- Reads a phrase; words that the grammar has with punctuation keep theirs. -/
def phrase (m : Matcher) (text : String) : Phrase :=
  .parse m.knows text

/-- The words of a phrase by number, in walking order. -/
def tokens (m : Matcher) (p : Phrase) : List (Option WordId) :=
  m.direction.orient (p.words.map m.grammar.lexicon.id?)

/-- The number of words in the match, if there is one. -/
def matchLength? (m : Matcher) (p : Phrase) : Option Nat :=
  m.grammar.longestMatch? (m.tokens p)

/-- The words of the match and the others, both in reading order, for a match of `n` words. -/
def parts (m : Matcher) (p : Phrase) (n : Nat) : List String × List String :=
  match m.direction with
  | .forward => (p.words.take n, p.words.drop n)
  | .backward => (p.words.drop (p.words.length - n), p.words.take (p.words.length - n))

/-- Splits a phrase into its match and what is left, both in normal form. -/
def split (m : Matcher) (text : String) : Split :=
  let p := m.phrase text
  match m.matchLength? p with
  | none => ⟨none, p.text⟩
  | some n => ⟨some (Text.join (m.parts p n).1), p.attach (m.parts p n).2⟩

def find (m : Matcher) (text : String) : Option String :=
  (m.split text).found

def remove (m : Matcher) (text : String) : String :=
  (m.split text).rest

def forks (m : Matcher) (text : String) : List Trie.Fork :=
  m.grammar.forks (m.tokens (m.phrase text))

theorem direction_of_build_eq_ok {catalog : Catalog} {vocabulary : Vocabulary}
    {direction : Direction} {ignored : List String} {m : Matcher}
    (h : build catalog vocabulary direction ignored = .ok m) : m.direction = direction := by
  unfold build at h
  cases hg : Grammar.compile catalog vocabulary direction (ignoredWords ignored) with
  | error fault => rw [hg] at h; cases h
  | ok g =>
    rw [hg] at h
    cases h
    exact Grammar.direction_of_compile_eq_ok hg

end Matcher

end Headword
