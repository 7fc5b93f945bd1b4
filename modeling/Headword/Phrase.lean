import Headword.Text.Normal
import Headword.Text.Terminal

/-!
# Phrases

A phrase is matched word by word, in normal form and without the terminal punctuation at its end.  The
punctuation is kept aside to be attached again to whatever is left of the phrase.
-/

namespace Headword

/-- The words of a phrase and the punctuation set aside from its end. -/
structure Phrase where
  words : List String
  /-- Terminal punctuation, after a space when it stood apart from the other words. -/
  trailing : String
  deriving DecidableEq

namespace Phrase

/-- The phrase with these words.  Only the last word can lose its terminal punctuation, and it keeps it
when it is declared as a word with that punctuation. -/
def ofWords (declared : String → Bool) (ws : List String) : Phrase :=
  match ws.getLast? with
  | none => ⟨[], ""⟩
  | some last =>
    if Text.terminalRun last = "" || declared last then ⟨ws, ""⟩
    else if Text.stem last ≠ "" then ⟨ws.dropLast ++ [Text.stem last], Text.terminalRun last⟩
    -- nothing is left of the word, so the space before it is set aside as well
    else if ws.dropLast = [] then ⟨[], Text.terminalRun last⟩
    else ⟨ws.dropLast, " " ++ Text.terminalRun last⟩

/-- Reads a phrase in normal form. -/
def parse (declared : String → Bool) (text : String) : Phrase :=
  ofWords declared (Text.normalWords text)

/-- Words followed by the punctuation set aside. -/
def text (p : Phrase) : String :=
  Text.join p.words ++ p.trailing

def isEmpty (p : Phrase) : Bool :=
  p.words.isEmpty

/-- What some of the words leave behind: the words with the punctuation attached, or nothing at all when
there are no words. -/
def attach (p : Phrase) (ws : List String) : String :=
  if ws.isEmpty then "" else Text.join ws ++ p.trailing

/-- The text left by the words from position `start` up to position `stop`, or `none` when words beyond
the last one are asked for. -/
def remainder? (p : Phrase) (start stop : Nat) : Option String :=
  if stop ≤ start then some ""
  else if stop ≤ p.words.length then some (p.attach ((p.words.drop start).take (stop - start)))
  else none

@[simp] theorem attach_nil (p : Phrase) : p.attach [] = "" := rfl

theorem attach_of_ne_nil (p : Phrase) {ws : List String} (h : ws ≠ []) :
    p.attach ws = Text.join ws ++ p.trailing := by
  simp [attach, h]

theorem remainder?_drop (p : Phrase) (n : Nat) :
    p.remainder? n p.words.length = some (p.attach (p.words.drop n)) := by
  unfold remainder?
  split
  next h => simp [List.drop_eq_nil_of_le h]
  next => simp [List.take_of_length_le]

theorem remainder?_take (p : Phrase) {n : Nat} (h : n ≤ p.words.length) :
    p.remainder? 0 n = some (p.attach (p.words.take n)) := by
  unfold remainder?
  split
  next hn =>
    obtain rfl : n = 0 := Nat.le_zero.mp hn
    simp
  next => simp

end Phrase

end Headword
