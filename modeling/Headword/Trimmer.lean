import Headword.Matcher

/-!
# Trimmers

A trimmer reduces a phrase to its content: it strips the filler at the beginning and then the filler at
the end.  The content is also the key under which phrases are sorted.
-/

namespace Headword

/-- A matcher for the beginning of phrases and one for their end. -/
structure Trimmer where
  leading : Matcher
  trailing : Matcher
  leading_forward : leading.direction = .forward
  trailing_backward : trailing.direction = .backward

namespace Trimmer

/-- The matcher that works at the wrong end. -/
inductive Mismatch
  | leading
  | trailing
  deriving DecidableEq

def Mismatch.message : Mismatch → String
  | leading => "leading matcher must be forward"
  | trailing => "trailing matcher must be backward"

/-- A trimmer from two matchers, of which the leading one is checked first. -/
def ofMatchers (leading trailing : Matcher) : Except Mismatch Trimmer :=
  if hl : leading.direction = .forward then
    if ht : trailing.direction = .backward then .ok ⟨leading, trailing, hl, ht⟩
    else .error .trailing
  else .error .leading

/-- Compiles both catalogs, the leading one first. -/
def build (leading trailing : Catalog) (vocabulary : Vocabulary) (ignored : List String) :
    Except Fault Trimmer :=
  -- the equations are kept for the directions that a trimmer asks for
  match hl : Matcher.build leading vocabulary .forward ignored with
  | .error fault => .error fault
  | .ok l =>
    match ht : Matcher.build trailing vocabulary .backward ignored with
    | .error fault => .error fault
    | .ok t =>
      .ok ⟨l, t, Matcher.direction_of_build_eq_ok hl, Matcher.direction_of_build_eq_ok ht⟩

def strip (t : Trimmer) (text : String) : String :=
  t.trailing.remove (t.leading.remove text)

/-- The content of a phrase.  A phrase that is nothing but filler is its own content. -/
def trim (t : Trimmer) (text : String) : String :=
  let stripped := t.strip text
  if stripped = "" then Text.normalize text else stripped

/-- The key under which a phrase is sorted. -/
def sortKey (t : Trimmer) (text : String) : String :=
  t.trim text

/-- Phrases in the order of their keys; phrases with equal keys keep their order. -/
def sortByKey (t : Trimmer) (texts : List String) : List String :=
  let keyed := texts.map fun text => (t.sortKey text, text)
  (keyed.mergeSort fun a b => decide (a.1 ≤ b.1)).map (·.2)

end Trimmer

/-- The values that arise when `f` is applied again and again, up to the first one that it does not
change, and no more than `limit` times. -/
def successive (f : String → String) : Nat → String → List String
  | 0, x => [x]
  | limit + 1, x => if f x = x then [x] else x :: successive f limit (f x)

end Headword
