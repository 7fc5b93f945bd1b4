import Headword.Category
import Headword.Text.Lowercase
import Headword.Text.Words
import Headword.WordSet

/-!
# Templates

A template is a row of slots.  Each slot asks for one word or for any entry of a category, and a template
stands for several rows, its expansions, when some of its categories may be left out.
-/

namespace Headword

/-- One position of a template. -/
inductive Slot
  /-- This word, exactly. -/
  | word (w : String)
  /-- An entry of the category. -/
  | category (c : Category)
  deriving DecidableEq

namespace Slot

/-- A slot for the lowercase form of a word. -/
def ofWord (w : String) : Slot :=
  word (Text.lowercase w)

def text : Slot → String
  | word w => w
  | category c => c.label

def word? : Slot → Option String
  | word w => some w
  | category _ => none

def category? : Slot → Option Category
  | word _ => none
  | category c => some c

def isOptional (optional : Category → Bool) : Slot → Bool
  | word _ => false
  | category c => optional c

end Slot

/-- A row of slots, in reading order. -/
structure Template where
  slots : List Slot
  deriving DecidableEq

namespace Template

/-- The written form of a template, with a space between neighbouring slots. -/
def text (t : Template) : String :=
  Text.join (t.slots.map Slot.text)

/-- The categories that a template asks for, in reading order and with repetitions. -/
def categories (t : Template) : List Category :=
  t.slots.filterMap Slot.category?

def words (t : Template) : List String :=
  t.slots.filterMap Slot.word?

def mentionsAny (t : Template) (ignored : WordSet) : Bool :=
  t.words.any fun w => decide (w ∈ ignored)

/-- The rows that arise from a row of slots when each optional slot is either kept or left out.  The
choice for the first optional slot alternates fastest, and the full row comes first. -/
def variants (optional : Category → Bool) : List Slot → List (List Slot)
  | [] => [[]]
  | s :: rest =>
    (variants optional rest).flatMap fun row =>
      if s.isOptional optional then [s :: row, row] else [s :: row]

/-- The rows of slots that a template stands for when `optional` categories may be left out. -/
def expansions (t : Template) (optional : Category → Bool) : List (List Slot) :=
  variants optional t.slots

theorem mem_variants_self (optional : Category → Bool) (row : List Slot) :
    row ∈ variants optional row := by
  induction row with
  | nil => simp [variants]
  | cons s rest ih =>
    refine List.mem_flatMap.mpr ⟨rest, ih, ?_⟩
    split <;> simp

end Template

end Headword
