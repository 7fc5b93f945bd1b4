import Headword.Category
import Headword.Text.Normal

/-!
# Word lists

The entries of each category.  An entry is a row of words; the empty row allows the category to be left
out wherever a template asks for it.
-/

namespace Headword

/-- A row of words that stands for its category, in reading order. -/
abbrev Entry : Type := List String

/-- The entry with the words of a text, lowercased. -/
def Entry.ofText (text : String) : Entry :=
  Text.normalWords text

/-- The entries of each category, or `none` for a category without a list. -/
structure Vocabulary where
  lists : Category.Table (Option (List Entry))
  deriving DecidableEq

namespace Vocabulary

def empty : Vocabulary :=
  ⟨.replicate none⟩

def entries? (v : Vocabulary) (c : Category) : Option (List Entry) :=
  v.lists.get c

/-- The entries of a category, none when it has no list. -/
def entries (v : Vocabulary) (c : Category) : List Entry :=
  (v.entries? c).getD []

def declares (v : Vocabulary) (c : Category) : Bool :=
  (v.entries? c).isSome

def isOptional (v : Vocabulary) (c : Category) : Bool :=
  (v.entries c).any List.isEmpty

/-- Adds entries at the end of a list, which is started if there is none. -/
def extend (v : Vocabulary) (c : Category) (texts : List String) : Vocabulary :=
  ⟨v.lists.set c (some (v.entries c ++ texts.map Entry.ofText))⟩

def categories (v : Vocabulary) : List Category :=
  Category.all.filter v.declares

theorem entries?_extend_self (v : Vocabulary) (c : Category) (texts : List String) :
    (v.extend c texts).entries? c = some (v.entries c ++ texts.map Entry.ofText) := by
  simp [extend, entries?]

theorem entries?_extend_of_ne (v : Vocabulary) {c d : Category} (h : d ≠ c) (texts : List String) :
    (v.extend c texts).entries? d = v.entries? d := by
  simp [extend, entries?, Category.Table.get_set_of_ne _ h]

theorem isOptional_iff {v : Vocabulary} {c : Category} : v.isOptional c = true ↔ [] ∈ v.entries c := by
  simp [isOptional, List.isEmpty_iff]

end Vocabulary

end Headword
