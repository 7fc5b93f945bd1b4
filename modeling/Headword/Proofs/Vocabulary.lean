import Headword.Vocabulary

/-!
# Revised word lists

Every list of a vocabulary in exchange for another one.  No category gains or loses a list.
-/

namespace Headword

namespace Category.Table

variable {α β : Type}

def map (f : α → β) (t : Table α) : Table β :=
  ⟨f t.article, f t.pronoun, f t.verb, f t.preposition⟩

@[simp] theorem get_map (f : α → β) (t : Table α) (c : Category) : (t.map f).get c = f (t.get c) := by
  cases c <;> rfl

end Category.Table

namespace Vocabulary

/-- The vocabulary with `f` applied to each list. -/
def revise (v : Vocabulary) (f : List Entry → List Entry) : Vocabulary :=
  ⟨v.lists.map (Option.map f)⟩

variable (v : Vocabulary) (f : List Entry → List Entry) (c : Category)

theorem entries?_revise : (v.revise f).entries? c = (v.entries? c).map f :=
  Category.Table.get_map ..

@[simp] theorem declares_revise : (v.revise f).declares c = v.declares c := by
  rw [declares, entries?_revise, Option.isSome_map]
  rfl

/-- A category without a list has no entries before and none afterwards. -/
theorem entries_revise (hf : f [] = []) : (v.revise f).entries c = f (v.entries c) := by
  rw [entries, entries, entries?_revise]
  cases v.entries? c with
  | none => exact hf.symm
  | some es => rfl

end Vocabulary

end Headword
