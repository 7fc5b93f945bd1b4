/-!
# Directions

A phrase is walked from its first word or from its last one.
-/

namespace Headword

/-- The end of a phrase at which matching starts. -/
inductive Direction
  /-- From the first word on. -/
  | forward
  /-- From the last word back. -/
  | backward
  deriving DecidableEq

namespace Direction

def name : Direction → String
  | forward => "forward"
  | backward => "backward"

def isBackward : Direction → Bool
  | forward => false
  | backward => true

/-- A list in reading order, put into walking order. -/
def orient {α : Type} (d : Direction) (xs : List α) : List α :=
  if d.isBackward then xs.reverse else xs

section

variable {α β : Type}

@[simp] theorem orient_forward (xs : List α) : forward.orient xs = xs := rfl

@[simp] theorem orient_backward (xs : List α) : backward.orient xs = xs.reverse := rfl

/-- Walking order read in walking order is reading order again. -/
@[simp] theorem orient_orient (d : Direction) (xs : List α) : d.orient (d.orient xs) = xs := by
  cases d <;> simp

@[simp] theorem length_orient (d : Direction) (xs : List α) :
    (d.orient xs).length = xs.length := by
  cases d <;> simp

@[simp] theorem mem_orient {d : Direction} {xs : List α} {x : α} : x ∈ d.orient xs ↔ x ∈ xs := by
  cases d <;> simp

@[simp] theorem orient_eq_nil_iff {d : Direction} {xs : List α} : d.orient xs = [] ↔ xs = [] := by
  cases d <;> simp

theorem orient_map (d : Direction) (f : α → β) (xs : List α) :
    d.orient (xs.map f) = (d.orient xs).map f := by
  cases d <;> simp

end

end Direction

end Headword
