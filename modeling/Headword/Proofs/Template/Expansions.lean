import Mathlib.Data.List.Induction
import Mathlib.Data.Nat.Bitwise
import Mathlib.Logic.ExistsUnique
import Headword.Template

/-!
# Expansions in order

A template expands slot by slot: every row so far goes on with the slot, and when the slot is optional,
the rows as they were follow.  So each slot that may be left out doubles the rows, and the place of a row
in the list, written in binary, tells which of these slots the row is without.
-/

namespace Headword.Template

variable {optional : Category → Bool} {row : List Slot} {s : Slot}

/-! ## One slot after another -/

/-- The rows that go on with a slot, and after them, when the slot is optional, those that do not. -/
def grow (optional : Category → Bool) (rows : List (List Slot)) (s : Slot) : List (List Slot) :=
  rows.map (· ++ [s]) ++ if s.isOptional optional then rows else []

theorem grow_of_isOptional (hs : s.isOptional optional = true) (rows : List (List Slot)) :
    grow optional rows s = rows.map (· ++ [s]) ++ rows := by
  rw [grow, if_pos hs]

theorem grow_of_not_isOptional (hs : ¬s.isOptional optional = true) (rows : List (List Slot)) :
    grow optional rows s = rows.map (· ++ [s]) := by
  rw [grow, if_neg hs, List.append_nil]

theorem variants_concat (optional : Category → Bool) (row : List Slot) (s : Slot) :
    variants optional (row ++ [s]) = grow optional (variants optional row) s := by
  induction row with
  | nil =>
    show (if s.isOptional optional then [[s], []] else [[s]]) ++ [] = _
    rw [List.append_nil, grow]
    split <;> rfl
  | cons r rest ih =>
    -- the choice for the first slot leaves the last one where it is
    have hlast : ∀ v : List Slot,
        (if r.isOptional optional then [r :: (v ++ [s]), v ++ [s]] else [r :: (v ++ [s])]) =
          (if r.isOptional optional then [r :: v, v] else [r :: v]).map (· ++ [s]) := by
      intro v
      split <;> rfl
    rw [List.cons_append, variants, ih]
    by_cases hs : s.isOptional optional = true
    · rw [grow_of_isOptional hs, grow_of_isOptional hs, List.flatMap_append, List.flatMap_map, variants,
        List.map_flatMap]
      simp only [hlast]
    · rw [grow_of_not_isOptional hs, grow_of_not_isOptional hs, List.flatMap_map, variants,
        List.map_flatMap]
      simp only [hlast]

/-- The rows of a template are grown from the empty row. -/
theorem variants_eq_foldl (optional : Category → Bool) (row : List Slot) :
    variants optional row = row.foldl (grow optional) [[]] := by
  induction row using List.reverseRecOn with
  | nil => rfl
  | append_singleton row s ih =>
    rw [variants_concat, List.foldl_append, ih]
    rfl

/-! ## Rows by what they are without -/

/-- The number of slots that may be left out. -/
def optionalCount (optional : Category → Bool) (row : List Slot) : Nat :=
  row.countP (·.isOptional optional)

/-- The row without those of its optional slots, numbered from the left and from 0, whose numbers `drop`
holds of. -/
def without (optional : Category → Bool) (drop : Nat → Bool) (row : List Slot) : List Slot :=
  (row.zipIdx.filter fun p =>
    !(p.1.isOptional optional && drop (optionalCount optional (row.take p.2)))).map Prod.fst

theorem optionalCount_concat : optionalCount optional (row ++ [s]) =
    optionalCount optional row + if s.isOptional optional then 1 else 0 := by
  rw [optionalCount, List.countP_append, List.countP_singleton]
  rfl

theorem without_concat (drop : Nat → Bool) :
    without optional drop (row ++ [s]) = without optional drop row ++
      if s.isOptional optional && drop (optionalCount optional row) then [] else [s] := by
  have hbefore : ∀ p ∈ row.zipIdx,
      (!(p.1.isOptional optional && drop (optionalCount optional ((row ++ [s]).take p.2)))) =
        !(p.1.isOptional optional && drop (optionalCount optional (row.take p.2))) := by
    rintro ⟨r, place⟩ hp
    have hlt := (List.mem_zipIdx' hp).1
    rw [List.take_append_of_le_length (Nat.le_of_lt hlt)]
  rw [without, List.zipIdx_append, List.filter_append, List.map_append, List.filter_congr hbefore,
    Nat.zero_add, List.zipIdx_singleton, List.filter_cons]
  dsimp only
  rw [List.take_left]
  cases s.isOptional optional && drop (optionalCount optional row) <;> rfl

/-- Only the numbers of optional slots matter. -/
theorem without_congr {drop drop' : Nat → Bool}
    (h : ∀ j < optionalCount optional row, drop j = drop' j) :
    without optional drop row = without optional drop' row := by
  induction row using List.reverseRecOn with
  | nil => rfl
  | append_singleton row s ih =>
    rw [optionalCount_concat] at h
    rw [without_concat, without_concat, ih fun j hj => h j (by omega)]
    by_cases hs : s.isOptional optional = true
    · rw [h (optionalCount optional row) (by rw [if_pos hs]; omega)]
    · rw [Bool.not_eq_true] at hs
      rw [hs, Bool.false_and, Bool.false_and]

theorem without_none (optional : Category → Bool) (row : List Slot) :
    without optional (fun _ => false) row = row := by
  induction row using List.reverseRecOn with
  | nil => rfl
  | append_singleton row s ih =>
    rw [without_concat, ih, Bool.and_false]
    rfl

theorem without_all (optional : Category → Bool) (row : List Slot) :
    without optional (fun _ => true) row = row.filter fun s => !s.isOptional optional := by
  induction row using List.reverseRecOn with
  | nil => rfl
  | append_singleton row s ih =>
    rw [without_concat, ih, Bool.and_true, List.filter_append, List.filter_cons]
    cases s.isOptional optional <;> rfl

theorem without_sublist (optional : Category → Bool) (drop : Nat → Bool) (row : List Slot) :
    (without optional drop row).Sublist row := by
  have hkept : ((row.zipIdx.filter fun p =>
      !(p.1.isOptional optional && drop (optionalCount optional (row.take p.2)))).map Prod.fst).Sublist
        (row.zipIdx.map Prod.fst) := List.filter_sublist.map Prod.fst
  rwa [List.zipIdx_map_fst] at hkept

/-- The slots that may not be left out are all there. -/
theorem filter_without (optional : Category → Bool) (drop : Nat → Bool) (row : List Slot) :
    (without optional drop row).filter (fun s => !s.isOptional optional) =
      row.filter fun s => !s.isOptional optional := by
  induction row using List.reverseRecOn with
  | nil => rfl
  | append_singleton row s ih =>
    rw [without_concat, List.filter_append, List.filter_append, ih]
    by_cases hs : s.isOptional optional = true
    · -- an optional slot counts on neither side
      have hone : [s].filter (fun s => !s.isOptional optional) = [] := by
        rw [List.filter_cons, hs]
        rfl
      split
      · rw [hone]
        rfl
      · rfl
    · rw [Bool.not_eq_true] at hs
      rw [hs, Bool.false_and]
      rfl

/-! ## The row at each place -/

/-- The rows that a row of slots stands for, numbered by the optional slots that they are without. -/
def choices (optional : Category → Bool) (row : List Slot) : List (List Slot) :=
  (List.range (2 ^ optionalCount optional row)).map fun i => without optional i.testBit row

/-- An optional slot gets the next bit: the rows that go on with it keep their numbers, and the rows
without it get theirs with that bit set. -/
theorem grow_choices (optional : Category → Bool) (row : List Slot) (s : Slot) :
    grow optional (choices optional row) s = choices optional (row ++ [s]) := by
  unfold choices
  rw [optionalCount_concat]
  by_cases hs : s.isOptional optional = true
  · have hkeep : ∀ i ∈ List.range (2 ^ optionalCount optional row),
        without optional i.testBit row ++ [s] = without optional i.testBit (row ++ [s]) := by
      intro i hi
      have hbit : i.testBit (optionalCount optional row) = false :=
        Nat.testBit_lt_two_pow (List.mem_range.mp hi)
      rw [without_concat, hbit, Bool.and_false]
      rfl
    have hdrop : ∀ i ∈ List.range (2 ^ optionalCount optional row), without optional i.testBit row =
        without optional (2 ^ optionalCount optional row + i).testBit (row ++ [s]) := by
      intro i hi
      have hbit : (2 ^ optionalCount optional row + i).testBit (optionalCount optional row) = true := by
        rw [Nat.testBit_two_pow_add_eq, Nat.testBit_lt_two_pow (List.mem_range.mp hi)]
        rfl
      rw [without_concat, hs, hbit]
      show _ = without optional (2 ^ optionalCount optional row + i).testBit row ++ []
      rw [List.append_nil]
      exact without_congr fun j hj => (Nat.testBit_two_pow_add_gt hj i).symm
    rw [grow_of_isOptional hs, if_pos hs, Nat.pow_succ, Nat.mul_two, List.range_add, List.map_append,
      List.map_map, List.map_map]
    exact congrArg₂ (· ++ ·) (List.map_congr_left hkeep) (List.map_congr_left hdrop)
  · have hkeep : ∀ i : Nat, without optional i.testBit row ++ [s] =
        without optional i.testBit (row ++ [s]) := by
      intro i
      rw [without_concat, Bool.eq_false_iff.mpr hs]
      rfl
    rw [grow_of_not_isOptional hs, if_neg hs, Nat.add_zero, List.map_map]
    exact List.map_congr_left fun i _ => hkeep i

theorem foldl_grow (optional : Category → Bool) (row : List Slot) :
    row.foldl (grow optional) [[]] = choices optional row := by
  induction row using List.reverseRecOn with
  | nil => rfl
  | append_singleton row s ih =>
    rw [List.foldl_append, ih]
    exact grow_choices optional row s

theorem expansions_eq_choices (t : Template) (optional : Category → Bool) :
    t.expansions optional = choices optional t.slots := by
  rw [expansions, variants_eq_foldl, foldl_grow]

theorem getElem?_choices {i : Nat} (h : i < 2 ^ optionalCount optional row) :
    (choices optional row)[i]? = some (without optional i.testBit row) := by
  rw [choices, List.getElem?_map, List.getElem?_range h]
  rfl

/-- Each choice among the first `k` numbers is written in binary by one number below `2 ^ k`. -/
theorem existsUnique_testBit (k : Nat) (drop : Nat → Bool) :
    ∃! i, i < 2 ^ k ∧ ∀ j < k, i.testBit j = drop j := by
  refine ⟨Nat.ofBits fun j : Fin k => drop j, ⟨Nat.ofBits_lt_two_pow _, fun j hj => ?_⟩, ?_⟩
  · exact Nat.testBit_ofBits_lt _ j hj
  · rintro i ⟨hi, hbits⟩
    apply Nat.eq_of_testBit_eq
    intro j
    by_cases hj : j < k
    · rw [hbits j hj, Nat.testBit_ofBits_lt _ j hj]
    · rw [Nat.testBit_ofBits_ge _ j (Nat.le_of_not_lt hj)]
      exact Nat.testBit_lt_two_pow (Nat.lt_of_lt_of_le hi (Nat.pow_le_pow_right Nat.zero_lt_two
        (Nat.le_of_not_lt hj)))

/-- A template with `k` optional slots expands to `2 ^ k` rows.  The row at place `i` is the template
without the optional slots whose bits are set in `i`, so the full row comes first, the row without all of
them comes last, and each choice has one place. -/
theorem expansions_enumerate_choices (t : Template) (optional : Category → Bool) :
    (t.expansions optional).length = 2 ^ optionalCount optional t.slots ∧
    (∀ i < 2 ^ optionalCount optional t.slots,
      (t.expansions optional)[i]? = some (without optional i.testBit t.slots)) ∧
    (∀ drop : Nat → Bool, ∃! i, i < 2 ^ optionalCount optional t.slots ∧
      (∀ j < optionalCount optional t.slots, i.testBit j = drop j) ∧
      (t.expansions optional)[i]? = some (without optional drop t.slots)) ∧
    (t.expansions optional).head? = some t.slots ∧
    (t.expansions optional).getLast? = some (t.slots.filter fun s => !s.isOptional optional) ∧
    ∀ row ∈ t.expansions optional, row.Sublist t.slots ∧
      row.filter (fun s => !s.isOptional optional) = t.slots.filter fun s => !s.isOptional optional := by
  rw [expansions_eq_choices]
  have hpos : 2 ^ optionalCount optional t.slots ≠ 0 := Nat.ne_of_gt (Nat.two_pow_pos _)
  refine ⟨?_, fun i => getElem?_choices, fun drop => ?_, ?_, ?_, fun row hrow => ?_⟩
  · rw [choices, List.length_map, List.length_range]
  · obtain ⟨i, ⟨hi, hbits⟩, hunique⟩ := existsUnique_testBit (optionalCount optional t.slots) drop
    refine ⟨i, ⟨hi, hbits, ?_⟩, fun i' hi' => hunique i' ⟨hi'.1, hi'.2.1⟩⟩
    rw [getElem?_choices hi, without_congr hbits]
  · -- no bit of 0 is set
    rw [choices, List.head?_map, List.head?_range, if_neg hpos]
    have hzero : without optional (Nat.testBit 0) t.slots = t.slots := by
      rw [without_congr fun j _ => Nat.zero_testBit j, without_none]
    exact congrArg some hzero
  · -- all bits of the last number are set
    rw [choices, List.getLast?_map, List.getLast?_range, if_neg hpos]
    have hones : without optional (2 ^ optionalCount optional t.slots - 1).testBit t.slots =
        t.slots.filter fun s => !s.isOptional optional := by
      rw [← without_all]
      apply without_congr
      intro j hj
      rw [Nat.testBit_two_pow_sub_one, decide_eq_true hj]
    exact congrArg some hones
  · obtain ⟨i, -, rfl⟩ := List.mem_map.mp hrow
    exact ⟨without_sublist optional _ _, filter_without optional _ _⟩

/-- The row `{art} look {prep} {art}` with articles and prepositions to be left out: the fifth of its
eight rows is without the second article. -/
theorem expansions_enumerate_art_look_prep_art :
    4 < 2 ^ optionalCount (fun c => c ≠ .verb)
        [.category .article, .word "look", .category .preposition, .category .article] ∧
      (expansions ⟨[.category .article, .word "look", .category .preposition, .category .article]⟩
        (fun c => c ≠ .verb))[4]? = some [.category .article, .word "look", .category .preposition] := by
  have hlt : 4 < 2 ^ optionalCount (fun c => c ≠ .verb)
      [.category .article, .word "look", .category .preposition, .category .article] := by decide
  have hrow := (expansions_enumerate_choices
    ⟨[.category .article, .word "look", .category .preposition, .category .article]⟩
    (fun c => c ≠ .verb)).2.1 4 hlt
  refine ⟨hlt, hrow.trans ?_⟩
  decide

end Headword.Template
