import Mathlib.Data.List.Forall2

/-!
# The first member of a list

A list is read member by member, and the first one that cannot be read decides the fault
(`mapM_eq_error_iff`).
-/

namespace Headword

/-- The member at a position has the property, and no member before it has. -/
inductive IsFirst {α : Type} (P : α → Prop) : List α → Nat → α → Prop
  | here {x : α} {xs : List α} : P x → IsFirst P (x :: xs) 0 x
  | later {x : α} {xs : List α} {n : Nat} {y : α} :
    ¬P x → IsFirst P xs n y → IsFirst P (x :: xs) (n + 1) y

section

variable {α : Type} {P Q : α → Prop} {x y : α} {xs : List α} {n : Nat}

theorem IsFirst.holds (h : IsFirst P xs n x) : P x := by
  induction h with
  | here hx => exact hx
  | later _ _ ih => exact ih

theorem IsFirst.mem (h : IsFirst P xs n x) : x ∈ xs := by
  induction h with
  | here _ => exact List.mem_cons_self ..
  | later _ _ ih => exact List.mem_cons_of_mem _ ih

theorem not_isFirst_nil : ¬IsFirst P [] n x :=
  fun h => List.not_mem_nil h.mem

theorem isFirst_cons_of_pos (hx : P x) : IsFirst P (x :: xs) n y ↔ n = 0 ∧ y = x := by
  constructor
  · intro h
    cases h with
    | here _ => exact ⟨rfl, rfl⟩
    | later hnot _ => exact absurd hx hnot
  · intro h
    rw [h.1, h.2]
    exact .here hx

theorem isFirst_cons_of_neg (hx : ¬P x) :
    IsFirst P (x :: xs) n y ↔ ∃ m, n = m + 1 ∧ IsFirst P xs m y := by
  constructor
  · intro h
    cases h with
    | here hy => exact absurd hy hx
    | later _ hlater => exact ⟨_, rfl, hlater⟩
  · rintro ⟨m, rfl, hlater⟩
    exact .later hx hlater

theorem exists_isFirst_iff : (∃ n x, IsFirst P xs n x) ↔ ∃ x ∈ xs, P x := by
  constructor
  · rintro ⟨n, x, h⟩
    exact ⟨x, h.mem, h.holds⟩
  · rintro ⟨x, hmem, hx⟩
    induction xs with
    | nil => cases hmem
    | cons z zs ih =>
      by_cases hz : P z
      · exact ⟨0, z, .here hz⟩
      · have hne : x ≠ z := fun heq => hz (heq ▸ hx)
        obtain ⟨n, w, hfirst⟩ := ih (List.mem_of_ne_of_mem hne hmem)
        exact ⟨n + 1, w, .later hz hfirst⟩

theorem isFirst_congr (hPQ : ∀ x ∈ xs, P x ↔ Q x) : IsFirst P xs n x ↔ IsFirst Q xs n x := by
  induction xs generalizing n with
  | nil => exact iff_of_false not_isFirst_nil not_isFirst_nil
  | cons z zs ih =>
    have hrest : ∀ m, IsFirst P zs m x ↔ IsFirst Q zs m x :=
      fun m => ih fun y hy => hPQ y (List.mem_cons_of_mem _ hy)
    have hhead := hPQ z (List.mem_cons_self ..)
    by_cases hz : P z
    · rw [isFirst_cons_of_pos hz, isFirst_cons_of_pos (hhead.mp hz)]
    · rw [isFirst_cons_of_neg hz, isFirst_cons_of_neg fun hq => hz (hhead.mpr hq)]
      simp only [hrest]

/-- Members that are numbered on the way have their positions as numbers. -/
theorem isFirst_zipIdx_iff (P : α → Prop) (xs : List α) {i : Nat} :
    IsFirst (fun p : α × Nat => P p.1) xs.zipIdx n (x, i) ↔ IsFirst P xs n x ∧ i = n := by
  have key : ∀ k m, IsFirst (fun p : α × Nat => P p.1) (xs.zipIdx k) m (x, i) ↔
      IsFirst P xs m x ∧ i = k + m := by
    induction xs with
    | nil => exact fun k m => iff_of_false not_isFirst_nil fun h => not_isFirst_nil h.1
    | cons z zs ih =>
      intro k m
      rw [List.zipIdx_cons]
      by_cases hz : P z
      · rw [isFirst_cons_of_pos (P := fun p : α × Nat => P p.1) hz, isFirst_cons_of_pos hz,
          Prod.mk.injEq]
        grind
      · rw [isFirst_cons_of_neg (P := fun p : α × Nat => P p.1) hz, isFirst_cons_of_neg hz]
        simp only [ih]
        grind
  rw [key, Nat.zero_add]

end

theorem findSome?_eq_some_iff_isFirst {α β : Type} {f : α → Option β} {xs : List α} {b : β} :
    xs.findSome? f = some b ↔ ∃ n x, IsFirst (fun x => (f x).isSome = true) xs n x ∧ f x = some b := by
  induction xs with
  | nil =>
    apply iff_of_false
    · exact fun h => by cases h
    · exact fun ⟨_, _, h, _⟩ => not_isFirst_nil h
  | cons z zs ih =>
    rw [List.findSome?_cons]
    cases hz : f z with
    | some y =>
      have hsome : (f z).isSome = true := by rw [hz]; rfl
      simp only [isFirst_cons_of_pos (P := fun x => (f x).isSome = true) hsome]
      grind
    | none =>
      have hnone : ¬(f z).isSome = true := by rw [hz]; simp
      simp only [isFirst_cons_of_neg (P := fun x => (f x).isSome = true) hnone, ih]
      grind

theorem find?_eq_some_iff_isFirst {α : Type} {p : α → Bool} {xs : List α} {x : α} :
    xs.find? p = some x ↔ ∃ n, IsFirst (fun x => p x = true) xs n x := by
  rw [List.find?_eq_findSome?_guard, findSome?_eq_some_iff_isFirst]
  simp only [Option.isSome_guard, Option.guard_eq_some_iff]
  constructor
  · rintro ⟨n, _, hfirst, rfl, -⟩
    exact ⟨n, hfirst⟩
  · rintro ⟨n, hfirst⟩
    exact ⟨n, x, hfirst, rfl, hfirst.holds⟩

/-! ## Results that are changed -/

section

variable {α β ε ε' : Type} {r : Except ε α}

theorem map_eq_ok_iff {g : α → β} {y : β} : r.map g = .ok y ↔ ∃ x, r = .ok x ∧ g x = y := by
  cases r with
  | error e => exact iff_of_false (fun h => by cases h) fun h => by cases h.choose_spec.1
  | ok x =>
    show Except.ok (g x) = .ok y ↔ _
    simp only [Except.ok.injEq, exists_eq_left']

theorem map_eq_error_iff {g : α → β} {e : ε} : r.map g = .error e ↔ r = .error e := by
  cases r with
  | error e' =>
    show Except.error e' = Except.error e ↔ _
    rw [Except.error.injEq, Except.error.injEq]
  | ok x => exact iff_of_false (fun h => by cases h) fun h => by cases h

theorem mapError_eq_ok_iff {g : ε → ε'} {x : α} : r.mapError g = .ok x ↔ r = .ok x := by
  cases r with
  | error e => exact iff_of_false (fun h => by cases h) fun h => by cases h
  | ok y =>
    show Except.ok y = Except.ok x ↔ _
    rw [Except.ok.injEq, Except.ok.injEq]

theorem mapError_eq_error_iff {g : ε → ε'} {e' : ε'} :
    r.mapError g = .error e' ↔ ∃ e, r = .error e ∧ g e = e' := by
  cases r with
  | error e =>
    show Except.error (g e) = .error e' ↔ _
    simp only [Except.error.injEq, exists_eq_left']
  | ok x => exact iff_of_false (fun h => by cases h) fun h => by cases h.choose_spec.1

end

/-! ## Reading all members of a list -/

section

variable {α β ε : Type} {f : α → Except ε β} {x : α} {xs : List α} {ys : List β} {fault : ε}

/-- The reader fails on the member. -/
def Fails (f : α → Except ε β) (x : α) : Prop :=
  ∃ fault, f x = .error fault

theorem not_fails_iff : ¬Fails f x ↔ ∃ y, f x = .ok y := by
  unfold Fails
  cases f x with
  | error fault => simp
  | ok y => simp

theorem forall₂_congr_of_mem {R S : α → β → Prop} (h : ∀ x ∈ xs, ∀ y, R x y ↔ S x y) :
    List.Forall₂ R xs ys ↔ List.Forall₂ S xs ys := by
  have key : ∀ {R S : α → β → Prop}, (∀ x ∈ xs, ∀ y, R x y → S x y) →
      List.Forall₂ R xs ys → List.Forall₂ S xs ys := by
    intro R S himp hR
    have hmem := (List.forall₂_and_left (p := (· ∈ xs)) xs ys).mpr ⟨fun _ hx => hx, hR⟩
    exact hmem.imp fun x y hxy => himp x hxy.1 y hxy.2
  exact ⟨key fun x hx y => (h x hx y).mp, key fun x hx y => (h x hx y).mpr⟩

theorem exists_forall₂_iff {R : α → β → Prop} :
    (∃ ys, List.Forall₂ R xs ys) ↔ ∀ x ∈ xs, ∃ y, R x y := by
  induction xs with
  | nil => exact iff_of_true ⟨[], .nil⟩ fun _ h => absurd h List.not_mem_nil
  | cons x xs ih =>
    simp only [List.forall₂_cons_left_iff, List.forall_mem_cons, ← ih]
    constructor
    · rintro ⟨_, y, ys, hy, hys, rfl⟩
      exact ⟨⟨y, hy⟩, ys, hys⟩
    · rintro ⟨⟨y, hy⟩, ys, hys⟩
      exact ⟨y :: ys, y, ys, hy, hys, rfl⟩

theorem exists_of_mem_forall₂ {R : α → β → Prop} (h : List.Forall₂ R xs ys) {y : β} (hy : y ∈ ys) :
    ∃ x ∈ xs, R x y := by
  induction h with
  | nil => cases hy
  | @cons z _ zs _ hR _ ih =>
    rcases List.mem_cons.mp hy with rfl | hy
    · exact ⟨z, List.mem_cons_self .., hR⟩
    · obtain ⟨x, hx, hRx⟩ := ih hy
      exact ⟨x, List.mem_cons_of_mem _ hx, hRx⟩

theorem mapM_eq_ok_iff : xs.mapM f = .ok ys ↔ List.Forall₂ (fun x y => f x = .ok y) xs ys := by
  induction xs generalizing ys with
  | nil =>
    rw [List.mapM_nil, List.forall₂_nil_left_iff]
    exact ⟨fun h => (Except.ok.inj h).symm, fun h => h ▸ rfl⟩
  | cons x xs ih =>
    rw [List.mapM_cons, List.forall₂_cons_left_iff]
    cases hx : f x with
    | error fault =>
      apply iff_of_false
      · exact fun h => by cases h
      · exact fun ⟨_, _, hy, _⟩ => by cases hy
    | ok y =>
      simp only [← ih]
      cases xs.mapM f with
      | error fault =>
        apply iff_of_false
        · exact fun h => by cases h
        · exact fun ⟨_, _, _, hrest, _⟩ => by cases hrest
      | ok zs =>
        show Except.ok (y :: zs) = Except.ok ys ↔ _
        grind

/-- The first member that cannot be read decides the fault. -/
theorem mapM_eq_error_iff :
    xs.mapM f = .error fault ↔ ∃ n x, IsFirst (Fails f) xs n x ∧ f x = .error fault := by
  induction xs with
  | nil =>
    apply iff_of_false
    · exact fun h => by cases h
    · exact fun ⟨_, _, h, _⟩ => not_isFirst_nil h
  | cons x xs ih =>
    rw [List.mapM_cons]
    cases hx : f x with
    | error fault' =>
      have hfails : Fails f x := ⟨fault', hx⟩
      simp only [isFirst_cons_of_pos hfails]
      show Except.error fault' = Except.error fault ↔ _
      grind
    | ok y =>
      have hreads : ¬Fails f x := not_fails_iff.mpr ⟨y, hx⟩
      have hrest : (Except.ok y >>= fun y => do
          let ys ← xs.mapM f
          pure (y :: ys)) = .error fault ↔ xs.mapM f = .error fault := by
        cases xs.mapM f with
        | error fault' => exact Iff.rfl
        | ok ys => exact iff_of_false (fun h => by cases h) fun h => by cases h
      rw [hrest, ih]
      simp only [isFirst_cons_of_neg hreads]
      grind

end

end Headword
