import Mathlib.Data.List.Forall2
import Mathlib.Order.Bounds.Defs
import Mathlib.Order.Bounds.Basic
import Headword.Trie.Search

/-!
# Walks and longest matches

A walk follows known words from a cursor to another one.  The search finds the length of the longest walk
after which a match may stop, and it finds nothing only when there is no such walk
(`Trie.isLongest_longestFrom`).
-/

namespace Headword

/-- The greatest number with a property, or nothing when no number has it. -/
def IsLongest (P : Nat → Prop) : Option Nat → Prop
  | none => ∀ n, ¬P n
  | some n => IsGreatest {m | P m} n

namespace IsLongest

variable {P Q : Nat → Prop} {a b : Option Nat}

theorem congr (h : IsLongest P a) (hPQ : ∀ n, P n ↔ Q n) : IsLongest Q a := by
  have heq : P = Q := funext fun n => propext (hPQ n)
  rwa [← heq]

theorem eq_none_iff (h : IsLongest P a) : a = none ↔ ∀ n, ¬P n := by
  cases a with
  | none => exact iff_of_true rfl h
  | some n => exact iff_of_false (Option.some_ne_none n) fun hall => hall n h.1

theorem eq_some_iff (h : IsLongest P a) {n : Nat} : a = some n ↔ IsGreatest {m | P m} n := by
  cases a with
  | none => exact iff_of_false (Option.some_ne_none n).symm fun hn => h n hn.1
  | some m =>
    rw [Option.some.injEq]
    constructor
    · intro hmn
      exact hmn ▸ h
    · exact fun hn => IsGreatest.unique h hn

theorem unique (ha : IsLongest P a) (hb : IsLongest P b) : a = b := by
  cases b with
  | none => exact ha.eq_none_iff.mpr hb
  | some n => exact ha.eq_some_iff.mpr hb

/-- Nothing counts as smaller than any number. -/
theorem le (ha : IsLongest P a) (hb : IsLongest Q b) (hPQ : ∀ n, P n → Q n) : a ≤ b := by
  cases a with
  | none => exact Option.none_le
  | some m =>
    have hm : Q m := hPQ m ha.1
    cases b with
    | none => exact absurd hm (hb m)
    | some n => exact Option.some_le_some.mpr (hb.2 hm)

theorem max (ha : IsLongest P a) (hb : IsLongest Q b) :
    IsLongest (fun n => P n ∨ Q n) (max a b) := by
  cases a with
  | none =>
    rw [Option.max_none_left]
    apply hb.congr
    intro n
    rw [or_iff_right (ha n)]
  | some m =>
    cases b with
    | none =>
      rw [Option.max_none_right]
      apply ha.congr
      intro n
      rw [or_iff_left (hb n)]
    | some k => exact IsGreatest.union ha hb

/-- One more word before each of the lengths. -/
theorem succ (ha : IsLongest P a) : IsLongest (fun n => ∃ m, P m ∧ n = m + 1) (a.map (· + 1)) := by
  cases a with
  | none =>
    rintro n ⟨m, hm, -⟩
    exact ha m hm
  | some k =>
    refine ⟨⟨k, ha.1, rfl⟩, ?_⟩
    rintro n ⟨m, hm, rfl⟩
    exact Nat.succ_le_succ (ha.2 hm)

/-- The longest of several, compared one after another. -/
theorem foldl_max_of_forall₂ {α : Type} {R : α → Nat → Prop} {xs : List α} {lengths : List (Option Nat)}
    (h : List.Forall₂ (fun x => IsLongest (R x)) xs lengths) (ha : IsLongest P a) :
    IsLongest (fun n => P n ∨ ∃ x ∈ xs, R x n) (lengths.foldl Max.max a) := by
  induction h generalizing P a with
  | nil =>
    apply ha.congr
    simp
  | cons hx _ ih =>
    apply (ih (ha.max hx)).congr
    intro n
    simp only [List.mem_cons, exists_eq_or_imp, or_assoc]

/-- The longest of several, found one after another. -/
theorem foldl_max {α : Type} {f : α → Option Nat} {R : α → Nat → Prop} (hR : ∀ x, IsLongest (R x) (f x))
    (xs : List α) (ha : IsLongest P a) :
    IsLongest (fun n => P n ∨ ∃ x ∈ xs, R x n) (xs.foldl (fun best x => Max.max best (f x)) a) := by
  have hall : List.Forall₂ (fun x => IsLongest (R x)) xs (xs.map f) := by
    rw [List.forall₂_map_right_iff, List.forall₂_same]
    exact fun x _ => hR x
  rw [← List.foldl_map]
  exact foldl_max_of_forall₂ hall ha

end IsLongest

namespace Trie

def Walks (t : Trie) (c : Cursor) : List WordId → Cursor → Prop
  | [], d => d = c
  | w :: ids, d => ∃ b ∈ t.step c w, t.Walks b ids d

theorem walks_concat {t : Trie} {c d : Cursor} {ids : List WordId} {w : WordId} :
    t.Walks c (ids ++ [w]) d ↔ ∃ b, t.Walks c ids b ∧ d ∈ t.step b w := by
  induction ids generalizing c with
  | nil => simp [Walks]
  | cons v ids ih =>
    rw [List.cons_append, Walks]
    simp only [ih, Walks]
    grind

/-- A match may stop after `n` tokens, of which none is unknown. -/
def StopsAfter (t : Trie) (tokens : List (Option WordId)) (c : Cursor) (n : Nat) : Prop :=
  ∃ ids d, ids ≠ [] ∧ ids.length = n ∧ ids.map some <+: tokens ∧ t.Walks c ids d ∧
    t.completes (decide (n = tokens.length)) d = true

/-- A walk along a phrase stops after its first word or goes on after it. -/
theorem stopsAfter_cons {t : Trie} {c : Cursor} {w : WordId} {rest : List (Option WordId)} {n : Nat} :
    t.StopsAfter (some w :: rest) c n ↔
      (n = 1 ∧ ∃ d ∈ t.step c w, t.completes rest.isEmpty d = true) ∨
        ∃ d ∈ t.step c w, ∃ m, t.StopsAfter rest d m ∧ n = m + 1 := by
  have hone : decide (1 = (some w :: rest).length) = rest.isEmpty := by
    cases rest <;> simp
  constructor
  · rintro ⟨ids, d, hne, rfl, hpre, hwalk, hstop⟩
    cases ids with
    | nil => exact absurd rfl hne
    | cons v ids =>
      rw [List.map_cons] at hpre
      obtain ⟨hv, hrest⟩ := List.cons_prefix_cons.mp hpre
      obtain rfl := Option.some.inj hv
      obtain ⟨b, hb, hwalk⟩ := hwalk
      -- the first word may be the only one
      cases ids with
      | nil =>
        obtain rfl : d = b := hwalk
        exact .inl ⟨rfl, d, hb, hone ▸ hstop⟩
      | cons u ids =>
        have hlater : t.StopsAfter rest b (u :: ids).length :=
          ⟨u :: ids, d, List.cons_ne_nil _ _, rfl, hrest, hwalk, by simpa using hstop⟩
        exact .inr ⟨b, hb, (u :: ids).length, hlater, rfl⟩
  · rintro (⟨rfl, d, hd, hstop⟩ | ⟨b, hb, m, ⟨ids, d, hne, rfl, hpre, hwalk, hstop⟩, rfl⟩)
    · exact ⟨[w], d, List.cons_ne_nil _ _, rfl, by simp, ⟨d, hd, rfl⟩, hone ▸ hstop⟩
    · refine ⟨w :: ids, d, List.cons_ne_nil _ _, rfl, ?_, ⟨b, hb, hwalk⟩, by simpa using hstop⟩
      exact List.cons_prefix_cons.mpr ⟨rfl, hpre⟩

/-- The search finds the length of the longest match, if there is any match. -/
theorem isLongest_longestFrom (t : Trie) (tokens : List (Option WordId)) (c : Cursor) :
    IsLongest (t.StopsAfter tokens c) (t.longestFrom tokens c) := by
  -- the search is by tokens; each branch of a step adds its own longest match
  induction tokens generalizing c with
  | nil =>
    rintro n ⟨ids, d, hne, -, hpre, -⟩
    apply hne
    simpa using List.prefix_nil.mp hpre
  | cons token rest ih =>
    cases token with
    | none =>
      rintro n ⟨ids, d, hne, -, hpre, -⟩
      cases ids with
      | nil => exact hne rfl
      | cons v ids => cases (List.cons_prefix_cons.mp hpre).1
    | some w =>
      have hhere : IsLongest
          (fun n => n = 1 ∧ ∃ d ∈ t.step c w, t.completes rest.isEmpty d = true)
          (if (t.step c w).any (t.completes rest.isEmpty) then some 1 else none) := by
        split
        next h =>
          refine ⟨⟨rfl, List.any_eq_true.mp h⟩, ?_⟩
          rintro n ⟨rfl, -⟩
          exact Nat.le_refl _
        next h =>
          rintro n ⟨-, hn⟩
          exact h (List.any_eq_true.mpr hn)
      rw [longestFrom]
      apply (hhere.foldl_max (fun d => (ih d).succ) (t.step c w)).congr
      intro n
      exact stopsAfter_cons.symm

/-- A match has a word and no more words than there are. -/
theorem le_length_of_longestFrom_eq_some {t : Trie} {tokens : List (Option WordId)} {c : Cursor}
    {n : Nat} (h : t.longestFrom tokens c = some n) : 1 ≤ n ∧ n ≤ tokens.length := by
  obtain ⟨ids, d, hne, hlen, hpre, -⟩ := ((isLongest_longestFrom t tokens c).eq_some_iff.mp h).1
  have hpos := List.length_pos_iff.mpr hne
  have hle := hpre.length_le
  rw [List.length_map] at hle
  omega

end Trie

end Headword
