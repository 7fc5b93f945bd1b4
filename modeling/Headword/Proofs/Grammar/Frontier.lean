import Mathlib.Data.Finset.Union
import Headword.Grammar
import Headword.Proofs.First
import Headword.Proofs.Trie.Walks

/-!
# Searching in one pass

The search goes from cursor to cursor, and into one branch after another where a word leads to several.
One pass over the words with the set of all cursors that they lead to finds the same, so the order in
which the branches are taken makes no difference.
-/

namespace Headword

namespace Trie

/-- All cursors one word away from a set of cursors. -/
def stepAll (t : Trie) (frontier : Finset Cursor) (w : WordId) : Finset Cursor :=
  frontier.biUnion fun c => (t.step c w).toFinset

/-- One pass over words with the set of all cursors reached so far.  `position` words have been read,
and `best` is the last number of words after which one of the cursors completed a match.  An unknown word
ends the pass, and so does a set without cursors. -/
def sweep (t : Trie) : List (Option WordId) → Nat → Option Nat → Finset Cursor → Option Nat
  | [], _, best, _ => best
  | none :: _, _, best, _ => best
  | some w :: rest, position, best, frontier =>
    let reached := t.stepAll frontier w
    let best := if ∃ d ∈ reached, t.completes rest.isEmpty d = true then some (position + 1) else best
    if reached = ∅ then best else t.sweep rest (position + 1) best reached

/-- What a walk comes back with that takes the cursors a word leads to in some order.  It goes on from a
single one in place; of several, each is walked from on its own, and the longest match is kept. -/
def Explores (t : Trie) : List (Option WordId) → Nat → Option Nat → Cursor → Option Nat → Prop
  | [], _, best, _, result => result = best
  | none :: _, _, best, _, result => result = best
  | some w :: rest, position, best, c, result =>
    ∃ candidates, candidates.Perm (t.step c w) ∧
      let best := if candidates.any (t.completes rest.isEmpty) then some (position + 1) else best
      match candidates with
      | [] => result = best
      | [next] => t.Explores rest (position + 1) best next result
      | branches => ∃ lengths, List.Forall₂ (t.Explores rest (position + 1) none) branches lengths ∧
          result = lengths.foldl max best

end Trie

/-- The longest of the matches that have been seen, all of them among the first `position` words. -/
structure IsLongestUpTo (P : Nat → Prop) (position : Nat) (best : Option Nat) : Prop where
  isLongest : IsLongest P best
  le : ∀ n, P n → n ≤ position

namespace IsLongestUpTo

variable {P : Nat → Prop} {best : Option Nat} {position : Nat}

theorem none (position : Nat) : IsLongestUpTo (fun _ => False) position none where
  isLongest := fun _ hn => hn
  le := fun _ hn => hn.elim

/-- A match that ends with the next word is longer than all that have been seen. -/
theorem record (h : IsLongestUpTo P position best) (hit : Prop) [Decidable hit] :
    IsLongestUpTo (fun n => P n ∨ (n = position + 1 ∧ hit)) (position + 1)
      (if hit then some (position + 1) else best) := by
  have hle : ∀ n, P n ∨ (n = position + 1 ∧ hit) → n ≤ position + 1 := by
    rintro n (hn | ⟨rfl, -⟩)
    · exact Nat.le_succ_of_le (h.le n hn)
    · exact Nat.le_refl _
  refine ⟨?_, hle⟩
  split
  next hhit => exact ⟨.inr ⟨rfl, hhit⟩, hle⟩
  next hhit =>
    apply h.isLongest.congr
    intro n
    rw [or_iff_left fun hn => hhit hn.2]

end IsLongestUpTo

namespace Trie

variable {t : Trie} {P : Nat → Prop} {best result : Option Nat} {position n : Nat} {c : Cursor}
  {tokens rest : List (Option WordId)} {w : WordId}

theorem mem_stepAll {frontier : Finset Cursor} {d : Cursor} :
    d ∈ t.stepAll frontier w ↔ ∃ c ∈ frontier, d ∈ t.step c w := by
  simp only [stepAll, Finset.mem_biUnion, List.mem_toFinset]

/-- A match may stop after `n` words in all, of which `position` were read before the cursor. -/
def StopsAt (t : Trie) (tokens : List (Option WordId)) (position : Nat) (c : Cursor) (n : Nat) : Prop :=
  ∃ m, t.StopsAfter tokens c m ∧ n = position + m

theorem stopsAt_zero : t.StopsAt tokens 0 c n ↔ t.StopsAfter tokens c n := by
  simp only [StopsAt, Nat.zero_add, exists_eq_right']

theorem not_stopsAt_nil : ¬t.StopsAt [] position c n := by
  rintro ⟨m, hm, -⟩
  exact isLongest_longestFrom t [] c m hm

theorem not_stopsAt_none : ¬t.StopsAt (none :: rest) position c n := by
  rintro ⟨m, hm, -⟩
  exact isLongest_longestFrom t (none :: rest) c m hm

theorem stopsAt_cons : t.StopsAt (some w :: rest) position c n ↔
    (n = position + 1 ∧ ∃ d ∈ t.step c w, t.completes rest.isEmpty d = true) ∨
      ∃ d ∈ t.step c w, t.StopsAt rest (position + 1) d n := by
  simp only [StopsAt, stopsAfter_cons]
  constructor
  · rintro ⟨m, ⟨rfl, hd⟩ | ⟨d, hd, k, hk, rfl⟩, rfl⟩
    · exact .inl ⟨rfl, hd⟩
    · exact .inr ⟨d, hd, k, hk, by omega⟩
  · rintro (⟨rfl, hd⟩ | ⟨d, hd, k, hk, rfl⟩)
    · exact ⟨1, .inl ⟨rfl, hd⟩, rfl⟩
    · exact ⟨k + 1, .inr ⟨d, hd, k, hk, rfl⟩, by omega⟩

/-! ## The pass -/

/-- A pass finds the longest match from any of its cursors, or keeps what it had. -/
theorem isLongest_sweep (h : IsLongestUpTo P position best) (tokens : List (Option WordId))
    (frontier : Finset Cursor) :
    IsLongest (fun n => P n ∨ ∃ c ∈ frontier, t.StopsAt tokens position c n)
      (t.sweep tokens position best frontier) := by
  induction tokens generalizing P best position frontier with
  | nil =>
    apply h.isLongest.congr
    simp [not_stopsAt_nil]
  | cons token rest ih =>
    cases token with
    | none =>
      apply h.isLongest.congr
      simp [not_stopsAt_none]
    | some w =>
      have hsplit : ∀ n, (P n ∨ ∃ c ∈ frontier, t.StopsAt (some w :: rest) position c n) ↔
          (P n ∨ (n = position + 1 ∧
            ∃ d ∈ t.stepAll frontier w, t.completes rest.isEmpty d = true)) ∨
          ∃ d ∈ t.stepAll frontier w, t.StopsAt rest (position + 1) d n := by
        intro n
        simp only [stopsAt_cons, mem_stepAll]
        grind
      have hrecord := h.record (∃ d ∈ t.stepAll frontier w, t.completes rest.isEmpty d = true)
      rw [sweep]
      split
      next hempty =>
        -- without cursors there is nothing that could be reached later
        apply hrecord.isLongest.congr
        intro n
        rw [hsplit, hempty]
        simp
      next =>
        apply (ih hrecord (t.stepAll frontier w)).congr
        exact fun n => (hsplit n).symm

theorem isLongest_sweep_start (t : Trie) (tokens : List (Option WordId)) (c : Cursor) :
    IsLongest (t.StopsAfter tokens c) (t.sweep tokens 0 none {c}) := by
  apply (isLongest_sweep (.none 0) tokens {c}).congr
  intro n
  simp only [false_or, Finset.mem_singleton, exists_eq_left, stopsAt_zero]

/-! ## The walk -/

/-- Whatever the order, a walk finds the longest match from its cursor, or keeps what it had. -/
theorem Explores.isLongest (hwalk : t.Explores tokens position best c result)
    (h : IsLongestUpTo P position best) :
    IsLongest (fun n => P n ∨ t.StopsAt tokens position c n) result := by
  induction tokens generalizing P best position c result with
  | nil =>
    obtain rfl : result = best := hwalk
    apply h.isLongest.congr
    simp [not_stopsAt_nil]
  | cons token rest ih =>
    cases token with
    | none =>
      obtain rfl : result = best := hwalk
      apply h.isLongest.congr
      simp [not_stopsAt_none]
    | some w =>
      obtain ⟨candidates, hperm, hwalk⟩ := hwalk
      have hsplit : ∀ n, (P n ∨ t.StopsAt (some w :: rest) position c n) ↔
          (P n ∨ (n = position + 1 ∧ candidates.any (t.completes rest.isEmpty) = true)) ∨
          ∃ d ∈ candidates, t.StopsAt rest (position + 1) d n := by
        intro n
        simp only [stopsAt_cons, List.any_eq_true, hperm.mem_iff, or_assoc]
      have hrecord := h.record (candidates.any (t.completes rest.isEmpty) = true)
      match candidates with
      | [] =>
        obtain rfl : result = _ := hwalk
        apply hrecord.isLongest.congr
        intro n
        rw [hsplit]
        simp
      | [next] =>
        apply (ih hwalk hrecord).congr
        intro n
        rw [hsplit]
        simp
      | a :: b :: more =>
        obtain ⟨lengths, hlengths, rfl⟩ := hwalk
        -- each branch starts with nothing of its own and is compared afterwards
        have hbranch : List.Forall₂ (fun d => IsLongest (t.StopsAt rest (position + 1) d))
            (a :: b :: more) lengths := by
          apply hlengths.imp
          intro d length hd
          apply (ih hd (.none (position + 1))).congr
          intro n
          rw [false_or]
        apply (hrecord.isLongest.foldl_max_of_forall₂ hbranch).congr
        exact fun n => (hsplit n).symm

theorem exists_explores (t : Trie) (tokens : List (Option WordId)) (position : Nat)
    (best : Option Nat) (c : Cursor) : ∃ result, t.Explores tokens position best c result := by
  induction tokens generalizing position best c with
  | nil => exact ⟨best, rfl⟩
  | cons token rest ih =>
    cases token with
    | none => exact ⟨best, rfl⟩
    | some w =>
      -- the order in which the trie lists the cursors is one of the orders
      match hstep : t.step c w with
      | [] => exact ⟨_, [], by rw [hstep], rfl⟩
      | [next] =>
        obtain ⟨result, hresult⟩ := ih (position + 1)
          (if [next].any (t.completes rest.isEmpty) then some (position + 1) else best) next
        exact ⟨result, [next], by rw [hstep], hresult⟩
      | a :: b :: more =>
        obtain ⟨lengths, hlengths⟩ := exists_forall₂_iff.mpr fun d (_ : d ∈ a :: b :: more) =>
          ih (position + 1) none d
        exact ⟨_, a :: b :: more, by rw [hstep], lengths, hlengths, rfl⟩

theorem explores_iff_eq_sweep {result : Option Nat} : t.Explores tokens 0 none c result ↔
    result = t.sweep tokens 0 none {c} := by
  have key : ∀ result, t.Explores tokens 0 none c result → result = t.sweep tokens 0 none {c} := by
    intro result hwalk
    have hlongest := hwalk.isLongest (.none 0)
    simp only [false_or, stopsAt_zero] at hlongest
    exact hlongest.unique (isLongest_sweep_start t tokens c)
  constructor
  · exact key result
  · rintro rfl
    obtain ⟨result, hwalk⟩ := exists_explores t tokens 0 none c
    rwa [← key result hwalk]

end Trie

/-- The search finds what one pass with the set of all cursors finds, and so does every walk that goes
from cursor to cursor, whatever the order in which it takes the branches. -/
theorem Grammar.longestMatch?_eq_sweep (g : Grammar) (tokens : List (Option WordId)) :
    g.longestMatch? tokens = g.trie.sweep tokens 0 none {g.start} ∧
    ∀ result, g.trie.Explores tokens 0 none g.start result ↔
      result = g.trie.sweep tokens 0 none {g.start} := by
  refine ⟨?_, fun result => Trie.explores_iff_eq_sweep⟩
  exact (Trie.isLongest_longestFrom g.trie tokens g.start).unique
    (Trie.isLongest_sweep_start g.trie tokens g.start)

/-- The word `make` leads to two cursors at once, and each of them goes on to `it`. -/
example : (Grammar.compile
      ⟨none, [⟨[.category .verb, .word "it"]⟩, ⟨[.word "make", .word "it", .word "so"]⟩]⟩
      (Vocabulary.empty.extend .verb ["make"]) .forward .empty).map
        (fun g => g.trie.sweep [some ⟨0⟩, some ⟨1⟩, some ⟨2⟩, none] 0 none {g.start}) =
    .ok (some 3) := by
  decide +kernel

end Headword
