/-!
# Sets of characters given by code point ranges

A character class is stored as a list of inclusive ranges in increasing order.  Membership scans the
list and stops at the first range that starts beyond the character; `CodeRange.anyContains_iff` says
that stopping early loses nothing.
-/

namespace Headword.Text

/-- The code points from `first` to `last`, both included. -/
structure CodeRange where
  first : Nat
  last : Nat

namespace CodeRange

def Contains (r : CodeRange) (n : Nat) : Prop :=
  r.first ≤ n ∧ n ≤ r.last

/-- Ranges that are not empty and follow one another without overlap. -/
def Increasing (rs : List CodeRange) : Prop :=
  (∀ r ∈ rs, r.first ≤ r.last) ∧ rs.Pairwise fun r s => r.last < s.first

/-- Membership of a code point in one of several increasing ranges. -/
def anyContains : List CodeRange → Nat → Bool
  | [], _ => false
  | r :: rest, n => decide (r.first ≤ n) && (decide (n ≤ r.last) || anyContains rest n)

/-- The scan finds a code point exactly when one of the ranges contains it. -/
theorem anyContains_iff {rs : List CodeRange} (hrs : Increasing rs) (n : Nat) :
    anyContains rs n = true ↔ ∃ r ∈ rs, r.Contains n := by
  obtain ⟨hne, hpair⟩ := hrs
  induction rs with
  | nil => simp [anyContains]
  | cons r rest ih =>
    have hrest := ih (fun s hs => hne s (List.mem_cons_of_mem _ hs)) (List.Pairwise.of_cons hpair)
    simp only [anyContains, Bool.and_eq_true, Bool.or_eq_true, decide_eq_true_eq, hrest,
      List.mem_cons, exists_eq_or_imp, Contains]
    constructor
    · rintro ⟨hfirst, hlast | hin⟩
      · exact .inl ⟨hfirst, hlast⟩
      · exact .inr hin
    · rintro (⟨hfirst, hlast⟩ | ⟨s, hs, hsn⟩)
      · exact ⟨hfirst, .inl hlast⟩
      · have hafter := List.rel_of_pairwise_cons hpair hs
        have hself := hne r (List.mem_cons_self ..)
        exact ⟨by omega, .inr ⟨s, hs, hsn⟩⟩

end CodeRange

end Headword.Text
