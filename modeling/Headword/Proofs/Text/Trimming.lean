import Mathlib.Data.List.DropRight
import Headword.Proofs.Text.Lowercase

/-!
# Trimming

Blanks have no case, and no lowercase form is blank unless its letter is.  So it makes no difference
whether a text is trimmed before it is lowercased or afterwards.
-/

namespace Headword.Text

theorem trim_eq_rdropWhile (text : String) :
    trim text = String.ofList ((text.toList.dropWhile isBlank).rdropWhile isBlank) := rfl

theorem trim_eq_self {text : String} (h : ∀ c ∈ text.toList, isBlank c = false) :
    trim text = text := by
  have hfirst : text.toList.dropWhile isBlank = text.toList := by
    rw [List.dropWhile_eq_self_iff]
    intro hpos
    rw [h _ (List.getElem_mem hpos)]
    exact Bool.false_ne_true
  have hlast : text.toList.rdropWhile isBlank = text.toList := by
    rw [List.rdropWhile_eq_self_iff]
    intro hne
    rw [h _ (List.getLast_mem hne)]
    exact Bool.false_ne_true
  rw [trim_eq_rdropWhile, hfirst, hlast, String.ofList_toList]

theorem isUncased_of_blankRanges : ∀ r ∈ blankRanges,
    ∀ n ∈ List.range' r.first (r.last + 1 - r.first), IsUncased (Char.ofNat n) := by
  decide +kernel

theorem isUncased_of_isBlank {c : Char} (h : isBlank c = true) : IsUncased c := by
  obtain ⟨r, hr, hfirst, hlast⟩ := (CodeRange.anyContains_iff blankRanges_increasing c.toNat).mp h
  have hmem : c.toNat ∈ List.range' r.first (r.last + 1 - r.first) := by
    rw [List.mem_range'_1]
    omega
  have huncased := isUncased_of_blankRanges r hr c.toNat hmem
  rwa [Char.ofNat_toNat] at huncased

/-! ## At the beginning -/

/-- The lowercase form of a text that starts with a letter of a word starts with one as well. -/
theorem lowercaseFrom_cons_of_not_isBlank {c : Char} (hc : isBlank c = false) (before : Bool)
    (cs : List Char) :
    ∃ d ds, lowercaseFrom before (c :: cs) = d :: ds ∧ isBlank d = false := by
  rw [lowercaseFrom]
  split
  · split
    · exact ⟨'ς', _, rfl, by decide⟩
    · exact ⟨'σ', _, rfl, by decide⟩
  · obtain ⟨d, ds, hform⟩ := List.exists_cons_of_ne_nil (lowerChar_ne_nil c)
    rw [hform]
    exact ⟨d, _, rfl, isBlank_of_mem_lowerChar hc (by rw [hform]; exact List.mem_cons_self ..)⟩

theorem lowercaseFrom_dropWhile (cs : List Char) :
    lowercaseFrom false (cs.dropWhile isBlank) = (lowercaseFrom false cs).dropWhile isBlank := by
  induction cs with
  | nil => rfl
  | cons c cs ih =>
    cases hc : isBlank c with
    | true =>
      rw [List.dropWhile_cons_of_pos hc, lowercaseFrom_cons_of_uncased (isUncased_of_isBlank hc),
        List.dropWhile_cons_of_pos hc, ih]
    | false =>
      obtain ⟨d, ds, hform, hd⟩ := lowercaseFrom_cons_of_not_isBlank hc false cs
      rw [List.dropWhile_cons_of_neg (Bool.eq_false_iff.mp hc), hform,
        List.dropWhile_cons_of_neg (Bool.eq_false_iff.mp hd)]

/-! ## At the end -/

/-- The lowercase form of a text ends with the form that its end has after some characters. -/
theorem exists_lowercaseFrom_append (before : Bool) (cs ds : List Char) :
    ∃ front before', lowercaseFrom before (cs ++ ds) = front ++ lowercaseFrom before' ds := by
  induction cs generalizing before with
  | nil => exact ⟨[], before, rfl⟩
  | cons c cs ih =>
    obtain ⟨front, before', hform⟩ := ih (if isCaseIgnorable c then before else isCased c)
    rw [List.cons_append, lowercaseFrom, hform, ← List.append_assoc]
    exact ⟨_, before', rfl⟩

theorem isBlank_getLast_lowercaseFrom {c : Char} (hc : isBlank c = false) (before : Bool)
    (cs : List Char) (hne : lowercaseFrom before (cs ++ [c]) ≠ []) :
    isBlank ((lowercaseFrom before (cs ++ [c])).getLast hne) = false := by
  obtain ⟨front, before', hform⟩ := exists_lowercaseFrom_append before cs [c]
  have hlast : (lowercaseFrom before (cs ++ [c])).getLast hne ∈ lowercaseFrom before' [c] := by
    simp only [hform]
    rw [List.getLast_append_of_ne_nil _ (lowercaseFrom_cons_ne_nil before' c [])]
    exact List.getLast_mem _
  exact isBlank_of_mem_lowercaseFrom (List.forall_mem_singleton.mpr hc) hlast

theorem lowercaseFrom_rdropWhile (before : Bool) (cs : List Char) :
    lowercaseFrom before (cs.rdropWhile isBlank) = (lowercaseFrom before cs).rdropWhile isBlank := by
  induction cs using List.reverseRecOn with
  | nil => rfl
  | append_singleton cs c ih =>
    cases hc : isBlank c with
    | true =>
      have huncased : ∀ d ∈ [c], IsUncased d := List.forall_mem_singleton.mpr (isUncased_of_isBlank hc)
      rw [List.rdropWhile_concat_pos _ _ _ hc, lowercaseFrom_append_of_uncased huncased,
        List.rdropWhile_concat_pos _ _ _ hc, ih]
    | false =>
      rw [List.rdropWhile_concat_neg _ _ _ (Bool.eq_false_iff.mp hc), eq_comm,
        List.rdropWhile_eq_self_iff]
      exact fun hne => Bool.eq_false_iff.mp (isBlank_getLast_lowercaseFrom hc before cs hne)

theorem trim_lowercase (text : String) : trim (lowercase text) = lowercase (trim text) := by
  rw [trim_eq_rdropWhile, trim_eq_rdropWhile, lowercase, lowercase, String.toList_ofList,
    String.toList_ofList, lowercaseFrom_rdropWhile, lowercaseFrom_dropWhile]

end Headword.Text
