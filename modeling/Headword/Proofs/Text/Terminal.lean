import Headword.Proofs.Text.Lowercase
import Headword.Text.Normal
import Headword.Text.Terminal

/-!
# Terminal punctuation and normal form

Splitting a text into words and lowercasing them bring in no terminal punctuation that the text does not
have.
-/

namespace Headword.Text

theorem mem_of_mem_splitBlanks {cs w : List Char} (hw : w ∈ splitBlanks cs) {c : Char} (hc : c ∈ w) :
    c ∈ cs := by
  -- a run and the words after it are made of the characters of the list
  have hcons : ∀ (v : List Char) (ws : List (List Char)), w ∈ consWord v ws → w = v ∨ w ∈ ws := by
    intro v ws hmem
    unfold consWord at hmem
    split at hmem
    · exact .inr hmem
    · exact List.mem_cons.mp hmem
  have key : ∀ cs : List Char, (c ∈ (splitFirst cs).1 → c ∈ cs) ∧ (w ∈ (splitFirst cs).2 → c ∈ cs) := by
    intro cs
    induction cs with
    | nil => simp [splitFirst]
    | cons d cs ih =>
      by_cases hd : isBlank d = true
      · simp only [splitFirst, hd, if_true]
        refine ⟨fun h => absurd h List.not_mem_nil, fun h => List.mem_cons_of_mem _ ?_⟩
        rcases hcons _ _ h with rfl | h
        · exact ih.1 hc
        · exact ih.2 h
      · simp only [splitFirst, hd]
        refine ⟨fun h => ?_, fun h => List.mem_cons_of_mem _ (ih.2 h)⟩
        rcases List.mem_cons.mp h with rfl | h
        · exact List.mem_cons_self ..
        · exact List.mem_cons_of_mem _ (ih.1 h)
  rcases hcons _ _ hw with rfl | hw
  · exact (key cs).1 hc
  · exact (key cs).2 hw

theorem mem_of_mem_words {text w : String} (hw : w ∈ words text) {c : Char} (hc : c ∈ w.toList) :
    c ∈ text.toList := by
  obtain ⟨cs, hcs, rfl⟩ := List.mem_map.mp hw
  rw [String.toList_ofList] at hc
  exact mem_of_mem_splitBlanks hcs hc

/-- The code points of terminal punctuation. -/
def terminalRanges : List CodeRange :=
  [⟨0x0021, 0x0021⟩, ⟨0x002E, 0x002E⟩, ⟨0x003F, 0x003F⟩, ⟨0x2026, 0x2026⟩]

theorem terminalRanges_avoid_caseSpans :
    ∀ s ∈ caseSpans, ∀ r ∈ terminalRanges, s.avoids r = true := by
  decide +kernel

theorem exists_contains_of_isTerminal {c : Char} (h : isTerminal c = true) :
    ∃ r ∈ terminalRanges, r.Contains c.toNat := by
  unfold isTerminal at h
  simp only [Bool.or_eq_true, decide_eq_true_eq] at h
  rcases h with ((rfl | rfl) | rfl) | rfl <;> simp [terminalRanges, CodeRange.Contains]

theorem isTerminal_of_mem_normalWords {text : String} (h : ∀ c ∈ text.toList, isTerminal c = false)
    {w : String} (hw : w ∈ normalWords text) {c : Char} (hc : c ∈ w.toList) : isTerminal c = false := by
  obtain ⟨v, hv, rfl⟩ := List.mem_map.mp hw
  have hword : ∀ d ∈ v.toList, isTerminal d = false := fun d hd => h d (mem_of_mem_words hv hd)
  exact forall_mem_lowercase (fun _ => exists_contains_of_isTerminal) terminalRanges_avoid_caseSpans
    (by decide) hword c hc

theorem terminalRun_eq_empty {w : String} (h : ∀ c ∈ w.toList, isTerminal c = false) :
    terminalRun w = "" := by
  rw [← String.toList_inj]
  show (terminalRun w).toList = []
  apply List.eq_nil_iff_forall_not_mem.mpr
  intro c hc
  have hmem : c ∈ w.toList := by
    rw [← stem_append_terminalRun w, String.toList_append]
    exact List.mem_append_right _ hc
  have hterminal := isTerminal_of_mem_terminalRun hc
  rw [h c hmem] at hterminal
  cases hterminal

end Headword.Text
