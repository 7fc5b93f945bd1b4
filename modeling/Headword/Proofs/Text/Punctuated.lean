import Mathlib.Data.List.DropRight
import Headword.Proofs.Text.Normal
import Headword.Text.Terminal

/-!
# Words with terminal punctuation

A word comes apart in one way only: into what is left of it and all of the terminal punctuation at its
end.  Terminal punctuation has no lowercase form, and the letters before it are lowercased as if it were
not there, so taking it away or attaching it keeps words in normal form.
-/

namespace Headword.Text

/-- The last character is terminal punctuation. -/
def EndsTerminal (w : String) : Prop :=
  w.toList.getLast?.any isTerminal = true

instance (w : String) : Decidable (EndsTerminal w) :=
  inferInstanceAs (Decidable (_ = true))

/-- The word falls apart into `left` and the whole of the terminal punctuation at its end. -/
structure Sheds (w left run : String) : Prop where
  append_eq : left ++ run = w
  terminal : ∀ c ∈ run.toList, isTerminal c = true
  plain : ¬EndsTerminal left

theorem not_endsTerminal_iff {w : String} :
    ¬EndsTerminal w ↔ ∀ h : w.toList ≠ [], ¬isTerminal (w.toList.getLast h) = true := by
  unfold EndsTerminal
  by_cases hnil : w.toList = []
  · rw [hnil]
    exact iff_of_true Bool.false_ne_true fun h => absurd rfl h
  · rw [List.getLast?_eq_some_getLast hnil]
    exact ⟨fun h _ => h, fun h => h hnil⟩

theorem not_endsTerminal_stem (w : String) : ¬EndsTerminal (stem w) := by
  rw [not_endsTerminal_iff, stem, String.toList_ofList]
  exact fun h => List.rdropWhile_last_not isTerminal w.toList h

theorem sheds_stem (w : String) : Sheds w (stem w) (terminalRun w) :=
  ⟨stem_append_terminalRun w, fun _ hc => isTerminal_of_mem_terminalRun hc, not_endsTerminal_stem w⟩

variable {w left run : String}

/-- There is one way to shed the terminal punctuation. -/
theorem Sheds.eq (h : Sheds w left run) : stem w = left ∧ terminalRun w = run := by
  have hsplit : w.toList.reverse = run.toList.reverse ++ left.toList.reverse := by
    rw [← h.append_eq, String.toList_append, List.reverse_append]
  have hrun : ∀ c ∈ run.toList.reverse, isTerminal c = true := fun c hc =>
    h.terminal c (List.mem_reverse.mp hc)
  have hplain := not_endsTerminal_iff.mp h.plain
  have hstem : (left.toList.reverse.dropWhile isTerminal).reverse = left.toList :=
    List.rdropWhile_eq_self_iff.mpr hplain
  have hnone : (left.toList.reverse.takeWhile isTerminal).reverse = [] :=
    List.rtakeWhile_eq_nil_iff.mpr hplain
  constructor
  · rw [stem, hsplit, List.dropWhile_append_of_pos hrun, hstem, String.ofList_toList]
  · rw [terminalRun, hsplit, List.takeWhile_append_of_pos hrun, List.reverse_append, hnone,
      List.reverse_reverse, List.nil_append, String.ofList_toList]

theorem terminalRun_eq_empty_iff : terminalRun w = "" ↔ ¬EndsTerminal w := by
  constructor
  · intro hrun
    have hstem := stem_append_terminalRun w
    rw [hrun, String.append_empty] at hstem
    rw [← hstem]
    exact not_endsTerminal_stem w
  · intro hplain
    have hnone : Sheds w w "" := ⟨String.append_empty, fun c hc => absurd hc List.not_mem_nil, hplain⟩
    exact hnone.eq.2

theorem terminalRun_of_stem_eq_empty (h : stem w = "") : terminalRun w = w := by
  have hsplit := stem_append_terminalRun w
  rwa [h, String.empty_append] at hsplit

theorem isTerminal_of_stem_eq_empty (h : stem w = "") {c : Char} (hc : c ∈ w.toList) :
    isTerminal c = true := by
  rw [← terminalRun_of_stem_eq_empty h] at hc
  exact isTerminal_of_mem_terminalRun hc

/-! ## Normal form -/

theorem isUncased_of_isTerminal {c : Char} (h : isTerminal c = true) :
    isBlank c = false ∧ IsUncased c := by
  unfold isTerminal at h
  simp only [Bool.or_eq_true, decide_eq_true_eq] at h
  rcases h with ((rfl | rfl) | rfl) | rfl <;> decide

/-- A word is in normal form when each of its characters is. -/
theorem isNormal_iff : IsNormal w ↔ w ≠ "" ∧ ∀ c ∈ w.toList, isBlank c = false ∧ IsLower c := by
  have hempty : w.toList = [] ↔ w = "" := String.toList_eq_nil_iff
  unfold IsNormal IsWord
  rw [lowercase_eq_self_iff, ne_eq, hempty]
  constructor
  · intro h
    exact ⟨h.1.1, fun c hc => ⟨h.1.2 c hc, h.2 c hc⟩⟩
  · intro h
    exact ⟨⟨h.1, fun c hc => (h.2 c hc).1⟩, fun c hc => (h.2 c hc).2⟩

theorem isNormal_of_terminal (hne : run ≠ "") (h : ∀ c ∈ run.toList, isTerminal c = true) :
    IsNormal run := by
  rw [isNormal_iff]
  exact ⟨hne, fun c hc => ⟨(isUncased_of_isTerminal (h c hc)).1, (isUncased_of_isTerminal (h c hc)).2.1⟩⟩

theorem IsNormal.append_terminal (hw : IsNormal w) (h : ∀ c ∈ run.toList, isTerminal c = true) :
    IsNormal (w ++ run) := by
  rw [isNormal_iff] at hw ⊢
  constructor
  · intro hempty
    exact hw.1 (String.append_eq_empty_iff.mp hempty).1
  · intro c hc
    rw [String.toList_append, List.mem_append] at hc
    cases hc with
    | inl hc => exact hw.2 c hc
    | inr hc => exact ⟨(isUncased_of_isTerminal (h c hc)).1, (isUncased_of_isTerminal (h c hc)).2.1⟩

theorem IsNormal.stem (hw : IsNormal w) (hne : stem w ≠ "") : IsNormal (stem w) := by
  rw [isNormal_iff] at hw ⊢
  refine ⟨hne, fun c hc => hw.2 c ?_⟩
  rw [← stem_append_terminalRun w, String.toList_append]
  exact List.mem_append_left _ hc

theorem lowercase_append_terminal (h : ∀ c ∈ run.toList, isTerminal c = true) (w : String) :
    lowercase (w ++ run) = lowercase w ++ run := by
  have huncased : ∀ c ∈ run.toList, IsUncased c := fun c hc => (isUncased_of_isTerminal (h c hc)).2
  rw [lowercase, lowercase, String.toList_append, lowercaseFrom_append_of_uncased huncased,
    String.ofList_append, String.ofList_toList]

/-! ## At the end of a text -/

/-- The last character is blank. -/
def EndsBlank (text : String) : Prop :=
  text.toList.getLast?.any isBlank = true

instance (text : String) : Decidable (EndsBlank text) :=
  inferInstanceAs (Decidable (_ = true))

/-- The characters after the last blank, if there is one. -/
theorem exists_last_run (cs : List Char) : (∀ c ∈ cs, isBlank c = false) ∨
    ∃ x b w, cs = x ++ b :: w ∧ isBlank b = true ∧ ∀ c ∈ w, isBlank c = false := by
  induction cs using List.reverseRecOn with
  | nil => exact .inl fun c hc => absurd hc List.not_mem_nil
  | append_singleton cs c ih =>
    by_cases hc : isBlank c = true
    · exact .inr ⟨cs, c, [], rfl, hc, fun d hd => absurd hd List.not_mem_nil⟩
    · have hone : ∀ d ∈ [c], isBlank d = false := by simpa using hc
      cases ih with
      | inl hnone => exact .inl (List.forall_mem_append.mpr ⟨hnone, hone⟩)
      | inr hsome =>
        obtain ⟨x, b, w, rfl, hb, hw⟩ := hsome
        refine .inr ⟨x, b, w ++ [c], ?_, hb, List.forall_mem_append.mpr ⟨hw, hone⟩⟩
        rw [List.append_assoc, List.cons_append]

/-- Characters other than blanks go on with the last word of a text that does not end in a blank. -/
theorem splitBlanks_append {cs : List Char} (hend : ¬cs.getLast?.any isBlank = true) (hne : cs ≠ []) :
    ∃ us w, splitBlanks cs = us ++ [w] ∧
      ∀ qs, (∀ c ∈ qs, isBlank c = false) → splitBlanks (cs ++ qs) = us ++ [w ++ qs] := by
  cases exists_last_run cs with
  | inl hnone =>
    refine ⟨[], cs, splitBlanks_word ⟨hne, hnone⟩, fun qs hqs => ?_⟩
    have happend := List.forall_mem_append.mpr ⟨hnone, hqs⟩
    exact splitBlanks_word ⟨List.append_ne_nil_of_left_ne_nil hne qs, happend⟩
  | inr hsome =>
    obtain ⟨x, b, w, rfl, hb, hw⟩ := hsome
    have hwne : w ≠ [] := by
      intro hnil
      rw [hnil, List.getLast?_concat] at hend
      exact hend hb
    refine ⟨splitBlanks x, w, ?_, fun qs hqs => ?_⟩
    · rw [splitBlanks_append_blank hb, splitBlanks_word ⟨hwne, hw⟩]
    · have happend := List.forall_mem_append.mpr ⟨hw, hqs⟩
      rw [List.append_assoc, List.cons_append, splitBlanks_append_blank hb,
        splitBlanks_word ⟨List.append_ne_nil_of_left_ne_nil hwne qs, happend⟩]

variable {text v : String} {us : List String}

/-- Attached punctuation changes the last word, and only by ending it. -/
theorem normalWords_append_terminal (hend : ¬EndsBlank text)
    (h : ∀ c ∈ run.toList, isTerminal c = true) (hlast : normalWords text = us ++ [v]) :
    normalWords (text ++ run) = us ++ [v ++ run] := by
  have hne : text.toList ≠ [] := by
    intro hnil
    rw [normalWords, words, hnil] at hlast
    exact absurd hlast.symm (List.append_ne_nil_of_right_ne_nil us (List.cons_ne_nil v []))
  obtain ⟨xs, w, hsplit, hmore⟩ := splitBlanks_append hend hne
  have hblank : ∀ c ∈ run.toList, isBlank c = false := fun c hc => (isUncased_of_isTerminal (h c hc)).1
  have hlower : ∀ w, (xs ++ [w]).map (fun w => lowercase (String.ofList w)) =
      xs.map (fun w => lowercase (String.ofList w)) ++ [lowercase (String.ofList w)] := fun w =>
    List.map_append
  have hwords : normalWords text = xs.map (fun w => lowercase (String.ofList w)) ++
      [lowercase (String.ofList w)] := by
    rw [← hlower, normalWords, words, hsplit, List.map_map]
    rfl
  obtain ⟨hxs, hw⟩ := List.append_inj' (hwords.symm.trans hlast) rfl
  rw [normalWords, words, String.toList_append, hmore run.toList hblank, List.map_map]
  show (xs ++ [w ++ run.toList]).map (fun w => lowercase (String.ofList w)) = us ++ [v ++ run]
  rw [hlower, hxs, String.ofList_append, String.ofList_toList, lowercase_append_terminal h,
    (List.cons.inj hw).1]

/-- Punctuation that stands apart is one word more. -/
theorem normalWords_append_space_terminal (hne : run ≠ "") (h : ∀ c ∈ run.toList, isTerminal c = true)
    (text : String) : normalWords (text ++ " " ++ run) = normalWords text ++ [run] := by
  have hword : ∀ w ∈ [run], IsNormal w := by
    intro w hw
    rw [List.mem_singleton.mp hw]
    exact isNormal_of_terminal hne h
  have hone : normalWords run = [run] := by
    rw [← join_singleton run, normalWords_join hword, join_singleton]
  rw [normalWords_append_space, hone]

end Headword.Text
