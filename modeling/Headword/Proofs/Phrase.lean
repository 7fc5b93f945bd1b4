import Mathlib.Data.List.Basic
import Headword.Phrase
import Headword.Proofs.Text.Punctuated

/-!
# Words of phrases

Reading a phrase changes its last word at most, and loses nothing.
-/

namespace Headword

namespace Phrase

/-- The terminal punctuation that is set aside: that of the last word, unless the word is declared with
it. -/
def setAside (declared : String → Bool) (ws : List String) : String :=
  match ws.getLast? with
  | none => ""
  | some last => if declared last then "" else Text.terminalRun last

inductive Reads (declared : String → Bool) : List String → Phrase → Prop
  | whole {ws} : setAside declared ws = "" → Reads declared ws ⟨ws, ""⟩
  | stem {us last} : setAside declared (us ++ [last]) = Text.terminalRun last → Text.stem last ≠ "" →
      Reads declared (us ++ [last]) ⟨us ++ [Text.stem last], Text.terminalRun last⟩
  | alone {us last} : setAside declared (us ++ [last]) = Text.terminalRun last → Text.stem last = "" →
      Reads declared (us ++ [last])
        ⟨us, if us = [] then Text.terminalRun last else " " ++ Text.terminalRun last⟩

variable {declared : String → Bool} {ws : List String} {last : String}

theorem setAside_concat : setAside declared (ws ++ [last]) =
    if declared last = true then "" else Text.terminalRun last := by
  rw [setAside, List.getLast?_concat]

theorem setAside_append (declared : String → Bool) (us : List String) {vs : List String}
    (hv : vs ≠ []) : setAside declared (us ++ vs) = setAside declared vs := by
  rw [setAside, setAside, List.getLast?_append, List.getLast?_eq_some_getLast hv, Option.some_or]

theorem ofWords_of_keeps (h : Text.terminalRun last = "" ∨ declared last = true) :
    ofWords declared (ws ++ [last]) = ⟨ws ++ [last], ""⟩ := by
  have hkeep : (Text.terminalRun last = "" || declared last) = true := by simpa using h
  rw [ofWords, List.getLast?_concat]
  exact if_pos hkeep

theorem reads_ofWords (declared : String → Bool) (ws : List String) :
    Reads declared ws (ofWords declared ws) := by
  rcases List.eq_nil_or_concat' ws with rfl | ⟨us, last, rfl⟩
  · exact .whole rfl
  · by_cases hkeep : Text.terminalRun last = "" ∨ declared last = true
    · rw [ofWords_of_keeps hkeep]
      refine .whole ?_
      rw [setAside_concat]
      rcases hkeep with hrun | hdeclared
      · rw [hrun, ite_self]
      · rw [if_pos hdeclared]
    · obtain ⟨hrun, hdeclared⟩ := not_or.mp hkeep
      have hlose : ¬(Text.terminalRun last = "" || declared last) = true := by simp [hrun, hdeclared]
      have haside : setAside declared (us ++ [last]) = Text.terminalRun last := by
        rw [setAside_concat, if_neg hdeclared]
      rw [ofWords, List.getLast?_concat]
      dsimp only
      rw [if_neg hlose, List.dropLast_concat]
      -- a word of nothing but punctuation is given up as a word
      by_cases hstem : Text.stem last = ""
      · rw [if_neg (by simp [hstem])]
        have halone := Reads.alone haside hstem
        by_cases hus : us = []
        · rw [if_pos hus] at halone ⊢
          rwa [hus] at halone ⊢
        · rw [if_neg hus] at halone ⊢
          exact halone
      · rw [if_pos hstem]
        exact .stem haside hstem

namespace Reads

variable {p : Phrase} {n : Nat}

theorem exists_append {us vs : List String} (h : Reads declared (us ++ vs) p) (hv : vs ≠ []) :
    ∃ ys, p.words = us ++ ys := by
  rcases List.eq_nil_or_concat' vs with rfl | ⟨vs, v, rfl⟩
  · exact absurd rfl hv
  · rw [← List.append_assoc] at h
    generalize hws : us ++ vs ++ [v] = ws at h
    cases h with
    | whole => exact ⟨vs ++ [v], by rw [← hws, List.append_assoc]⟩
    | stem =>
      rw [← (List.append_inj' hws rfl).1]
      exact ⟨vs ++ [_], List.append_assoc ..⟩
    | alone =>
      rw [← (List.append_inj' hws rfl).1]
      exact ⟨vs, rfl⟩

theorem isNormal (h : Reads declared ws p) (hws : ∀ w ∈ ws, Text.IsNormal w) :
    ∀ w ∈ p.words, Text.IsNormal w := by
  cases h with
  | whole => exact hws
  | @stem us last _ hstem =>
    intro w hw
    rcases List.mem_append.mp hw with hw | hw
    · exact hws w (List.mem_append_left _ hw)
    · rw [List.mem_singleton.mp hw]
      exact (hws last (List.mem_append_right us (List.mem_singleton_self last))).stem hstem
  | alone => exact fun w hw => hws w (List.mem_append_left _ hw)

/-- The punctuation is kept with or without a space before it. -/
theorem exists_trailing_eq (h : Reads declared ws p) :
    ∃ pad, (pad = "" ∨ pad = " ") ∧ p.trailing = pad ++ setAside declared ws := by
  cases h with
  | whole haside =>
    refine ⟨"", .inl rfl, ?_⟩
    rw [haside]
    rfl
  | stem haside =>
    refine ⟨"", .inl rfl, ?_⟩
    rw [haside, String.empty_append]
  | @alone us last haside =>
    rw [haside]
    by_cases hus : us = []
    · refine ⟨"", .inl rfl, ?_⟩
      rw [String.empty_append]
      exact if_pos hus
    · exact ⟨" ", .inr rfl, if_neg hus⟩

/-- The words before the last one are those that were read. -/
theorem take_words (h : Reads declared ws p) (hn : n < p.words.length) :
    p.words.take n = ws.take n := by
  cases h with
  | whole => rfl
  | stem =>
    rw [List.length_append, List.length_singleton] at hn
    rw [List.take_append_of_le_length (by omega), List.take_append_of_le_length (by omega)]
  | alone => rw [List.take_append_of_le_length (by dsimp only at hn; omega)]

theorem length_words_le (h : Reads declared ws p) : p.words.length ≤ ws.length := by
  cases h with
  | whole => exact Nat.le_refl _
  | stem => simp
  | alone => simp

/-- The punctuation is that of the last word, or the whole of it after a space. -/
theorem trailing_cases (h : Reads declared ws p) (hne : p.words ≠ []) :
    p.trailing = "" ∨ ∃ last, ws.getLast? = some last ∧
      (p.trailing = Text.terminalRun last ∨ (Text.stem last = "" ∧ p.trailing = " " ++ last)) := by
  cases h with
  | whole => exact .inl rfl
  | @stem us last => exact .inr ⟨last, List.getLast?_concat .., .inl rfl⟩
  | @alone us last haside hstem =>
    have htrailing : (if us = [] then Text.terminalRun last else " " ++ Text.terminalRun last) =
        " " ++ last := by
      rw [if_neg hne, Text.terminalRun_of_stem_eq_empty hstem]
    exact .inr ⟨last, List.getLast?_concat .., .inr ⟨hstem, htrailing⟩⟩

/-- What the last words and the punctuation make up is what was read. -/
theorem join_drop_append_trailing (h : Reads declared ws p) (hn : n < p.words.length) :
    Text.join (p.words.drop n) ++ p.trailing = Text.join (ws.drop n) := by
  cases h with
  | whole => exact String.append_empty
  | @stem us last =>
    rw [List.length_append, List.length_singleton] at hn
    rw [List.drop_append_of_le_length (by omega), List.drop_append_of_le_length (by omega)]
    -- the stem and the punctuation make up the last word
    by_cases hus : us.drop n = []
    · rw [hus, List.nil_append, List.nil_append, Text.join_singleton, Text.join_singleton,
        Text.stem_append_terminalRun]
    · rw [Text.join_append hus (by simp), Text.join_append hus (by simp), Text.join_singleton,
        Text.join_singleton, String.append_assoc, Text.stem_append_terminalRun]
  | @alone us last haside hstem =>
    dsimp only at hn ⊢
    -- a word is left before the punctuation, and the space between them with it
    have hne : us.drop n ≠ [] := fun hnil => by
      have := List.drop_eq_nil_iff.mp hnil
      omega
    have hus : us ≠ [] := fun hnil => by
      rw [hnil] at hn
      exact Nat.not_lt_zero _ hn
    rw [if_neg hus, List.drop_append_of_le_length (by omega), Text.join_append hne (by simp),
      Text.join_singleton, Text.terminalRun_of_stem_eq_empty hstem, String.append_assoc]

/-- The words and the punctuation make up the text. -/
theorem text_eq (h : Reads declared ws p) : p.text = Text.join ws := by
  by_cases hne : p.words = []
  · cases h with
    | whole => exact String.append_empty
    | stem => simp at hne
    | @alone us last haside hstem =>
      dsimp only at hne
      rw [hne, text, if_pos rfl, Text.join_nil, String.empty_append,
        Text.terminalRun_of_stem_eq_empty hstem, List.nil_append, Text.join_singleton]
  · have hlen := List.length_pos_iff.mpr hne
    exact h.join_drop_append_trailing hlen

end Reads

end Phrase

end Headword
