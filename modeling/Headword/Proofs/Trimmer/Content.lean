import Headword.Proofs.Matcher.Matches
import Headword.Trimmer

/-!
# The content of a phrase

The leading matcher leaves the last words of a phrase as they were, and the trailing matcher leaves the
first of these.  So the content is one run of the words of the phrase, with the punctuation at its end.
-/

namespace Headword

theorem Matcher.remove_empty (m : Matcher) : m.remove "" = "" := by
  have hphrase : m.phrase "" = ⟨[], ""⟩ := rfl
  cases hn : m.matchLength? (m.phrase "") with
  | none =>
    rw [remove, split_of_eq_none hn, hphrase]
    exact String.append_empty
  | some n =>
    rw [remove, split_of_eq_some hn, hphrase]
    cases hm : m.direction with
    | forward => rw [parts_forward hm, List.drop_nil, Phrase.attach_nil]
    | backward => rw [parts_backward hm, List.take_nil, Phrase.attach_nil]

namespace Text

/-- What may stand after the words that are kept: nothing, or the punctuation of the last word, or the
last word itself when it is all punctuation. -/
def Closes (ws : List String) (s : String) : Prop :=
  s = "" ∨ ∃ last, ws.getLast? = some last ∧
    (s = terminalRun last ∨ ((∀ c ∈ last.toList, isTerminal c = true) ∧ s = " " ++ last))

/-- The words at the end of a phrase close as the phrase does. -/
theorem Closes.of_drop {ws : List String} {i : Nat} {s : String} (h : Closes (ws.drop i) s) :
    Closes ws s := by
  refine h.imp id ?_
  rintro ⟨last, hlast, hs⟩
  refine ⟨last, ?_, hs⟩
  rw [List.getLast?_drop] at hlast
  split at hlast
  · cases hlast
  · exact hlast

end Text

namespace Matcher

variable {m : Matcher} {text : String}

/-- A forward matcher takes words away at the beginning. -/
theorem exists_remove_eq_drop (hm : m.direction = .forward) (text : String) :
    ∃ i, m.remove text = Text.join ((Text.normalWords text).drop i) := by
  cases hn : m.matchLength? (m.phrase text) with
  | none => exact ⟨0, remove_of_eq_none hn⟩
  | some n =>
    by_cases hempty : m.remove text = ""
    · -- nothing is left, which is no word of the phrase
      refine ⟨(Text.normalWords text).length, ?_⟩
      rw [hempty, List.drop_length, Text.join_nil]
    · exact ⟨n, remove_of_direction_eq_forward hm hn (lt_length_of_remove_ne_empty hn hempty)⟩

theorem closes_trailing (hne : (m.phrase text).words ≠ []) :
    Text.Closes (Text.normalWords text) (m.phrase text).trailing := by
  apply ((reads_phrase m text).trailing_cases hne).imp id
  rintro ⟨last, hlast, hrun | ⟨hstem, htrailing⟩⟩
  · exact ⟨last, hlast, .inl hrun⟩
  · exact ⟨last, hlast, .inr ⟨fun c hc => Text.isTerminal_of_stem_eq_empty hstem hc, htrailing⟩⟩

/-- A backward matcher keeps words from the beginning, all of them or some before the last one. -/
theorem exists_remove_eq_take (hm : m.direction = .backward) (hne : m.remove text ≠ "") :
    ∃ k s, 0 < k ∧ k ≤ (Text.normalWords text).length ∧ Text.Closes (Text.normalWords text) s ∧
      m.remove text = Text.join ((Text.normalWords text).take k) ++ s := by
  cases hn : m.matchLength? (m.phrase text) with
  | none =>
    -- all words are kept, the last one with its punctuation
    rw [remove_of_eq_none hn] at hne ⊢
    have hwords : Text.normalWords text ≠ [] := fun hnil => hne (Text.normalize_eq_empty_iff.mpr hnil)
    refine ⟨_, "", List.length_pos_iff.mpr hwords, Nat.le_refl _, .inl rfl, ?_⟩
    rw [List.take_length, String.append_empty]
    rfl
  | some n =>
    have hlt := lt_length_of_remove_ne_empty hn hne
    have hlen := (reads_phrase m text).length_words_le
    have hwords : (m.phrase text).words ≠ [] := List.ne_nil_of_length_pos (by omega)
    exact ⟨_, _, by omega, by omega, closes_trailing hwords, remove_of_direction_eq_backward hm hn hlt⟩

end Matcher

namespace Trimmer

variable {t : Trimmer}

theorem trim_of_strip_eq_empty {text : String} (h : t.strip text = "") :
    t.trim text = Text.normalize text := by
  rw [trim]
  exact if_pos h

theorem trim_of_strip_ne_empty {text : String} (h : t.strip text ≠ "") :
    t.trim text = t.trailing.remove (t.leading.remove text) := by
  rw [trim]
  exact if_neg h

theorem trim_eq_empty_iff (t : Trimmer) (text : String) :
    t.trim text = "" ↔ Text.normalize text = "" := by
  by_cases hstrip : t.strip text = ""
  · rw [trim_of_strip_eq_empty hstrip]
  · rw [trim_of_strip_ne_empty hstrip]
    refine iff_of_false hstrip fun hempty => hstrip ?_
    -- a phrase without words leaves the matchers nothing
    obtain ⟨i, hi⟩ := Matcher.exists_remove_eq_drop t.leading_forward text
    rw [strip, hi, Text.normalize_eq_empty_iff.mp hempty, List.drop_nil, Text.join_nil,
      Matcher.remove_empty]

/-- What the leading matcher leaves are the last words of the phrase.  The content is made of the first of
these, with what may close them, or it is the whole phrase when the matchers leave nothing. -/
theorem trim_keeps_one_run (t : Trimmer) (text : String) :
    (∃ i, t.leading.remove text = Text.join ((Text.words (Text.normalize text)).drop i) ∧
      ((t.strip text = "" ∧ t.trim text = Text.normalize text) ∨
        ∃ j s, i < j ∧ j ≤ (Text.words (Text.normalize text)).length ∧
          Text.Closes (Text.words (Text.normalize text)) s ∧
          t.trim text = Text.join (((Text.words (Text.normalize text)).take j).drop i) ++ s)) ∧
    (t.trim text = "" ↔ Text.normalize text = "") := by
  refine ⟨?_, t.trim_eq_empty_iff text⟩
  rw [Text.words_normalize]
  obtain ⟨i, hi⟩ := Matcher.exists_remove_eq_drop t.leading_forward text
  refine ⟨i, hi, ?_⟩
  by_cases hstrip : t.strip text = ""
  · exact .inl ⟨hstrip, trim_of_strip_eq_empty hstrip⟩
  · -- the trailing matcher reads the words that are left as they stand in the phrase
    have hleft : Text.normalWords (t.leading.remove text) = (Text.normalWords text).drop i := by
      rw [hi]
      exact Text.normalWords_join fun w hw => Text.isNormal_of_mem_normalWords (List.mem_of_mem_drop hw)
    obtain ⟨k, s, hpos, hle, hs, htake⟩ := Matcher.exists_remove_eq_take t.trailing_backward hstrip
    rw [hleft] at hle hs htake
    rw [List.length_drop] at hle
    refine .inr ⟨i + k, s, by omega, by omega, hs.of_drop, ?_⟩
    rw [trim_of_strip_ne_empty hstrip, htake, List.drop_take, Nat.add_sub_cancel_left]

end Trimmer

end Headword
