import Headword.Proofs.Matcher.Matches

/-!
# Ignored words are spared

A matcher knows no ignored word, so it finds none and leaves all of them behind.  Only the terminal
punctuation at the end of a phrase may change its place: it is set aside first and attached again to
whatever is left.
-/

namespace Headword

/-- Each of the words occurs in both texts equally often. -/
def SameCounts (s : WordSet) (x y : String) : Prop :=
  ∀ w ∈ s, (Text.words x).count w = (Text.words y).count w

theorem Text.words_join_append_pad {ws : List String} {pad : String} (hws : ∀ w ∈ ws, IsWord w.toList)
    (hpad : pad = "" ∨ pad = " ") : words (join ws ++ pad) = ws := by
  rcases hpad with rfl | rfl
  · rw [String.append_empty, words_join hws]
  · rw [words_append_space_empty, words_join hws]

theorem WordSet.count_append {s : WordSet} {us : List String} (hus : ∀ v ∈ us, v ∉ s) {w : String}
    (hw : w ∈ s) (vs : List String) : (us ++ vs).count w = vs.count w := by
  have hzero : us.count w = 0 := List.count_eq_zero.mpr fun hmem => hus w hmem hw
  rw [List.count_append, hzero, Nat.zero_add]

namespace Matcher

/-- The terminal punctuation that a matcher sets aside from the end of a text. -/
def setAside (m : Matcher) (text : String) : String :=
  Phrase.setAside m.knows (Text.normalWords text)

/-- What a matcher does to the words of a set: it finds none of them, and outside the punctuation set
aside they occur in what is left as often as before. -/
structure Spares (m : Matcher) (s : WordSet) (text : String) : Prop where
  found : ∀ f, m.find text = some f → ∀ w ∈ Text.words f, w ∉ s
  rest : ∃ before after, Text.normalize text = before ++ m.setAside text ∧
    (m.remove text = after ++ m.setAside text ∨ (m.remove text = "" ∧ after = "")) ∧
    SameCounts s after before
  exact : (m.setAside text = "" ∨ m.find text = none ∨
      (m.direction = .forward ∧ m.remove text ≠ "")) →
    SameCounts s (m.remove text) (Text.normalize text)

variable {catalog : Catalog} {vocabulary : Vocabulary} {direction : Direction}
  {ignored : List String} {m : Matcher} {p : Phrase} {n : Nat}

/-- The words of a match are known, and so not ignored. -/
theorem not_mem_ignored_of_mem_parts (h : build catalog vocabulary direction ignored = .ok m)
    (hn : m.matchLength? p = some n) : ∀ w ∈ (m.parts p n).1, w ∉ ignoredWords ignored := by
  intro w hw
  have hcompile := compile_of_build_eq_ok h
  obtain ⟨-, -, hmatch⟩ := ((isLongest_matchLength? h p).eq_some_iff.mp hn).1
  apply Grammar.not_mem_ignored_of_mem_words hcompile
  apply (Grammar.mem_words_iff_of_compile_eq_ok hcompile).mpr
  apply hmatch.exists_row
  have hm := direction_of_build_eq_ok h
  cases direction with
  | forward =>
    rw [parts_forward hm] at hw
    exact hw
  | backward =>
    rw [parts_backward hm] at hw
    rw [Direction.orient_backward, List.take_reverse, List.mem_reverse]
    exact hw

theorem count_parts (h : build catalog vocabulary direction ignored = .ok m)
    (hn : m.matchLength? p = some n) {w : String} (hw : w ∈ ignoredWords ignored) :
    p.words.count w = (m.parts p n).2.count w := by
  rw [(perm_parts m p n).count_eq]
  exact WordSet.count_append (not_mem_ignored_of_mem_parts h hn) hw _

/-- What a forward matcher leaves behind has lost no ignored word. -/
theorem exists_remove_eq_join_drop (h : build catalog vocabulary .forward ignored = .ok m)
    {text : String} (hne : m.remove text ≠ "") :
    ∃ n, m.remove text = Text.join ((Text.normalWords text).drop n) ∧
      ∀ w ∈ (Text.normalWords text).take n, w ∉ ignoredWords ignored := by
  cases hn : m.matchLength? (m.phrase text) with
  | none => exact ⟨0, remove_of_eq_none hn, by simp⟩
  | some n =>
    have hspared := not_mem_ignored_of_mem_parts h hn
    have hm := direction_of_build_eq_ok h
    -- the match does not reach the last word, so only the last word may have been changed
    have hlt := lt_length_of_remove_ne_empty hn hne
    rw [parts_forward hm] at hspared
    refine ⟨n, remove_of_direction_eq_forward hm hn hlt, ?_⟩
    rwa [← (reads_phrase m text).take_words hlt]

theorem not_mem_ignored_of_find_eq_some (h : build catalog vocabulary direction ignored = .ok m)
    {text f : String} (hf : m.find text = some f) : ∀ w ∈ Text.words f, w ∉ ignoredWords ignored := by
  obtain ⟨n, hn, rfl⟩ := exists_of_find_eq_some hf
  have hword : ∀ w ∈ (m.parts (m.phrase text) n).1, Text.IsWord w.toList := fun w hw =>
    isWord_of_mem_phrase w (mem_words_of_mem_parts (.inl hw))
  rw [Text.words_join hword]
  exact not_mem_ignored_of_mem_parts h hn

/-- Outside the punctuation set aside, ignored words are left as they are. -/
theorem exists_rest (h : build catalog vocabulary direction ignored = .ok m) (text : String) :
    ∃ before after, Text.normalize text = before ++ m.setAside text ∧
      (m.remove text = after ++ m.setAside text ∨ (m.remove text = "" ∧ after = "")) ∧
      SameCounts (ignoredWords ignored) after before := by
  obtain ⟨pad, hpad, htrailing⟩ := (reads_phrase m text).exists_trailing_eq
  have hbefore : Text.normalize text = Text.join (m.phrase text).words ++ pad ++ m.setAside text := by
    rw [normalize_eq_text, Phrase.text, htrailing, String.append_assoc]
    rfl
  have hwords : Text.words (Text.join (m.phrase text).words ++ pad) = (m.phrase text).words :=
    Text.words_join_append_pad isWord_of_mem_phrase hpad
  cases hn : m.matchLength? (m.phrase text) with
  | none =>
    refine ⟨_, _, hbefore, .inl ?_, fun w _ => rfl⟩
    rw [← hbefore, remove_of_eq_none hn]
  | some n =>
    have hcount : ∀ w ∈ ignoredWords ignored,
        (m.phrase text).words.count w = (m.parts (m.phrase text) n).2.count w := fun w hw =>
      count_parts h hn hw
    rw [remove, split_of_eq_some hn]
    dsimp only
    generalize hleft : (m.parts (m.phrase text) n).2 = left at hcount
    by_cases hnil : left = []
    · -- the punctuation goes with the last word, and there was no ignored word to leave
      subst hnil
      refine ⟨_, "", hbefore, .inr ⟨rfl, rfl⟩, ?_⟩
      intro w hw
      rw [hwords, hcount w hw]
      rfl
    · -- the punctuation is attached again as it was, with the space before it or without
      refine ⟨_, Text.join left ++ pad, hbefore, .inl ?_, ?_⟩
      · rw [Phrase.attach_of_ne_nil _ hnil, htrailing, String.append_assoc]
        rfl
      · intro w hw
        have hword : ∀ v ∈ left, Text.IsWord v.toList := fun v hv =>
          isWord_of_mem_phrase v (mem_words_of_mem_parts (.inr (hleft ▸ hv)))
        rw [hwords, Text.words_join_append_pad hword hpad, hcount w hw]

/-- A matcher spares the words that it was built to ignore. -/
theorem spares (h : build catalog vocabulary direction ignored = .ok m) (text : String) :
    m.Spares (ignoredWords ignored) text := by
  refine ⟨fun f hf => not_mem_ignored_of_find_eq_some h hf, exists_rest h text, ?_⟩
  -- the three cases in which no punctuation comes to stand elsewhere
  rintro (haside | hnone | ⟨hforward, hne⟩) w hw
  · obtain ⟨before, after, hbefore, hafter, hcount⟩ := exists_rest h text
    rw [haside, String.append_empty] at hbefore hafter
    have hremove : m.remove text = after := hafter.elim id fun hempty => hempty.1.trans hempty.2.symm
    rw [hbefore, hremove]
    exact hcount w hw
  · rw [remove_of_find_eq_none hnone]
  · obtain rfl : direction = .forward := (direction_of_build_eq_ok h).symm.trans hforward
    obtain ⟨n, hremove, hspared⟩ := exists_remove_eq_join_drop h hne
    have hnormal : ∀ v ∈ (Text.normalWords text).drop n, Text.IsWord v.toList := fun v hv =>
      (Text.isNormal_of_mem_normalWords (List.mem_of_mem_drop hv)).1
    rw [hremove, Text.words_join hnormal, Text.words_normalize]
    have hcount := WordSet.count_append hspared hw ((Text.normalWords text).drop n)
    rw [List.take_append_drop] at hcount
    exact hcount.symm

end Matcher

end Headword
