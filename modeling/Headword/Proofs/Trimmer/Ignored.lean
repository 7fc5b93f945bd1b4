import Headword.English
import Headword.Proofs.Matcher.Ignored
import Headword.Proofs.Trimmer.Content

/-!
# Trimmers spare ignored words

The leading matcher leaves the end of the phrase as it was, so what the trailing matcher does to the
words and the punctuation is all that happens to them.
-/

namespace Headword

namespace Trimmer

variable {leading trailing : Catalog} {vocabulary : Vocabulary} {ignored : List String} {t : Trimmer}

theorem build_eq_ok (h : build leading trailing vocabulary ignored = .ok t) :
    Matcher.build leading vocabulary .forward ignored = .ok t.leading ∧
      Matcher.build trailing vocabulary .backward ignored = .ok t.trailing := by
  unfold build at h
  split at h
  · cases h
  next l hl =>
    split at h
    · cases h
    next r hr =>
      cases h
      exact ⟨hl, hr⟩

/-- What a trimmer does to the words of a set: outside the punctuation that its trailing matcher sets
aside they occur in the content as often as in the phrase. -/
structure Spares (t : Trimmer) (s : WordSet) (text : String) : Prop where
  content : ∃ before after, Text.normalize text = before ++ t.trailing.setAside text ∧
    t.trim text = after ++ t.trailing.setAside text ∧ SameCounts s after before
  exact : (t.trailing.setAside text = "" ∨ t.strip text = "" ∨
      t.trailing.find (t.leading.remove text) = none) →
    SameCounts s (t.trim text) (Text.normalize text)

/-- The trailing matcher gets the end of the phrase as it was, or the phrase is its own content. -/
theorem exists_front (h : build leading trailing vocabulary ignored = .ok t) {text : String}
    (hstrip : t.strip text ≠ "") :
    ∃ front us, (∀ w ∈ us, w ∉ ignoredWords ignored) ∧
      Text.normalize text = front ++ Text.normalize (t.leading.remove text) ∧
      (∀ x, Text.words (front ++ x) = us ++ Text.words x) ∧
      t.trailing.setAside (t.leading.remove text) = t.trailing.setAside text := by
  obtain ⟨hleading, -⟩ := build_eq_ok h
  have hne : t.leading.remove text ≠ "" := by
    intro hempty
    apply hstrip
    rw [strip, hempty, Matcher.remove_empty]
  -- what the leading matcher leaves are the last words of the phrase, none of them changed
  obtain ⟨n, hremove, hspared⟩ := Matcher.exists_remove_eq_join_drop hleading hne
  have hnormal : Text.normalWords (t.leading.remove text) = (Text.normalWords text).drop n := by
    rw [hremove]
    exact Text.normalWords_join fun w hw => Text.isNormal_of_mem_normalWords (List.mem_of_mem_drop hw)
  have hleft : (Text.normalWords text).drop n ≠ [] := by
    intro hnil
    rw [hremove, hnil] at hne
    exact hne Text.join_nil
  have hword : ∀ w ∈ (Text.normalWords text).take n, Text.IsWord w.toList := fun w hw =>
    (Text.isNormal_of_mem_normalWords (List.mem_of_mem_take hw)).1
  obtain ⟨front, hfront, hwords⟩ := Text.exists_join_append hword hleft
  rw [List.take_append_drop] at hfront
  refine ⟨front, _, hspared, ?_, hwords, ?_⟩
  · rw [Text.normalize, Text.normalize, hnormal]
    exact hfront
  · rw [Matcher.setAside, Matcher.setAside, hnormal]
    have hlast := Phrase.setAside_append t.trailing.knows ((Text.normalWords text).take n) hleft
    rw [List.take_append_drop] at hlast
    exact hlast.symm

/-- A trimmer spares the words that it was built to ignore. -/
theorem spares (h : build leading trailing vocabulary ignored = .ok t) (text : String) :
    t.Spares (ignoredWords ignored) text := by
  obtain ⟨-, htrailing⟩ := build_eq_ok h
  have hcontent : ∃ before after, Text.normalize text = before ++ t.trailing.setAside text ∧
      t.trim text = after ++ t.trailing.setAside text ∧
      SameCounts (ignoredWords ignored) after before := by
    by_cases hstrip : t.strip text = ""
    · -- the phrase is its own content
      obtain ⟨before, -, hbefore, -⟩ := Matcher.exists_rest htrailing text
      exact ⟨before, before, hbefore, (trim_of_strip_eq_empty hstrip).trans hbefore, fun w _ => rfl⟩
    · obtain ⟨front, us, hspared, hfront, hwords, haside⟩ := exists_front h hstrip
      obtain ⟨before, after, hbefore, hafter, hcount⟩ :=
        Matcher.exists_rest htrailing (t.leading.remove text)
      rw [haside] at hbefore hafter
      have hleft := hafter.resolve_right fun hempty => hstrip hempty.1
      refine ⟨front ++ before, after, ?_, (trim_of_strip_ne_empty hstrip).trans hleft, ?_⟩
      · rw [hfront, hbefore, String.append_assoc]
      · intro w hw
        rw [hwords, WordSet.count_append hspared hw]
        exact hcount w hw
  refine ⟨hcontent, ?_⟩
  intro hcase
  by_cases hstrip : t.strip text = ""
  · intro w _
    rw [trim_of_strip_eq_empty hstrip]
  · rcases hcase with haside | hempty | hnone
    · obtain ⟨before, after, hbefore, hafter, hcount⟩ := hcontent
      rw [haside, String.append_empty] at hbefore hafter
      rw [hbefore, hafter]
      exact hcount
    · exact absurd hempty hstrip
    · obtain ⟨front, us, hspared, hfront, hwords, -⟩ := exists_front h hstrip
      intro w hw
      rw [trim_of_strip_ne_empty hstrip, Matcher.remove_of_find_eq_none hnone, hfront, hwords,
        WordSet.count_append hspared hw]

theorem exists_build (hleading : vocabulary.Supplies leading) (htrailing : vocabulary.Supplies trailing)
    (ignored : List String) : ∃ t, build leading trailing vocabulary ignored = .ok t := by
  have hl : ∃ l, Matcher.build leading vocabulary .forward ignored = .ok l :=
    Matcher.exists_build_eq_ok_iff.mpr hleading
  have hr : ∃ r, Matcher.build trailing vocabulary .backward ignored = .ok r :=
    Matcher.exists_build_eq_ok_iff.mpr htrailing
  obtain ⟨l, hl⟩ := hl
  obtain ⟨r, hr⟩ := hr
  unfold build
  split
  next hfault => cases hl.symm.trans hfault
  next =>
    split
    next hfault => cases hr.symm.trans hfault
    next => exact ⟨_, rfl⟩

end Trimmer

namespace English

/-- Both catalogs can be read and ask only for categories that have a list. -/
theorem exists_catalogs :
    ∃ l r, leading = .ok l ∧ trailing = .ok r ∧ vocabulary.Supplies l ∧ vocabulary.Supplies r := by
  have hcomplete : ∀ c ∈ [leading, trailing],
      (c.toOption.any fun c => (c.missing? vocabulary).isNone) = true := by
    decide +kernel
  have hone : ∀ c ∈ [leading, trailing], ∃ l, c = .ok l ∧ vocabulary.Supplies l := by
    intro c hc
    have hany := hcomplete c hc
    cases c with
    | error fault => cases hany
    | ok l => exact ⟨l, rfl, Catalog.missing?_eq_none_iff.mp (Option.isNone_iff_eq_none.mp hany)⟩
  obtain ⟨l, hl, hleading⟩ := hone leading (by simp)
  obtain ⟨r, hr, htrailing⟩ := hone trailing (by simp)
  exact ⟨l, r, hl, hr, hleading, htrailing⟩

/-- The English trimmer can be built for all ignored words. -/
theorem exists_trimmer (ignored : List String) :
    ∃ l r t, trimmer ignored = .ok t ∧ Trimmer.build l r vocabulary ignored = .ok t := by
  obtain ⟨l, r, hl, hr, hleading, htrailing⟩ := exists_catalogs
  obtain ⟨t, ht⟩ := Trimmer.exists_build hleading htrailing ignored
  refine ⟨l, r, t, ?_, ht⟩
  rw [trimmer, hl, hr]
  exact ht

end English

/-- Matchers and trimmers spare the words that they were built to ignore, and the English trimmer, which
can be built to ignore any words, spares them too. -/
theorem ignored_words_spared :
    (∀ catalog vocabulary direction ignored m text,
      Matcher.build catalog vocabulary direction ignored = .ok m →
        m.Spares (ignoredWords ignored) text) ∧
    (∀ leading trailing vocabulary ignored t text,
      Trimmer.build leading trailing vocabulary ignored = .ok t →
        t.Spares (ignoredWords ignored) text) ∧
    ∀ ignored text, ∃ t, English.trimmer ignored = .ok t ∧ t.Spares (ignoredWords ignored) text := by
  refine ⟨fun _ _ _ _ _ text h => Matcher.spares h text, fun _ _ _ _ _ text h => Trimmer.spares h text, ?_⟩
  intro ignored text
  obtain ⟨l, r, t, ht, hbuild⟩ := English.exists_trimmer ignored
  exact ⟨t, ht, Trimmer.spares hbuild text⟩

/-- The mark is set aside, and it comes to stand after the ignored word. -/
theorem spares_cat_the :
    ∃ m, Matcher.build ⟨none, [⟨[.category .article]⟩]⟩ (Vocabulary.empty.extend .article ["the"])
        .backward ["Cat "] = .ok m ∧ m.setAside "Cat  the!" = "!" ∧ m.remove "Cat  the!" = "cat!" ∧
      m.Spares (ignoredWords ["Cat "]) "Cat  the!" := by
  have h : ∃ m, Matcher.build ⟨none, [⟨[.category .article]⟩]⟩
      (Vocabulary.empty.extend .article ["the"]) .backward ["Cat "] = .ok m ∧
      m.setAside "Cat  the!" = "!" ∧ m.remove "Cat  the!" = "cat!" :=
    ⟨_, rfl, by decide +kernel, by decide +kernel⟩
  obtain ⟨m, hm, haside, hremove⟩ := h
  exact ⟨m, hm, haside, hremove, ignored_words_spared.1 _ _ _ _ m _ hm⟩

/-- The punctuation set aside comes to stand after an ignored word, which is how it is meant.  It may also
be what tells an ignored word from one that is not: the mark of an ignored `sth.` is set aside like any
other, and what is left of the word is taken away.  This is not meant, since an ignored word should stay. -/
theorem not_sameCounts_of_punctuation :
    (∃ m, Matcher.build ⟨none, [⟨[.category .article]⟩]⟩ (Vocabulary.empty.extend .article ["the"])
        .backward ["cat"] = .ok m ∧ m.remove "cat the." = "cat." ∧
      ¬SameCounts (ignoredWords ["cat"]) (m.remove "cat the.") (Text.normalize "cat the.")) ∧
    ∃ t, Trimmer.build ⟨none, []⟩ ⟨none, [⟨[.category .preposition, .category .pronoun]⟩]⟩
        ((Vocabulary.empty.extend .pronoun ["sth"]).extend .preposition ["at"]) ["sth."] = .ok t ∧
      t.trim "look at sth." = "look." ∧
      ¬SameCounts (ignoredWords ["sth."]) (t.trim "look at sth.") (Text.normalize "look at sth.") := by
  refine ⟨⟨_, rfl, by decide +kernel, fun h => ?_⟩, _, rfl, by decide +kernel, fun h => ?_⟩
  · exact absurd (h "cat" (by decide +kernel)) (by decide +kernel)
  · exact absurd (h "sth." (by decide +kernel)) (by decide +kernel)

end Headword
