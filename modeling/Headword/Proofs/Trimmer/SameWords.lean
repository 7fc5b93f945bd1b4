import Headword.Proofs.Matcher.Matches
import Headword.Proofs.Text.SameWords
import Headword.Trimmer

/-!
# Phrases with the same words

A matcher reads nothing of a phrase but its words in normal form.  So matchers and trimmers, whatever
they were built from, treat phrases with the same words alike.
-/

namespace Headword

/-- No matcher and no trimmer tells the phrases apart. -/
structure TreatedAlike (p q : String) : Prop where
  split_eq : ∀ m : Matcher, m.split p = m.split q
  find_eq : ∀ m : Matcher, m.find p = m.find q
  remove_eq : ∀ m : Matcher, m.remove p = m.remove q
  trim_eq : ∀ t : Trimmer, t.trim p = t.trim q
  sortKey_eq : ∀ t : Trimmer, t.sortKey p = t.sortKey q

variable {p q : String}

theorem Matcher.phrase_congr (h : Text.normalWords p = Text.normalWords q) (m : Matcher) :
    m.phrase p = m.phrase q := by
  rw [phrase, phrase, Phrase.parse, Phrase.parse, h]

theorem Matcher.split_congr (h : Text.normalWords p = Text.normalWords q) (m : Matcher) :
    m.split p = m.split q := by
  rw [split, split, phrase_congr h]

theorem Matcher.remove_congr (h : Text.normalWords p = Text.normalWords q) (m : Matcher) :
    m.remove p = m.remove q := by
  rw [remove, remove, split_congr h]

/-- What the leading matcher leaves is the same, and so is the normal form to fall back on. -/
theorem Trimmer.trim_congr (h : Text.normalWords p = Text.normalWords q) (t : Trimmer) :
    t.trim p = t.trim q := by
  have hstrip : t.strip p = t.strip q := by rw [strip, strip, Matcher.remove_congr h]
  rw [trim, trim, hstrip, Text.normalize_congr h]

theorem TreatedAlike.of_sameWords (h : Text.SameWords p q) : TreatedAlike p q := by
  have hwords := Text.sameWords_iff.mp h
  exact
    { split_eq := fun m => m.split_congr hwords
      find_eq := fun m => congrArg Split.found (m.split_congr hwords)
      remove_eq := fun m => m.remove_congr hwords
      trim_eq := fun t => t.trim_congr hwords
      sortKey_eq := fun t => t.trim_congr hwords }

/-- A matcher without templates finds nothing. -/
theorem Matcher.exists_remove_eq_normalize :
    ∃ m : Matcher, ∀ text, m.remove text = Text.normalize text := by
  have hsupplies : Vocabulary.empty.Supplies ⟨none, []⟩ := by
    intro t ht
    cases ht
  have hbuild : ∃ m, build ⟨none, []⟩ .empty .forward [] = .ok m :=
    exists_build_eq_ok_iff.mpr hsupplies
  obtain ⟨m, hm⟩ := hbuild
  refine ⟨m, fun text => remove_of_eq_none ?_⟩
  rw [(isLongest_matchLength? hm _).eq_none_iff]
  -- there is no row that a match could fill, and none that it could begin
  rintro n ⟨-, -, ⟨row, ⟨t, ht, -⟩, -⟩ | ⟨-, p, c, rest, ⟨t, ht, -⟩, -⟩⟩
  · cases ht
  · cases ht

/-- Phrases are treated alike if and only if their words are the same in lowercase, as those of a phrase
and its normal form are. -/
theorem treatedAlike_iff_sameWords (p q : String) :
    (TreatedAlike p q ↔ Text.SameWords p q) ∧ TreatedAlike (Text.normalize p) p := by
  refine ⟨⟨fun h => ?_, .of_sameWords⟩, .of_sameWords (Text.sameWords_normalize p)⟩
  obtain ⟨m, hm⟩ := Matcher.exists_remove_eq_normalize
  have hremove := h.remove_eq m
  rw [hm, hm] at hremove
  exact Text.sameWords_iff_normalize_eq.mpr hremove

end Headword
