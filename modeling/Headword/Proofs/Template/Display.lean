import Headword.Proofs.Template.Reading

/-!
# Written templates

The written form of a template is read as the same template when each of its words is one that reading
could yield, and in no other case: what reading yields are such words.
-/

namespace Headword

open Text (IsNormal IsWord isBlank)

theorem Category.inBraces_label (c : Category) : InBraces c.label c.marker where
  eq := rfl
  ne_empty := by cases c <;> decide
  braceFree := braceFree_iff_any.mpr (by cases c <;> decide)

theorem Category.isCalled_marker (c : Category) : c.IsCalled c.marker := by
  apply Or.inl
  cases c <;> decide

namespace Slot

variable {s : Slot}

theorem isWord_text (h : ∀ w, s = .word w → IsNormal w ∧ BraceFree w) : IsWord s.text.toList := by
  cases s with
  | word w => exact (h w rfl).1.1
  | category c =>
    have hblank : c.label.toList.any isBlank = false := by cases c <;> decide
    refine ⟨?_, fun d hd => Bool.eq_false_iff.mpr (List.any_eq_false.mp hblank d hd)⟩
    show c.label.toList ≠ []
    cases c <;> decide

theorem readsAs_text (h : ∀ w, s = .word w → IsNormal w ∧ BraceFree w) : ReadsAs s.text s := by
  cases s with
  | word w =>
    obtain ⟨⟨-, hlower⟩, hfree⟩ := h w rfl
    have hreads := ReadsAs.word hfree
    rwa [hlower] at hreads
  | category c => exact .category c.inBraces_label c.isCalled_marker

end Slot

namespace Template

variable {t : Template}

theorem words_text (h : ∀ w, .word w ∈ t.slots → IsNormal w ∧ BraceFree w) :
    Text.words t.text = t.slots.map Slot.text := by
  apply Text.words_join
  intro w hw
  obtain ⟨s, hs, rfl⟩ := List.mem_map.mp hw
  exact Slot.isWord_text fun v hv => h v (hv ▸ hs)

theorem parse_text_eq_ok_iff :
    parse t.text = .ok t ↔ ∀ w, .word w ∈ t.slots → IsNormal w ∧ BraceFree w := by
  constructor
  · intro h w hw
    exact isNormal_and_braceFree_of_parse h hw
  · intro h
    rw [parse_eq_ok_iff, words_text h, List.forall₂_map_left_iff, List.forall₂_same]
    intro s hs
    exact Slot.readsAs_text fun w hw => h w (hw ▸ hs)

/-- The written form reads back exactly when each word of the template is one that a template text can
have, and so it does for every template that was itself read from a text. -/
theorem text_reads_back :
    (∀ t : Template, parse t.text = .ok t ↔
      ∀ w, .word w ∈ t.slots →
        w ≠ "" ∧ (∀ c ∈ w.toList, isBlank c = false) ∧ BraceFree w ∧ Text.lowercase w = w) ∧
    ∀ (text : String) (t : Template), parse text = .ok t → parse t.text = .ok t := by
  have hword : ∀ w, IsNormal w ∧ BraceFree w ↔
      w ≠ "" ∧ (∀ c ∈ w.toList, isBlank c = false) ∧ BraceFree w ∧ Text.lowercase w = w := by
    intro w
    have hne : w.toList ≠ [] ↔ w ≠ "" := not_congr String.toList_eq_nil_iff
    rw [Text.IsNormal, IsWord, hne]
    grind
  constructor
  · intro t
    rw [parse_text_eq_ok_iff]
    simp only [hword]
  · intro text t h
    rw [parse_text_eq_ok_iff]
    exact fun w hw => isNormal_and_braceFree_of_parse h hw

/-- A text with blanks to spare, capitals and a full category name is written in its short form. -/
theorem text_reads_back_short_form :
    parse " To \x7bARTICLE\x7d  \x7bverb\x7d" = .ok ⟨[.word "to", .category .article, .category .verb]⟩ ∧
      parse "to \x7bart\x7d \x7bverb\x7d" = .ok ⟨[.word "to", .category .article, .category .verb]⟩ := by
  have hread : parse " To \x7bARTICLE\x7d  \x7bverb\x7d" =
      .ok ⟨[.word "to", .category .article, .category .verb]⟩ := by
    decide +kernel
  exact ⟨hread, text_reads_back.2 _ _ hread⟩

end Template

end Headword
