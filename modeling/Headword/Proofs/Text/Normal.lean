import Headword.Proofs.Text.Lowercase
import Headword.Text.Normal

/-!
# Words in normal form

Joining words in normal form and reading them again changes nothing.
-/

namespace Headword.Text

/-- A word that normalizing keeps. -/
def IsNormal (w : String) : Prop :=
  IsWord w.toList ∧ lowercase w = w

theorem isNormal_lowercase {w : String} (h : IsWord w.toList) : IsNormal (lowercase w) :=
  ⟨isWord_lowercase h, lowercase_lowercase w⟩

theorem isNormal_of_mem_normalWords {text w : String} (h : w ∈ normalWords text) : IsNormal w := by
  obtain ⟨v, hv, rfl⟩ := List.mem_map.mp h
  exact isNormal_lowercase (isWord_of_mem_words hv)

theorem normalWords_join {ws : List String} (h : ∀ w ∈ ws, IsNormal w) : normalWords (join ws) = ws := by
  rw [normalWords, words_join fun w hw => (h w hw).1, List.map_congr_left fun w hw => (h w hw).2]
  exact List.map_id' ws

theorem normalWords_append_space (s t : String) :
    normalWords (s ++ " " ++ t) = normalWords s ++ normalWords t := by
  rw [normalWords, words_append_space, List.map_append]
  rfl

@[simp] theorem join_nil : join [] = "" := by
  rw [join, String.intercalate_nil]

@[simp] theorem join_singleton (w : String) : join [w] = w := by
  rw [join, String.intercalate_singleton]

theorem join_append {us vs : List String} (hu : us ≠ []) (hv : vs ≠ []) :
    join (us ++ vs) = join us ++ " " ++ join vs := by
  rw [join, String.intercalate_append_of_ne_nil hu hv]
  rfl

theorem words_append_space_empty (s : String) : words (s ++ " ") = words s := by
  have h := words_append_space s ""
  rw [String.append_empty] at h
  rw [h]
  exact List.append_nil _

/-- Words in front of a text, with the space after them. -/
theorem exists_join_append {us vs : List String} (hus : ∀ w ∈ us, IsWord w.toList) (hv : vs ≠ []) :
    ∃ front, join (us ++ vs) = front ++ join vs ∧ ∀ x, words (front ++ x) = us ++ words x := by
  by_cases hu : us = []
  · -- without words there is no space either
    subst hu
    refine ⟨"", ?_, fun x => ?_⟩
    · rw [List.nil_append, String.empty_append]
    · rw [String.empty_append, List.nil_append]
  · refine ⟨join us ++ " ", join_append hu hv, fun x => ?_⟩
    rw [words_append_space, words_join hus]

theorem words_normalize (text : String) : words (normalize text) = normalWords text := by
  rw [normalize, words_join fun w hw => (isNormal_of_mem_normalWords hw).1]

theorem join_ne_empty {ws : List String} (hws : ∀ w ∈ ws, IsWord w.toList) (hne : ws ≠ []) :
    join ws ≠ "" := by
  intro hempty
  apply hne
  rw [← words_join hws, hempty]
  rfl

theorem normalize_eq_empty_iff {text : String} : normalize text = "" ↔ normalWords text = [] := by
  constructor
  · intro hempty
    rw [← words_normalize, hempty]
    rfl
  · intro hnil
    rw [normalize, hnil, join_nil]

end Headword.Text
