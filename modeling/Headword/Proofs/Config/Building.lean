import Headword.Config
import Headword.Proofs.Text.Trimming

/-!
# Building by way of a configuration

Adding ignored words by and by is adding them at once (`Config.foldl_ignore`), and neither the order nor
the repetition of words matters.  A configuration lowercases its ignored words as they come, blanks and
all, and the matcher cleans them once more; the first step takes nothing away from the second.
-/

namespace Headword

theorem mem_ignoredWords {w : String} {ws : List String} :
    w ∈ ignoredWords ws ↔ w ≠ "" ∧ ∃ v ∈ ws, Text.lowercase (Text.trim v) = w := by
  rw [ignoredWords, WordSet.mem_ofList, List.mem_filter, List.mem_map, decide_eq_true_eq, and_comm]

/-- Cleaning words after lowercasing them is cleaning them. -/
theorem ignoredWords_congr_lowercase {us vs : List String}
    (h : ∀ w, w ∈ us ↔ w ∈ vs.map Text.lowercase) : ignoredWords us = ignoredWords vs := by
  apply WordSet.ext_mem
  have hclean : ∀ v, Text.lowercase (Text.trim (Text.lowercase v)) = Text.lowercase (Text.trim v) := by
    intro v
    rw [Text.trim_lowercase, Text.lowercase_lowercase]
  intro w
  rw [mem_ignoredWords, mem_ignoredWords]
  apply and_congr_right'
  simp only [h, List.mem_map, exists_exists_and_eq_and, hclean]

namespace Config

theorem ignore_ignore (c : Config) (us vs : List String) :
    (c.ignore us).ignore vs = c.ignore (us ++ vs) := by
  simp only [ignore, WordSet.insertAll, List.map_append, List.foldl_append]

/-- Any number of calls is one call. -/
theorem foldl_ignore (c : Config) (calls : List (List String)) :
    calls.foldl ignore c = c.ignore calls.flatten := by
  induction calls generalizing c with
  | nil => rfl
  | cons ws calls ih => rw [List.foldl_cons, ih, ignore_ignore, List.flatten_cons]

theorem mem_ignored_ignore {c : Config} {ws : List String} {w : String} :
    w ∈ (c.ignore ws).ignored ↔ w ∈ c.ignored ∨ w ∈ ws.map Text.lowercase :=
  WordSet.mem_insertAll

theorem ignore_congr (c : Config) {us vs : List String} (h : ∀ w, w ∈ us ↔ w ∈ vs) :
    c.ignore us = c.ignore vs := by
  have hset : c.ignored.insertAll (us.map Text.lowercase) =
      c.ignored.insertAll (vs.map Text.lowercase) := by
    apply WordSet.ext_mem
    intro w
    simp only [WordSet.mem_insertAll, List.mem_map, h]
  rw [ignore, ignore, hset]

variable {words : List String} {calls : List (List String)}

/-- However the ignored words are handed over, the configuration builds what the words build directly:
the same matcher, or the same fault. -/
theorem build_foldl_ignore (h : ∀ w, w ∈ calls.flatten ↔ w ∈ words) (catalog : Catalog)
    (vocabulary : Vocabulary) (direction : Direction) :
    ((calls.foldl ignore { catalog, vocabulary }).withDirection direction).build =
      Matcher.build catalog vocabulary direction words := by
  have hwords : ignoredWords (ignore { catalog, vocabulary } words).ignored.words =
      ignoredWords words := by
    apply ignoredWords_congr_lowercase
    intro w
    rw [WordSet.mem_words, mem_ignored_ignore]
    exact or_iff_right (WordSet.not_mem_empty w)
  rw [foldl_ignore, ignore_congr _ h]
  simp only [build, withDirection, Matcher.build, hwords]
  rfl

/-- Four words, one of them twice and one of them blank, come in three calls.  The template that needs
a list of verbs builds neither way. -/
theorem build_foldl_ignore_of_the :
    (∃ m,
      Matcher.build ⟨none, [⟨[.category .preposition]⟩]⟩
        (Vocabulary.empty.extend .preposition ["at", "of", "in the"]) .backward
        [" THE ", "of", "  ", "of"] = .ok m ∧
      (([["of"], [], ["  ", " THE "]].foldl ignore
        { catalog := ⟨none, [⟨[.category .preposition]⟩]⟩
          vocabulary := Vocabulary.empty.extend .preposition ["at", "of", "in the"] }).withDirection
        .backward).build = .ok m ∧
      m.grammar.lexicon.words = ["at"]) ∧
    ∃ fault,
      Matcher.build ⟨none, [⟨[.category .verb]⟩]⟩ .empty .forward [" THE ", "of", "  ", "of"] =
        .error fault ∧
      (([["of"], [], ["  ", " THE "]].foldl ignore
        { catalog := ⟨none, [⟨[.category .verb]⟩]⟩
          vocabulary := .empty }).withDirection .forward).build = .error fault := by
  have hcalls : ∀ w, w ∈ [["of"], [], ["  ", " THE "]].flatten ↔ w ∈ [" THE ", "of", "  ", "of"] := by
    intro w
    simp only [List.flatten_cons, List.flatten_nil, List.mem_append, List.mem_cons, List.not_mem_nil]
    grind
  refine ⟨⟨_, rfl, ?_, by decide +kernel⟩, _, rfl, ?_⟩
  · rw [build_foldl_ignore hcalls]
    rfl
  · rw [build_foldl_ignore hcalls]
    rfl

end Config

end Headword
