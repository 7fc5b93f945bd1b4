import Headword.Proofs.Grammar.Failing
import Headword.Proofs.Trimmer.Ignored

/-!
# Trimmers that cannot be built

A trimmer cannot be built when one of its catalogs does not compile, and the fault of the leading catalog
comes first.
-/

namespace Headword

theorem Matcher.build_eq_error_iff {catalog : Catalog} {vocabulary : Vocabulary}
    {direction : Direction} {ignored : List String} {fault : Fault} :
    build catalog vocabulary direction ignored = .error fault ↔ catalog.FailsWith vocabulary fault := by
  rw [build, map_eq_error_iff, Grammar.compile_eq_error_iff_failsWith]

/-- The trailing catalog is compiled only when the leading one has compiled. -/
theorem Trimmer.build_eq_error_iff {leading trailing : Catalog} {vocabulary : Vocabulary}
    {ignored : List String} {fault : Fault} :
    build leading trailing vocabulary ignored = .error fault ↔
      leading.FailsWith vocabulary fault ∨
        (vocabulary.Supplies leading ∧ trailing.FailsWith vocabulary fault) := by
  have hleading : Matcher.build leading vocabulary .forward ignored = .error fault ↔
      leading.FailsWith vocabulary fault := Matcher.build_eq_error_iff
  have htrailing : Matcher.build trailing vocabulary .backward ignored = .error fault ↔
      trailing.FailsWith vocabulary fault := Matcher.build_eq_error_iff
  have hsupplies : (∃ l, Matcher.build leading vocabulary .forward ignored = .ok l) ↔
      vocabulary.Supplies leading := Matcher.exists_build_eq_ok_iff
  rw [← hleading, ← htrailing, ← hsupplies]
  unfold build
  split
  next f hl => simp [hl]
  next l hl =>
    split
    next f ht => simp [hl, ht]
    next r ht => simp [hl, ht]

/-- A catalog fails to compile when one of its templates asks for a category without a list, even if the
template is then left out, and with the first such category.  Neither the direction nor the ignored words
matter, and an empty list is a list.  A trimmer fails with its leading catalog first, and the English
trimmer never does. -/
theorem compiling_fails_exactly :
    (∀ (catalog : Catalog) (vocabulary : Vocabulary) (direction : Direction) (ignored : WordSet),
      Grammar.compile catalog vocabulary direction ignored =
        Grammar.compileInTurn catalog vocabulary direction ignored ∧
      ((∃ fault, Grammar.compile catalog vocabulary direction ignored = .error fault) ↔
        ∃ t ∈ catalog.templates, ∃ c, .category c ∈ t.slots ∧ vocabulary.entries? c = none) ∧
      (∀ fault, Grammar.compile catalog vocabulary direction ignored = .error fault ↔
        catalog.FailsWith vocabulary fault) ∧
      (∀ direction' ignored',
        ((∃ g, Grammar.compile catalog vocabulary direction ignored = .ok g) ↔
          ∃ g, Grammar.compile catalog vocabulary direction' ignored' = .ok g) ∧
        ∀ fault, Grammar.compile catalog vocabulary direction ignored = .error fault ↔
          Grammar.compile catalog vocabulary direction' ignored' = .error fault) ∧
      ∀ c entries place, vocabulary.entries? c = some entries →
        Grammar.compile catalog vocabulary direction ignored ≠ .error ⟨.missingCategory c, place⟩) ∧
    (∀ leading trailing vocabulary ignored fault,
      Trimmer.build leading trailing vocabulary ignored = .error fault ↔
        leading.FailsWith vocabulary fault ∨
          (vocabulary.Supplies leading ∧ trailing.FailsWith vocabulary fault)) ∧
    ∀ ignored, ∃ t, English.trimmer ignored = .ok t := by
  refine ⟨?_, fun _ _ _ _ _ => Trimmer.build_eq_error_iff, ?_⟩
  · intro catalog vocabulary direction ignored
    have herror : ∀ d i fault, Grammar.compile catalog vocabulary d i = .error fault ↔
        catalog.FailsWith vocabulary fault := fun _ _ _ => Grammar.compile_eq_error_iff_failsWith
    have hok : ∀ d i, (∃ g, Grammar.compile catalog vocabulary d i = .ok g) ↔
        vocabulary.Supplies catalog := fun _ _ => Grammar.exists_compile_eq_ok_iff
    refine ⟨Grammar.compile_eq_compileInTurn .., ?_, herror _ _, ?_, ?_⟩
    · simp only [herror, Catalog.exists_failsWith_iff]
    · intro direction' ignored'
      exact ⟨by rw [hok, hok], fun fault => by rw [herror, herror]⟩
    · intro c entries place hentries hfault
      rw [herror] at hfault
      rw [hfault.entries?_eq_none] at hentries
      cases hentries
  · intro ignored
    obtain ⟨-, -, t, ht, -⟩ := English.exists_trimmer ignored
    exact ⟨t, ht⟩

/-- The second template is left out for its ignored word, but not before its categories are looked up;
the list of verbs is empty. -/
theorem compiling_fails_exactly_am :
    (Vocabulary.empty.extend .verb []).entries? .verb = some [] ∧
      Grammar.compile ⟨some "forms", [⟨[.category .verb]⟩, ⟨[.word "am", .category .pronoun]⟩]⟩
        (Vocabulary.empty.extend .verb []) .backward (.ofList ["am"]) =
          .error ⟨.missingCategory .pronoun, some ⟨some "forms", some 1⟩⟩ ∧
      Grammar.compile ⟨some "forms", [⟨[.category .verb]⟩, ⟨[.word "am", .category .pronoun]⟩]⟩
        (Vocabulary.empty.extend .verb []) .backward (.ofList ["am"]) ≠
          .error ⟨.missingCategory .verb, some ⟨some "forms", some 0⟩⟩ :=
  ⟨rfl, rfl, (compiling_fails_exactly.1 _ _ _ _).2.2.2.2 .verb [] _ rfl⟩

end Headword
