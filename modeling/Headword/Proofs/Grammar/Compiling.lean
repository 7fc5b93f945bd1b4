import Headword.Grammar

/-!
# When a catalog compiles

A catalog compiles when every category that it asks for has a list.  The grammar then depends on its rows
and on the entries in walking order, and on nothing else.
-/

namespace Headword

/-- Every category that a template asks for has a list. -/
def Vocabulary.Supplies (vocabulary : Vocabulary) (catalog : Catalog) : Prop :=
  ∀ t ∈ catalog.templates, ∀ c, .category c ∈ t.slots → vocabulary.declares c = true

theorem Template.mem_categories_iff {t : Template} {c : Category} :
    c ∈ t.categories ↔ .category c ∈ t.slots := by
  rw [categories, List.mem_filterMap]
  constructor
  · rintro ⟨s, hs, hc⟩
    cases s with
    | word w => cases hc
    | category d =>
      cases hc
      exact hs
  · exact fun hc => ⟨_, hc, rfl⟩

theorem Catalog.missing?_eq_none_iff {catalog : Catalog} {vocabulary : Vocabulary} :
    catalog.missing? vocabulary = none ↔ vocabulary.Supplies catalog := by
  have htemplate : ∀ t : Template, t.missing? vocabulary = none ↔
      ∀ c, .category c ∈ t.slots → vocabulary.declares c = true := by
    intro t
    simp only [Template.missing?, List.find?_eq_none, Template.mem_categories_iff, Bool.not_eq_true',
      Bool.not_eq_false]
  rw [missing?, List.findSome?_eq_none_iff]
  simp only [Option.map_eq_none_iff, htemplate]
  constructor
  · intro h t ht
    -- a template that is there has a position
    obtain ⟨index, hindex⟩ := List.mem_iff_getElem?.mp ht
    exact h (t, index) (List.mk_mem_zipIdx_iff_getElem?.mpr hindex)
  · rintro h ⟨t, index⟩ hmem
    exact h t (List.mem_of_getElem? (List.mk_mem_zipIdx_iff_getElem?.mp hmem))

/-- The rows of one template, none when it contains an ignored word. -/
def Template.rows (t : Template) (vocabulary : Vocabulary) (direction : Direction) (ignored : WordSet) :
    List (List Slot) :=
  if t.mentionsAny ignored then []
  else ((t.expansions vocabulary.isOptional).filter fun row => !row.isEmpty).map direction.orient

theorem Catalog.rows_eq_flatMap (catalog : Catalog) (vocabulary : Vocabulary) (direction : Direction)
    (ignored : WordSet) :
    catalog.rows vocabulary direction ignored =
      catalog.templates.flatMap fun t => t.rows vocabulary direction ignored := by
  rw [rows]
  induction catalog.templates with
  | nil => rfl
  | cons t ts ih =>
    rw [List.filter_cons, List.flatMap_cons, ← ih, Template.rows]
    cases t.mentionsAny ignored <;> simp

theorem Grammar.compile_eq_ok_iff {catalog : Catalog} {vocabulary : Vocabulary}
    {direction : Direction} {ignored : WordSet} {g : Grammar} :
    compile catalog vocabulary direction ignored = .ok g ↔
      vocabulary.Supplies catalog ∧
        g = ofRows direction (fun c => walkedEntries (vocabulary.entries c) direction ignored)
          (catalog.rows vocabulary direction ignored) := by
  rw [← Catalog.missing?_eq_none_iff]
  unfold compile
  cases catalog.missing? vocabulary with
  | some place => simp
  | none => simp [eq_comm]

/-- Success does not depend on the direction or on the ignored words. -/
theorem Grammar.exists_compile_eq_ok_iff {catalog : Catalog} {vocabulary : Vocabulary}
    {direction : Direction} {ignored : WordSet} :
    (∃ g, compile catalog vocabulary direction ignored = .ok g) ↔ vocabulary.Supplies catalog := by
  simp only [compile_eq_ok_iff, exists_and_left, exists_eq, and_true]

end Headword
