import Headword.Proofs.Grammar.Compiling
import Headword.Proofs.Grammar.Paths
import Headword.Proofs.Vocabulary

/-!
# Ignoring words

Ignored words act on whole templates and on whole entries: compiling with them is compiling without what
contains them.  Which categories may be left out is decided by all entries, those with ignored words
included.
-/

namespace Headword

/-- The catalog without the templates that contain an ignored word. -/
def Catalog.without (catalog : Catalog) (ignored : WordSet) : Catalog :=
  { catalog with templates := catalog.templates.filter fun t => !t.mentionsAny ignored }

/-- The lists without the entries that contain an ignored word. -/
def Vocabulary.without (vocabulary : Vocabulary) (ignored : WordSet) : Vocabulary :=
  vocabulary.revise fun entries => entries.filter (·.avoids ignored)

def Catalog.Uses (catalog : Catalog) (w : String) : Prop :=
  ∃ t ∈ catalog.templates, .word w ∈ t.slots

def Vocabulary.Uses (vocabulary : Vocabulary) (w : String) : Prop :=
  ∃ c, ∃ entry ∈ vocabulary.entries c, w ∈ entry

variable {catalog : Catalog} {vocabulary : Vocabulary} {direction : Direction} {ignored : WordSet}
  {g : Grammar}

theorem Template.mentionsAny_empty (t : Template) : t.mentionsAny .empty = false := by
  simp [mentionsAny]

theorem Entry.avoids_empty (entry : Entry) : entry.avoids .empty = true := by
  simp [avoids]

theorem Entry.avoids_congr {entry : Entry} {others : WordSet}
    (h : ∀ w ∈ entry, (w ∈ others ↔ w ∈ ignored)) : entry.avoids others = entry.avoids ignored := by
  rw [Bool.eq_iff_iff, avoids_iff, avoids_iff]
  exact forall₂_congr fun w hw => not_congr (h w hw)

namespace Vocabulary

theorem entries_without (vocabulary : Vocabulary) (ignored : WordSet) (c : Category) :
    (vocabulary.without ignored).entries c = (vocabulary.entries c).filter (·.avoids ignored) :=
  entries_revise vocabulary _ c rfl

/-- The empty entry contains no word at all. -/
theorem isOptional_without (vocabulary : Vocabulary) (ignored : WordSet) (c : Category) :
    (vocabulary.without ignored).isOptional c = vocabulary.isOptional c := by
  rw [Bool.eq_iff_iff, isOptional_iff, isOptional_iff, entries_without, List.mem_filter]
  exact and_iff_left rfl

theorem walkedEntries_without (vocabulary : Vocabulary) (direction : Direction) (ignored : WordSet)
    (c : Category) :
    walkedEntries ((vocabulary.without ignored).entries c) direction .empty =
      walkedEntries (vocabulary.entries c) direction ignored := by
  simp only [walkedEntries, entries_without, Entry.avoids_empty, List.filter_true]

theorem walkedEntries_congr {others : WordSet}
    (h : ∀ w, vocabulary.Uses w → (w ∈ others ↔ w ∈ ignored)) (c : Category) :
    walkedEntries (vocabulary.entries c) direction others =
      walkedEntries (vocabulary.entries c) direction ignored := by
  rw [walkedEntries, walkedEntries]
  congr 1
  apply List.filter_congr
  intro entry hentry
  exact Entry.avoids_congr fun w hw => h w ⟨c, entry, hentry, hw⟩

theorem Supplies.without (h : vocabulary.Supplies catalog) :
    (vocabulary.without ignored).Supplies (catalog.without ignored) := by
  intro t ht c hc
  rw [Vocabulary.without, declares_revise]
  exact h t (List.mem_filter.mp ht).1 c hc

end Vocabulary

namespace Catalog

theorem rows_without (catalog : Catalog) (vocabulary : Vocabulary) (direction : Direction)
    (ignored : WordSet) :
    (catalog.without ignored).rows (vocabulary.without ignored) direction .empty =
      catalog.rows vocabulary direction ignored := by
  have hoptional : (vocabulary.without ignored).isOptional = vocabulary.isOptional :=
    funext (vocabulary.isOptional_without ignored)
  simp only [rows, without, hoptional, Template.mentionsAny_empty, Bool.not_false, List.filter_true]

theorem rows_congr {others : WordSet} (h : ∀ w, catalog.Uses w → (w ∈ others ↔ w ∈ ignored)) :
    catalog.rows vocabulary direction others = catalog.rows vocabulary direction ignored := by
  rw [rows, rows]
  congr 1
  apply List.filter_congr
  intro t ht
  rw [Template.mentionsAny_congr fun w => and_congr_right fun hw => h w ⟨t, ht, hw⟩]

end Catalog

namespace Grammar

/-- Every way to leave optional categories out of a template is laid as a row. -/
theorem exists_path_of_thins (h : compile catalog vocabulary direction ignored = .ok g)
    {t : Template} (ht : t ∈ catalog.templates) (hspared : t.mentionsAny ignored = false)
    {kept : List Slot} (hkept : Thins (fun c => vocabulary.isOptional c = true) t.slots kept)
    (hne : kept ≠ []) :
    ∃ i, g.Path g.root (direction.orient kept) i ∧ (g.trie.node i).ending = .template := by
  simp only [Vocabulary.isOptional_iff] at hkept
  have hrow : catalog.StandsFor vocabulary direction ignored (direction.orient kept) :=
    ⟨t, ht, Template.mentionsAny_eq_false_iff.mp hspared, kept, hkept, hne, rfl⟩
  exact ((exact_rows h).row_paths.spells _).mp (Catalog.mem_rows_iff.mpr hrow)

/-- Compiling with ignored words gives the very grammar that arises when the templates and the entries
with these words are taken away before.  Ignored words that nothing contains change nothing, and a
category that may be left out can still be left out. -/
theorem compile_without (h : compile catalog vocabulary direction ignored = .ok g) :
    compile (catalog.without ignored) (vocabulary.without ignored) direction .empty = .ok g ∧
      (∀ others : WordSet,
        (∀ w, catalog.Uses w ∨ vocabulary.Uses w → (w ∈ others ↔ w ∈ ignored)) →
          compile catalog vocabulary direction others = .ok g) ∧
      (∀ c, (vocabulary.without ignored).declares c = vocabulary.declares c ∧
        (vocabulary.without ignored).isOptional c = vocabulary.isOptional c) ∧
      ∀ t ∈ catalog.templates, t.mentionsAny ignored = false →
        ∀ kept, Thins (fun c => vocabulary.isOptional c = true) t.slots kept → kept ≠ [] →
          ∃ i, g.Path g.root (direction.orient kept) i ∧ (g.trie.node i).ending = .template := by
  obtain ⟨hsupplies, hg⟩ := compile_eq_ok_iff.mp h
  refine ⟨?_, ?_, ?_, ?_⟩
  · apply compile_eq_ok_iff.mpr
    simp only [Catalog.rows_without, Vocabulary.walkedEntries_without]
    exact ⟨hsupplies.without, hg⟩
  · intro others hothers
    apply compile_eq_ok_iff.mpr
    rw [Catalog.rows_congr fun w hw => hothers w (.inl hw)]
    simp only [Vocabulary.walkedEntries_congr fun w hw => hothers w (.inr hw)]
    exact ⟨hsupplies, hg⟩
  · intro c
    exact ⟨vocabulary.declares_revise _ c, vocabulary.isOptional_without ignored c⟩
  · intro t ht hspared kept hkept hne
    exact exists_path_of_thins h ht hspared hkept hne

/-- With `am` and `the` ignored, the template and the entry with `am` are left out, and the verb may still
be left out of `to {verb}`. -/
theorem compile_without_am :
    ∃ g, compile ⟨none, [⟨[.word "to", .category .verb]⟩, ⟨[.word "am", .category .verb]⟩]⟩
        (Vocabulary.empty.extend .verb ["be", "am", ""]) .backward (.ofList ["am", "the"]) = .ok g ∧
      compile ⟨none, [⟨[.word "to", .category .verb]⟩]⟩ (Vocabulary.empty.extend .verb ["be", ""])
        .backward .empty = .ok g ∧
      ∃ i, g.Path g.root [.word "to"] i ∧ (g.trie.node i).ending = .template := by
  have h : ∃ g, compile ⟨none, [⟨[.word "to", .category .verb]⟩, ⟨[.word "am", .category .verb]⟩]⟩
      (Vocabulary.empty.extend .verb ["be", "am", ""]) .backward (.ofList ["am", "the"]) = .ok g :=
    ⟨_, rfl⟩
  obtain ⟨g, hg⟩ := h
  obtain ⟨hwithout, -, -, hleft⟩ := compile_without hg
  have hcatalog : Catalog.without
      ⟨none, [⟨[.word "to", .category .verb]⟩, ⟨[.word "am", .category .verb]⟩]⟩
      (.ofList ["am", "the"]) = ⟨none, [⟨[.word "to", .category .verb]⟩]⟩ := by decide +kernel
  have hvocabulary : (Vocabulary.empty.extend .verb ["be", "am", ""]).without (.ofList ["am", "the"]) =
      Vocabulary.empty.extend .verb ["be", ""] := by decide +kernel
  rw [hcatalog, hvocabulary] at hwithout
  refine ⟨g, hg, hwithout, ?_⟩
  exact hleft _ (List.mem_cons_self ..) (by decide +kernel) [.word "to"]
    (.keep (.skip (by decide +kernel) .nil)) (List.cons_ne_nil _ _)

end Grammar

end Headword
