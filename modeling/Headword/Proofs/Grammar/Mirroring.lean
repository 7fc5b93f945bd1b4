import Headword.Proofs.Grammar.Comparing
import Headword.Proofs.Grammar.Compiling
import Headword.Proofs.Vocabulary

/-!
# Matching in the mirror

A catalog compiled for walking backward is like the mirrored catalog compiled for walking forward: rows
and entries are the same ones in walking order.
-/

namespace Headword

def Template.mirrored (t : Template) : Template :=
  ⟨t.slots.reverse⟩

/-- The catalog with the slots of each template in reverse order. -/
def Catalog.mirrored (catalog : Catalog) : Catalog :=
  { catalog with templates := catalog.templates.map Template.mirrored }

/-- The lists with the words of each entry in reverse order. -/
def Vocabulary.mirrored (vocabulary : Vocabulary) : Vocabulary :=
  vocabulary.revise fun entries => entries.map List.reverse

namespace Thins

variable {optional : Category → Prop} {row row' kept kept' : List Slot}

theorem append (h : Thins optional row kept) (h' : Thins optional row' kept') :
    Thins optional (row ++ row') (kept ++ kept') := by
  induction h with
  | nil => exact h'
  | keep _ ih => exact .keep ih
  | skip hc _ ih => exact .skip hc ih

theorem reverse (h : Thins optional row kept) : Thins optional row.reverse kept.reverse := by
  induction h with
  | nil => exact .nil
  | keep _ ih =>
    rw [List.reverse_cons, List.reverse_cons]
    exact ih.append (.keep .nil)
  | skip hc _ ih =>
    have hskip := ih.append (.skip hc .nil)
    rwa [List.append_nil, ← List.reverse_cons] at hskip

end Thins

variable {catalog : Catalog} {vocabulary : Vocabulary} {ignored : WordSet}

namespace Vocabulary

theorem mem_entries_mirrored {c : Category} {entry : Entry} :
    entry ∈ vocabulary.mirrored.entries c ↔ entry.reverse ∈ vocabulary.entries c := by
  rw [mirrored, entries_revise _ _ _ rfl, List.mem_map_of_involutive List.reverse_involutive]

theorem supplies_mirrored_iff :
    vocabulary.mirrored.Supplies catalog.mirrored ↔ vocabulary.Supplies catalog := by
  simp only [Supplies, mirrored, declares_revise, Catalog.mirrored, List.forall_mem_map,
    Template.mirrored, List.mem_reverse]

theorem offers_mirrored_iff {c : Category} {ws : List String} :
    vocabulary.mirrored.Offers .forward ignored c ws ↔ vocabulary.Offers .backward ignored c ws := by
  constructor
  · rintro ⟨entry, hentry, havoids, hws⟩
    obtain rfl : ws = entry := hws
    refine ⟨ws.reverse, mem_entries_mirrored.mp hentry, ?_, by simp⟩
    exact fun w hw => havoids w (List.mem_reverse.mp hw)
  · rintro ⟨entry, hentry, havoids, rfl⟩
    refine ⟨entry.reverse, mem_entries_mirrored.mpr (by simpa using hentry), ?_, rfl⟩
    exact fun w hw => havoids w (List.mem_reverse.mp hw)

end Vocabulary

/-- A row walked backward is a row of the mirrored template. -/
theorem Catalog.standsFor_mirrored_iff {row : List Slot} :
    catalog.mirrored.StandsFor vocabulary.mirrored .forward ignored row ↔
      catalog.StandsFor vocabulary .backward ignored row := by
  have hoptional : (fun c => [] ∈ vocabulary.mirrored.entries c) = fun c => [] ∈ vocabulary.entries c :=
    funext fun c => propext Vocabulary.mem_entries_mirrored
  rw [StandsFor, hoptional]
  constructor
  · rintro ⟨t', ht', hspared, kept, hthins, hne, hrow⟩
    obtain ⟨t, ht, rfl⟩ := List.mem_map.mp ht'
    obtain rfl : row = kept := hrow
    have hreverse : Thins (fun c => [] ∈ vocabulary.entries c) t.slots row.reverse := by
      simpa [Template.mirrored] using hthins.reverse
    exact ⟨t, ht, fun w hw => hspared w (List.mem_reverse.mpr hw), row.reverse, hreverse,
      by simpa using hne, by simp⟩
  · rintro ⟨t, ht, hspared, kept, hthins, hne, rfl⟩
    exact ⟨t.mirrored, List.mem_map_of_mem ht, fun w hw => hspared w (List.mem_reverse.mp hw),
      kept.reverse, hthins.reverse, by simpa using hne, rfl⟩

namespace Grammar

/-- A catalog compiles backward just when the mirrored catalog compiles forward with the mirrored lists,
and then the grammars are alike. -/
theorem alike_mirrored (catalog : Catalog) (vocabulary : Vocabulary) (ignored : WordSet) :
    ((∃ g, compile catalog vocabulary .backward ignored = .ok g) ↔
        ∃ g', compile catalog.mirrored vocabulary.mirrored .forward ignored = .ok g') ∧
      ∀ g g', compile catalog vocabulary .backward ignored = .ok g →
        compile catalog.mirrored vocabulary.mirrored .forward ignored = .ok g' → g.Alike g' := by
  constructor
  · rw [exists_compile_eq_ok_iff, exists_compile_eq_ok_iff, Vocabulary.supplies_mirrored_iff]
  · intro g g' h h'
    exact alike_of_compile_eq_ok h h' (fun row => Catalog.standsFor_mirrored_iff.symm)
      fun c ws => Vocabulary.offers_mirrored_iff.symm

/-- The template `look {prep} {art}` walked backward, and `{art} {prep} look` walked forward with `of front in`
for `in front of`. -/
theorem alike_mirrored_look :
    ∃ g g', compile ⟨none, [⟨[.word "look", .category .preposition, .category .article]⟩]⟩
        ((Vocabulary.empty.extend .preposition ["at", "in front of", ""]).extend .article ["the", "a"])
        .backward (.ofList ["a"]) = .ok g ∧
      compile ⟨none, [⟨[.category .article, .category .preposition, .word "look"]⟩]⟩
        ((Vocabulary.empty.extend .preposition ["at", "of front in", ""]).extend .article ["the", "a"])
        .forward (.ofList ["a"]) = .ok g' ∧
      g.Alike g' := by
  obtain ⟨hsucceeds, halike⟩ := alike_mirrored
    ⟨none, [⟨[.word "look", .category .preposition, .category .article]⟩]⟩
    ((Vocabulary.empty.extend .preposition ["at", "in front of", ""]).extend .article ["the", "a"])
    (.ofList ["a"])
  have h : ∃ g, compile ⟨none, [⟨[.word "look", .category .preposition, .category .article]⟩]⟩
      ((Vocabulary.empty.extend .preposition ["at", "in front of", ""]).extend .article ["the", "a"])
      .backward (.ofList ["a"]) = .ok g := ⟨_, rfl⟩
  obtain ⟨g', hg'⟩ := hsucceeds.mp h
  obtain ⟨g, hg⟩ := h
  have hsame := halike g g' hg hg'
  have hvocabulary : Vocabulary.mirrored
      ((Vocabulary.empty.extend .preposition ["at", "in front of", ""]).extend .article ["the", "a"]) =
      (Vocabulary.empty.extend .preposition ["at", "of front in", ""]).extend .article ["the", "a"] := by
    decide +kernel
  rw [hvocabulary] at hg'
  exact ⟨g, g', hg, hg', hsame⟩

end Grammar

end Headword
