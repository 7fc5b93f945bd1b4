import Headword.Proofs.Grammar.Comparing
import Headword.Proofs.Matcher.Matches

/-!
# Reordered data

The order of templates and of entries decides how nodes and words are numbered, and nothing else.  Data
that are the same as sets compile to grammars that are alike, and their matchers split every phrase at
the same place.
-/

namespace Headword

/-- The same templates, in any order and any number. -/
def Catalog.SameTemplates (catalog catalog' : Catalog) : Prop :=
  ∀ t, t ∈ catalog.templates ↔ t ∈ catalog'.templates

/-- Lists for the same categories, with the same entries in any order and any number. -/
structure Vocabulary.SameEntries (vocabulary vocabulary' : Vocabulary) : Prop where
  declares_eq : ∀ c, vocabulary.declares c = vocabulary'.declares c
  mem_iff : ∀ c entry, entry ∈ vocabulary.entries c ↔ entry ∈ vocabulary'.entries c

instance (catalog catalog' : Catalog) : Decidable (catalog.SameTemplates catalog') :=
  decidable_of_iff (catalog.templates ⊆ catalog'.templates ∧ catalog'.templates ⊆ catalog.templates)
    ⟨fun h _ => ⟨fun ht => h.1 ht, fun ht => h.2 ht⟩, fun h => ⟨fun t => (h t).mp, fun t => (h t).mpr⟩⟩

instance (vocabulary vocabulary' : Vocabulary) : Decidable (vocabulary.SameEntries vocabulary') :=
  decidable_of_iff
    (∀ c ∈ Category.all, vocabulary.declares c = vocabulary'.declares c ∧
      vocabulary.entries c ⊆ vocabulary'.entries c ∧ vocabulary'.entries c ⊆ vocabulary.entries c)
    ⟨fun h => ⟨fun c => (h c c.mem_all).1,
        fun c _ => ⟨fun he => (h c c.mem_all).2.1 he, fun he => (h c c.mem_all).2.2 he⟩⟩,
      fun h c _ => ⟨h.declares_eq c, fun e => (h.mem_iff c e).mp, fun e => (h.mem_iff c e).mpr⟩⟩

variable {catalog catalog' : Catalog} {vocabulary vocabulary' : Vocabulary} {direction : Direction}
  {ignored : WordSet}

namespace Vocabulary.SameEntries

theorem supplies_iff (hv : vocabulary.SameEntries vocabulary') (hc : catalog.SameTemplates catalog') :
    vocabulary.Supplies catalog ↔ vocabulary'.Supplies catalog' := by
  simp only [Supplies, hc _, hv.declares_eq]

theorem offers_iff (hv : vocabulary.SameEntries vocabulary') (c : Category) (ws : List String) :
    vocabulary.Offers direction ignored c ws ↔ vocabulary'.Offers direction ignored c ws := by
  simp only [Offers, hv.mem_iff]

theorem standsFor_iff (hv : vocabulary.SameEntries vocabulary') (hc : catalog.SameTemplates catalog')
    (row : List Slot) :
    catalog.StandsFor vocabulary direction ignored row ↔
      catalog'.StandsFor vocabulary' direction ignored row := by
  simp only [Catalog.StandsFor, hc _, hv.mem_iff]

end Vocabulary.SameEntries

/-- A split shows nothing of how a grammar numbers its nodes and words. -/
theorem Grammar.Alike.split_eq {m m' : Matcher} (h : m.grammar.Alike m'.grammar)
    (hdirection : m.direction = m'.direction) (text : String) : m.split text = m'.split text := by
  have hphrase : m.phrase text = m'.phrase text := by
    have hknows : m.knows = m'.knows := funext h.knows_eq
    rw [Matcher.phrase, Matcher.phrase, hknows]
  have hlength : ∀ p, m.matchLength? p = m'.matchLength? p := by
    intro p
    rw [Matcher.matchLength?, Matcher.matchLength?, Matcher.tokens, Matcher.tokens, hdirection,
      Direction.orient_map, Direction.orient_map]
    exact h.longestMatch?_eq _
  have hparts : m.parts = m'.parts := by
    funext p n
    rw [Matcher.parts, Matcher.parts, hdirection]
  rw [Matcher.split, Matcher.split, hphrase, hlength, hparts]

/-- Order and repetition of templates and entries do not matter: both catalogs compile or neither does,
and then nothing but the numbers of nodes and words tells the grammars and their matchers apart. -/
theorem alike_of_same_data (hc : catalog.SameTemplates catalog')
    (hv : vocabulary.SameEntries vocabulary') (direction : Direction) :
    (∀ ignored : WordSet,
      ((∃ g, Grammar.compile catalog vocabulary direction ignored = .ok g) ↔
        ∃ g', Grammar.compile catalog' vocabulary' direction ignored = .ok g') ∧
      ∀ g g', Grammar.compile catalog vocabulary direction ignored = .ok g →
        Grammar.compile catalog' vocabulary' direction ignored = .ok g' → g.Alike g') ∧
    ∀ ignored ignored' : List String, ignoredWords ignored = ignoredWords ignored' →
      ((∃ m, Matcher.build catalog vocabulary direction ignored = .ok m) ↔
        ∃ m', Matcher.build catalog' vocabulary' direction ignored' = .ok m') ∧
      ∀ m m', Matcher.build catalog vocabulary direction ignored = .ok m →
        Matcher.build catalog' vocabulary' direction ignored' = .ok m' →
          ∀ text, m.split text = m'.split text := by
  have halike : ∀ (ignored : WordSet) (g g' : Grammar),
      Grammar.compile catalog vocabulary direction ignored = .ok g →
        Grammar.compile catalog' vocabulary' direction ignored = .ok g' → g.Alike g' :=
    fun ignored g g' h h' => Grammar.alike_of_compile_eq_ok h h' (hv.standsFor_iff hc) hv.offers_iff
  constructor
  · intro ignored
    refine ⟨?_, halike ignored⟩
    rw [Grammar.exists_compile_eq_ok_iff, Grammar.exists_compile_eq_ok_iff, hv.supplies_iff hc]
  · intro ignored ignored' hsame
    constructor
    · rw [Matcher.exists_build_eq_ok_iff, Matcher.exists_build_eq_ok_iff, hv.supplies_iff hc]
    · intro m m' h h' text
      have hg := Matcher.compile_of_build_eq_ok h
      have hg' := Matcher.compile_of_build_eq_ok h'
      rw [← hsame] at hg'
      apply (halike _ _ _ hg hg').split_eq
      rw [Matcher.direction_of_build_eq_ok h, Matcher.direction_of_build_eq_ok h']

/-- Two ways to write down the same data, one of them with a template twice and the other with an entry
twice.  The grammars number their words differently. -/
theorem alike_of_same_data_look_at :
    ∃ m m',
      Matcher.build ⟨none, [⟨[.word "look", .category .preposition]⟩, ⟨[.category .article]⟩,
          ⟨[.word "look", .category .preposition]⟩]⟩
        ((Vocabulary.empty.extend .preposition ["at", "in front of", ""]).extend .article ["the", "a"])
        .backward ["A "] = .ok m ∧
      Matcher.build ⟨none, [⟨[.category .article]⟩, ⟨[.word "look", .category .preposition]⟩]⟩
        ((Vocabulary.empty.extend .article ["a", "the", "a"]).extend .preposition
          ["", "in front of", "at"])
        .backward ["a", ""] = .ok m' ∧
      m.grammar.lexicon.words = ["at", "of", "front", "in", "look", "the"] ∧
      m'.grammar.lexicon.words = ["the", "of", "front", "in", "at", "look"] ∧
      ∀ text, m.split text = m'.split text := by
  have hc : Catalog.SameTemplates
      ⟨none, [⟨[.word "look", .category .preposition]⟩, ⟨[.category .article]⟩,
        ⟨[.word "look", .category .preposition]⟩]⟩
      ⟨none, [⟨[.category .article]⟩, ⟨[.word "look", .category .preposition]⟩]⟩ := by decide +kernel
  have hv : Vocabulary.SameEntries
      ((Vocabulary.empty.extend .preposition ["at", "in front of", ""]).extend .article ["the", "a"])
      ((Vocabulary.empty.extend .article ["a", "the", "a"]).extend .preposition
        ["", "in front of", "at"]) := by decide +kernel
  have hignored : ignoredWords ["A "] = ignoredWords ["a", ""] := by decide +kernel
  have hsplits := ((alike_of_same_data hc hv .backward).2 _ _ hignored).2
  exact ⟨_, _, rfl, rfl, by decide +kernel, by decide +kernel, hsplits _ _ rfl rfl⟩

end Headword
