import Headword.Proofs.Grammar.Knows
import Headword.Proofs.Grammar.Paths

/-!
# Comparing grammars

Grammars that stand for the same rows and offer the same entries are alike: they have as many nodes, know
the same words and match the same runs of words, in whatever order their nodes and words were numbered.
-/

namespace Headword

namespace Grammar

/-- Nothing but the numbers of nodes and words tells the grammars apart. -/
structure Alike (g g' : Grammar) : Prop where
  size_eq : g.size = g'.size
  knows_eq : ∀ w, g.knows w = g'.knows w
  longestMatch?_eq : ∀ ws : List String,
    g.longestMatch? (ws.map g.lexicon.id?) = g'.longestMatch? (ws.map g'.lexicon.id?)

/-- What a grammar spells determines the number of its nodes. -/
theorem Exact.size_unique {g g' : Grammar} {rows : List Slot → Prop}
    {offers : Category → List String → Prop} {asked : Category → Prop} (h : g.Exact rows offers asked)
    (h' : g'.Exact rows offers asked) : g.size = g'.size := by
  have hroots : ∀ c, (g.categoryRoots.get c).isSome = true ↔ (g'.categoryRoots.get c).isSome = true := by
    intro c
    rw [Option.isSome_iff_exists, Option.isSome_iff_exists, h.category_iff, h'.category_iff]
  have hsizes : (g.size : ℕ∞) = g'.size := by
    rw [h.size_eq, h'.size_eq]
    simp only [hroots]
  exact Nat.cast_inj.mp hsizes

variable {catalog catalog' : Catalog} {vocabulary vocabulary' : Vocabulary}
  {direction direction' : Direction} {ignored ignored' : WordSet} {g g' : Grammar}

/-- Grammars that number the same words in the same way match the same tokens.  Whether a category has an
empty entry makes no difference here. -/
theorem longestMatch?_eq_of_lexicon_eq (h : compile catalog vocabulary direction ignored = .ok g)
    (h' : compile catalog' vocabulary' direction' ignored' = .ok g') (hlexicon : g.lexicon = g'.lexicon)
    (hrows : ∀ row, catalog.StandsFor vocabulary direction ignored row ↔
      catalog'.StandsFor vocabulary' direction' ignored' row)
    (hoffers : ∀ c e, e ≠ [] → (vocabulary.Offers direction ignored c e ↔
      vocabulary'.Offers direction' ignored' c e))
    (tokens : List (Option WordId)) : g.longestMatch? tokens = g'.longestMatch? tokens := by
  apply (isLongest_longestMatch? h tokens).unique
  apply (isLongest_longestMatch? h' tokens).congr
  intro n
  simp only [MatchesFirst, Spells, hlexicon, IsMatch.congr hrows hoffers]

theorem alike_of_compile_eq_ok (h : compile catalog vocabulary direction ignored = .ok g)
    (h' : compile catalog' vocabulary' direction' ignored' = .ok g')
    (hrows : ∀ row, catalog.StandsFor vocabulary direction ignored row ↔
      catalog'.StandsFor vocabulary' direction' ignored' row)
    (hoffers : ∀ c ws, vocabulary.Offers direction ignored c ws ↔
      vocabulary'.Offers direction' ignored' c ws) : g.Alike g' := by
  have hrows' : catalog'.StandsFor vocabulary' direction' ignored' =
      catalog.StandsFor vocabulary direction ignored := funext fun row => propext (hrows row).symm
  have hoffers' : vocabulary'.Offers direction' ignored' = vocabulary.Offers direction ignored :=
    funext fun c => funext fun ws => propext (hoffers c ws).symm
  constructor
  case size_eq =>
    have hexact := exact_rows h
    have hexact' := exact_rows h'
    simp only [Catalog.mem_rows_iff, mem_walkedEntries_iff] at hexact hexact'
    rw [hrows', hoffers'] at hexact'
    exact hexact.size_unique hexact'
  case knows_eq =>
    intro w
    rw [Bool.eq_iff_iff, knows_eq_true_iff, knows_eq_true_iff, mem_words_iff_of_compile_eq_ok h,
      mem_words_iff_of_compile_eq_ok h', hrows', hoffers']
  case longestMatch?_eq =>
    intro ws
    have hlongest := isLongest_longestMatch?_map_id? h' ws
    rw [hrows', hoffers'] at hlongest
    exact (isLongest_longestMatch?_map_id? h ws).unique hlongest

end Grammar

end Headword
