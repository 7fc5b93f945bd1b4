import Headword.Proofs.Grammar.Knows
import Headword.Proofs.Grammar.Paths

/-!
# Which words a grammar knows

A grammar knows a word for one of two reasons: a template has it, or a template asks for a category that
has an entry with it.  Templates and entries with ignored words are no reason.  The words known are those
that edges of the trie pass.
-/

namespace Headword

/-- A template without ignored words has the word, or asks for a category with an entry that has the word
and no ignored one. -/
def Catalog.Mentions (catalog : Catalog) (vocabulary : Vocabulary) (ignored : WordSet) (w : String) :
    Prop :=
  ∃ t ∈ catalog.templates, (∀ v, .word v ∈ t.slots → v ∉ ignored) ∧
    (.word w ∈ t.slots ∨
      ∃ c, .category c ∈ t.slots ∧
        ∃ entry ∈ vocabulary.entries c, w ∈ entry ∧ ∀ v ∈ entry, v ∉ ignored)

variable {catalog : Catalog} {vocabulary : Vocabulary} {direction : Direction} {ignored : WordSet}
  {w : String}

/-- A word is in an offered entry just when it is in the entry in reading order. -/
theorem Vocabulary.exists_offers_iff {c : Category} :
    (∃ e, vocabulary.Offers direction ignored c e ∧ w ∈ e) ↔
      ∃ entry ∈ vocabulary.entries c, w ∈ entry ∧ ∀ v ∈ entry, v ∉ ignored := by
  constructor
  · rintro ⟨_, ⟨entry, hentry, havoids, rfl⟩, hw⟩
    exact ⟨entry, hentry, Direction.mem_orient.mp hw, havoids⟩
  · rintro ⟨entry, hentry, hw, havoids⟩
    exact ⟨_, ⟨entry, hentry, havoids, rfl⟩, Direction.mem_orient.mpr hw⟩

/-- A template mentions what its rows do, since it is itself, in walking order, one of them. -/
theorem Catalog.mentions_iff_exists_row (direction : Direction) :
    catalog.Mentions vocabulary ignored w ↔
      ∃ row, catalog.StandsFor vocabulary direction ignored row ∧
        (.word w ∈ row ∨
          ∃ c, .category c ∈ row ∧ ∃ e, vocabulary.Offers direction ignored c e ∧ w ∈ e) := by
  simp only [Vocabulary.exists_offers_iff, Mentions]
  constructor
  · rintro ⟨t, ht, hspared, hmentions⟩
    have hne : t.slots ≠ [] := by
      rcases hmentions with hw | ⟨c, hc, -⟩
      · exact List.ne_nil_of_mem hw
      · exact List.ne_nil_of_mem hc
    refine ⟨direction.orient t.slots, ⟨t, ht, hspared, _, .refl _ _, hne, rfl⟩, ?_⟩
    simpa only [Direction.mem_orient] using hmentions
  · rintro ⟨_, ⟨t, ht, hspared, kept, hthins, -, rfl⟩, hmentions⟩
    simp only [Direction.mem_orient] at hmentions
    refine ⟨t, ht, hspared, hmentions.imp (fun hw => hthins.subset hw) ?_⟩
    rintro ⟨c, hc, hentry⟩
    exact ⟨c, hthins.subset hc, hentry⟩

namespace Grammar

variable {g : Grammar} {chart : Chart}

theorem Realizes.exists_word_of_hasEdge (h : g.Realizes chart) {i j : NodeId} {id : WordId}
    (he : g.trie.HasEdge i (.word id) j) : ∃ w, g.lexicon.word? id = some w := by
  obtain ⟨-, x, ⟨w, hw, -⟩, -, -⟩ := h.ends_of_hasEdge he
  exact ⟨w, hw⟩

/-- A word has a number just when an edge passes it. -/
theorem Realizes.mem_words_iff_hasEdge (h : g.Realizes chart) :
    w ∈ g.lexicon.words ↔
      ∃ i id j, g.lexicon.word? id = some w ∧ g.trie.HasEdge i (.word id) j := by
  constructor
  · intro hw
    -- the word has a number since a place of the layout is reached by it
    obtain ⟨a, ha⟩ := h.mem_words_iff.mp hw
    obtain ⟨j, hj⟩ := Chart.mem_places_iff.mp ha
    obtain ⟨i, -, hi⟩ := h.trie.parent hj
    obtain ⟨l, hl, he⟩ := h.trie.exists_edge hi hj
    cases l with
    | category c => cases hl
    | word id =>
      obtain ⟨v, hv, hvw⟩ := hl
      cases hvw
      exact ⟨i, id, j, hv, he⟩
  · rintro ⟨i, id, j, hw, -⟩
    exact List.mem_of_getElem? hw

theorem knows_iff_mentions (h : compile catalog vocabulary direction ignored = .ok g) :
    g.knows w = true ↔ catalog.Mentions vocabulary ignored w := by
  rw [knows_eq_true_iff, mem_words_iff_of_compile_eq_ok h, Catalog.mentions_iff_exists_row direction]

/-- What a grammar knows is decided by the templates, the entries and the ignored words.  The direction
does not matter, ignored words are never known, and the same templates decide which categories have a
subtree.  There is no word in the lexicon that no edge passes, and no edge for a word that is not in the
lexicon. -/
theorem knows_exactly (h : compile catalog vocabulary direction ignored = .ok g) :
    (∀ w, g.knows w = true ↔ catalog.Mentions vocabulary ignored w) ∧
      (∀ direction' g', compile catalog vocabulary direction' ignored = .ok g' →
        ∀ w, g'.knows w = g.knows w) ∧
      (∀ w ∈ ignored, g.knows w = false) ∧
      (∀ c, (g.categoryRoots.get c).isSome = true ↔ catalog.AsksFor ignored c) ∧
      (∀ w, g.knows w = true ↔
        ∃ i id j, g.lexicon.word? id = some w ∧ g.trie.HasEdge i (.word id) j) ∧
      ∀ i id j, g.trie.HasEdge i (.word id) j → ∃ w, g.lexicon.word? id = some w := by
  obtain ⟨chart, hg, -⟩ := exists_layout_of_compile_eq_ok h
  refine ⟨fun w => knows_iff_mentions h, ?_, ?_, ?_, ?_, ?_⟩
  · intro direction' g' h' w
    rw [Bool.eq_iff_iff, knows_iff_mentions h, knows_iff_mentions h']
  · intro w hw
    rw [← Bool.not_eq_true, knows_eq_true_iff]
    exact fun hknown => not_mem_ignored_of_mem_words h hknown hw
  · intro c
    rw [Option.isSome_iff_exists]
    exact ((exact_rows h).category_iff c).trans Catalog.exists_row_iff_asksFor
  · intro w
    rw [knows_eq_true_iff]
    exact hg.mem_words_iff_hasEdge
  · exact fun i id j he => hg.exists_word_of_hasEdge he

/-- With `am` ignored, `up` is still known from an entry, and the subtree of verbs is laid for the
template that is left. -/
theorem knows_exactly_to_give_up :
    ∃ g, compile ⟨none, [⟨[.word "to", .category .verb]⟩, ⟨[.word "am", .word "to"]⟩]⟩
        (Vocabulary.empty.extend .verb ["give up", "am to be"]) .backward (.ofList ["am"]) = .ok g ∧
      g.knows "up" = true ∧ g.knows "am" = false ∧ (g.categoryRoots.get .verb).isSome = true := by
  have h : ∃ g, compile ⟨none, [⟨[.word "to", .category .verb]⟩, ⟨[.word "am", .word "to"]⟩]⟩
      (Vocabulary.empty.extend .verb ["give up", "am to be"]) .backward (.ofList ["am"]) = .ok g :=
    ⟨_, rfl⟩
  obtain ⟨g, hg⟩ := h
  obtain ⟨hknows, -, hignored, hroots, -⟩ := knows_exactly hg
  have hspared : ∀ v, Slot.word v ∈ [Slot.word "to", .category .verb] → v ∉ WordSet.ofList ["am"] := by
    intro v hv
    obtain rfl : v = "to" := by simpa using hv
    decide +kernel
  refine ⟨g, hg, (hknows "up").mpr ?_, hignored "am" (by decide +kernel), (hroots .verb).mpr ?_⟩
  · exact ⟨_, List.mem_cons_self .., hspared, .inr ⟨.verb, by simp, ["give", "up"], by decide +kernel,
      by simp, by decide +kernel⟩⟩
  · exact ⟨_, List.mem_cons_self .., hspared, by simp⟩

end Grammar

end Headword
