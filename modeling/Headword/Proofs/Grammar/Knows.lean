import Headword.Proofs.Grammar.LongestMatch

/-!
# The words of a grammar

A grammar knows the words of its rows and of the entries of their categories, and no others.  Matches
consist of such words, so the longest one can be stated for words instead of their numbers.
-/

namespace Headword

namespace Grammar

variable {entries : Category → List (List String)} {g : Grammar} {chart : Chart}
  {laid ended : List Slot → Prop} {used : Category → Prop} {w : String}

/-- A word is known when it leads to a node. -/
theorem Realizes.mem_words_iff (h : g.Realizes chart) :
    w ∈ g.lexicon.words ↔ ∃ a : Address, a.next (.word w) ∈ chart.places := by
  constructor
  · intro hw
    -- no word of a whole grammar was given without an edge
    have hgiven : w ∉ chart.given := by
      rw [h.given_eq]
      exact List.not_mem_nil
    exact (h.trie.labelled w hw).resolve_left hgiven
  · rintro ⟨a, ha⟩
    obtain ⟨j, hj⟩ := Chart.mem_places_iff.mp ha
    obtain ⟨i, -, hi⟩ := h.trie.parent hj
    have hnext := (h.trie.next (h.base_le i)).mpr ⟨a, hi, hj⟩
    obtain ⟨id, hid, -⟩ := WordTrie.next?_word_eq_some_iff.mp hnext
    exact List.mem_of_getElem? hid

theorem Realizes.mem_words_iff_of_holds (h : g.Realizes chart)
    (hh : chart.Holds entries laid ended used) :
    w ∈ g.lexicon.words ↔
      (∃ row, laid row ∧ .word w ∈ row) ∨ ∃ c, used c ∧ ∃ e ∈ entries c, w ∈ e := by
  rw [h.mem_words_iff]
  constructor
  · rintro ⟨⟨home, p⟩, ha⟩
    -- the address is a beginning of a row or of an entry, and the word its last slot
    change (⟨home, p ++ [.word w]⟩ : Address) ∈ chart.places at ha
    have hlast : Slot.word w ∈ p ++ [.word w] := List.mem_append_right p (List.mem_singleton_self _)
    cases home with
    | none =>
      obtain ⟨row, hrow, hpre⟩ := ((hh.rows _).mp ha).resolve_left (by simp)
      exact .inl ⟨row, hrow, hpre.subset hlast⟩
    | some c =>
      obtain ⟨hused, hp⟩ := (hh.subtrees c _).mp ha
      obtain ⟨e, he, hpre⟩ := hp.resolve_left (by simp)
      have hmem := hpre.subset hlast
      simp only [List.mem_map, Slot.word.injEq, exists_eq_right] at hmem
      exact .inr ⟨c, hused, e, he, hmem⟩
  · rintro (⟨row, hrow, hmem⟩ | ⟨c, hused, e, he, hmem⟩)
    · obtain ⟨p, rest, rfl⟩ := List.append_of_mem hmem
      exact ⟨⟨none, p⟩, (hh.rows _).mpr (.inr ⟨_, hrow, rest, by simp⟩)⟩
    · obtain ⟨p, rest, rfl⟩ := List.append_of_mem hmem
      refine ⟨⟨some c, p.map .word⟩, (hh.subtrees c _).mpr ⟨hused, .inr ⟨_, he, rest.map .word, ?_⟩⟩⟩
      simp

end Grammar

theorem Fills.exists_slot {offers : Category → List String → Prop} {row : List Slot}
    {ws : List String} (h : Fills offers row ws) {w : String} (hw : w ∈ ws) :
    .word w ∈ row ∨ ∃ c, .category c ∈ row ∧ ∃ e, offers c e ∧ w ∈ e := by
  induction h with
  | nil => cases hw
  | word _ ih =>
    rcases List.mem_cons.mp hw with rfl | hw
    · exact .inl (List.mem_cons_self ..)
    · rcases ih hw with hrow | ⟨c, hc, he⟩
      · exact .inl (List.mem_cons_of_mem _ hrow)
      · exact .inr ⟨c, List.mem_cons_of_mem _ hc, he⟩
  | @category c e _ _ hc _ _ ih =>
    rcases List.mem_append.mp hw with hw | hw
    · exact .inr ⟨c, List.mem_cons_self .., e, hc, hw⟩
    · rcases ih hw with hrow | ⟨d, hd, he⟩
      · exact .inl (List.mem_cons_of_mem _ hrow)
      · exact .inr ⟨d, List.mem_cons_of_mem _ hd, he⟩

theorem IsMatch.exists_row {rows : List Slot → Prop} {offers : Category → List String → Prop}
    {whole : Prop} {ws : List String} (h : IsMatch rows offers whole ws) {w : String} (hw : w ∈ ws) :
    ∃ row, rows row ∧ (.word w ∈ row ∨ ∃ c, .category c ∈ row ∧ ∃ e, offers c e ∧ w ∈ e) := by
  rcases h with ⟨row, hrow, hfill⟩ | ⟨-, p, c, rest, hrow, hfill⟩
  · exact ⟨row, hrow, hfill.exists_slot hw⟩
  · -- a beginning of a row has no slots but those of the row
    have hsub : p ++ [.category c] ⊆ p ++ .category c :: rest := by
      intro x hx
      rw [List.mem_append] at hx ⊢
      exact hx.imp id fun hx => List.mem_cons.mpr (.inl (List.mem_singleton.mp hx))
    refine ⟨_, hrow, (hfill.exists_slot hw).imp (fun hmem => hsub hmem) ?_⟩
    rintro ⟨d, hd, he⟩
    exact ⟨d, hsub hd, he⟩

def MatchesWords (rows : List Slot → Prop) (offers : Category → List String → Prop)
    (ws : List String) (n : Nat) : Prop :=
  1 ≤ n ∧ n ≤ ws.length ∧ IsMatch rows offers (n = ws.length) (ws.take n)

namespace Grammar

variable {catalog : Catalog} {vocabulary : Vocabulary} {direction : Direction} {ignored : WordSet}
  {g : Grammar} {w : String}

theorem mem_words_iff_of_compile_eq_ok (h : compile catalog vocabulary direction ignored = .ok g) :
    w ∈ g.lexicon.words ↔ ∃ row, catalog.StandsFor vocabulary direction ignored row ∧
      (.word w ∈ row ∨ ∃ c, .category c ∈ row ∧ ∃ e, vocabulary.Offers direction ignored c e ∧ w ∈ e) := by
  obtain ⟨chart, hg, hh⟩ := exists_layout_of_compile_eq_ok h
  rw [hg.mem_words_iff_of_holds hh]
  simp only [Catalog.mem_rows_iff, mem_walkedEntries_iff]
  constructor
  · rintro (⟨row, hrow, hmem⟩ | ⟨c, ⟨row, hrow, hc⟩, e, he, hmem⟩)
    · exact ⟨row, hrow, .inl hmem⟩
    · exact ⟨row, hrow, .inr ⟨c, hc, e, he, hmem⟩⟩
  · rintro ⟨row, hrow, hmem | ⟨c, hc, e, he, hmem⟩⟩
    · exact .inl ⟨row, hrow, hmem⟩
    · exact .inr ⟨c, ⟨row, hrow, hc⟩, e, he, hmem⟩

/-- No ignored word is known: what mentions one is left out of the grammar. -/
theorem not_mem_ignored_of_mem_words (h : compile catalog vocabulary direction ignored = .ok g)
    (hw : w ∈ g.lexicon.words) : w ∉ ignored := by
  obtain ⟨row, ⟨t, -, hkeep, kept, hthin, -, rfl⟩, hmem⟩ := (mem_words_iff_of_compile_eq_ok h).mp hw
  rcases hmem with hslot | ⟨c, -, e, ⟨entry, -, havoid, rfl⟩, hmem⟩
  · exact hkeep w (hthin.subset (Direction.mem_orient.mp hslot))
  · exact havoid w (Direction.mem_orient.mp hmem)

theorem knows_eq_true_iff {g : Grammar} : g.knows w = true ↔ w ∈ g.lexicon.words :=
  Lexicon.contains_iff

theorem Spells.eq_of_map_id? {vs ws : List String} (h : g.Spells (vs.map g.lexicon.id?) ws) :
    vs = ws := by
  rw [Spells, List.map_map] at h
  induction vs generalizing ws with
  | nil =>
    exact (List.map_eq_nil_iff.mp h.symm).symm
  | cons v vs ih =>
    cases ws with
    | nil => cases h
    | cons w ws =>
      obtain ⟨hw, hws⟩ := List.cons_eq_cons.mp h
      obtain ⟨id, hid, hword⟩ := Option.bind_eq_some_iff.mp hw
      rw [Lexicon.id?_eq_some_iff] at hid
      rw [ih hws, Option.some.inj (hid.symm.trans hword)]

theorem spells_map_id? {ws : List String} (h : ∀ w ∈ ws, w ∈ g.lexicon.words) :
    g.Spells (ws.map g.lexicon.id?) ws := by
  rw [Spells, List.map_map]
  apply List.map_congr_left
  intro w hw
  cases hid : g.lexicon.id? w with
  | none => exact absurd (h w hw) (Lexicon.id?_eq_none_iff.mp hid)
  | some id =>
    rw [Function.comp_apply, hid]
    exact Lexicon.id?_eq_some_iff.mp hid

/-- A match consists of words that the grammar knows, so none is lost in the numbers. -/
theorem matchesFirst_map_id?_iff (h : compile catalog vocabulary direction ignored = .ok g)
    {ws : List String} {n : Nat} :
    g.MatchesFirst (catalog.StandsFor vocabulary direction ignored)
        (vocabulary.Offers direction ignored) (ws.map g.lexicon.id?) n ↔
      MatchesWords (catalog.StandsFor vocabulary direction ignored)
        (vocabulary.Offers direction ignored) ws n := by
  rw [MatchesFirst, MatchesWords, List.length_map, ← List.map_take]
  apply and_congr_right'
  apply and_congr_right'
  constructor
  · rintro ⟨vs, hspell, hmatch⟩
    rwa [hspell.eq_of_map_id?]
  · intro hmatch
    refine ⟨_, spells_map_id? fun w hw => ?_, hmatch⟩
    exact (mem_words_iff_of_compile_eq_ok h).mpr (hmatch.exists_row hw)

theorem isLongest_longestMatch?_map_id? (h : compile catalog vocabulary direction ignored = .ok g)
    (ws : List String) :
    IsLongest (MatchesWords (catalog.StandsFor vocabulary direction ignored)
      (vocabulary.Offers direction ignored) ws) (g.longestMatch? (ws.map g.lexicon.id?)) := by
  apply (isLongest_longestMatch? h _).congr
  intro n
  exact matchesFirst_map_id?_iff h

end Grammar

end Headword
