import Headword.Proofs.Grammar.Walks

/-!
# The longest match of a grammar

The search of a compiled grammar finds the greatest number of tokens that fill a row of the catalog, or
that are all there are and fill a row up to one of its categories.
-/

namespace Headword.Grammar

/-- The tokens are the numbers of these words. -/
def Spells (g : Grammar) (tokens : List (Option WordId)) (ws : List String) : Prop :=
  tokens.map (fun token => token.bind g.lexicon.word?) = ws.map some

theorem spells_iff {g : Grammar} {tokens : List (Option WordId)} {ws : List String} :
    g.Spells tokens ws ↔
      ∃ ids : List WordId, tokens = ids.map some ∧ ids.map g.lexicon.word? = ws.map some := by
  constructor
  · intro h
    -- a token that stands for a word is known
    induction tokens generalizing ws with
    | nil => exact ⟨[], rfl, h⟩
    | cons token rest ih =>
      cases ws with
      | nil => cases h
      | cons w ws =>
        obtain ⟨hw, hws⟩ := List.cons_eq_cons.mp h
        obtain ⟨id, rfl, hid⟩ := Option.bind_eq_some_iff.mp hw
        obtain ⟨ids, rfl, hids⟩ := ih hws
        refine ⟨id :: ids, rfl, ?_⟩
        rw [List.map_cons, hid, hids, List.map_cons]
  · rintro ⟨ids, rfl, hids⟩
    rw [Spells, List.map_map]
    exact hids

/-- The first `n` tokens spell a match; `n` is the number of all tokens or the match is a whole row. -/
def MatchesFirst (g : Grammar) (rows : List Slot → Prop) (offers : Category → List String → Prop)
    (tokens : List (Option WordId)) (n : Nat) : Prop :=
  1 ≤ n ∧ n ≤ tokens.length ∧
    ∃ ws, g.Spells (tokens.take n) ws ∧ IsMatch rows offers (n = tokens.length) ws

variable {entries : Category → List (List String)} {g : Grammar} {chart : Chart}
  {rows : List Slot → Prop} {used : Category → Prop}

theorem Realizes.stopsAfter_iff (h : g.Realizes chart) (hh : chart.Holds entries rows rows used)
    {tokens : List (Option WordId)} {n : Nat} :
    g.trie.StopsAfter tokens g.start n ↔
      g.MatchesFirst rows (fun c e => e ∈ entries c) tokens n := by
  constructor
  · rintro ⟨ids, d, hne, rfl, ⟨rest, rfl⟩, hwalk, hstop⟩
    obtain ⟨ws, hws, hlead⟩ := (h.walks_iff hh).mp hwalk
    have htake : (ids.map some ++ rest).take ids.length = ids.map some := by
      rw [List.take_left' (List.length_map _)]
    have hmatch := (h.isMatch_iff hh).mp ⟨d, hlead, hstop⟩
    rw [decide_eq_true_eq] at hmatch
    refine ⟨List.length_pos_iff.mpr hne, by simp, ws, ?_, hmatch⟩
    rw [htake]
    exact spells_iff.mpr ⟨ids, rfl, hws⟩
  · rintro ⟨hpos, hle, ws, hspell, hmatch⟩
    -- the first tokens are known, so they make up a walk
    obtain ⟨ids, hids, hws⟩ := spells_iff.mp hspell
    have hlen : ids.length = n := by
      have hboth := congrArg List.length hids
      rw [List.length_take, List.length_map] at hboth
      omega
    have hdecide : IsMatch rows (fun c e => e ∈ entries c) (decide (n = tokens.length) = true) ws := by
      rw [decide_eq_true_eq]
      exact hmatch
    obtain ⟨d, hlead, hstop⟩ := (h.isMatch_iff hh).mpr hdecide
    refine ⟨ids, d, ?_, hlen, hids ▸ List.take_prefix .., (h.walks_iff hh).mpr ⟨ws, hws, hlead⟩, hstop⟩
    rintro rfl
    rw [List.length_nil] at hlen
    omega

section

variable {catalog : Catalog} {vocabulary : Vocabulary} {direction : Direction} {ignored : WordSet}

theorem isLongest_longestMatch? (h : compile catalog vocabulary direction ignored = .ok g)
    (tokens : List (Option WordId)) :
    IsLongest (g.MatchesFirst (catalog.StandsFor vocabulary direction ignored)
      (vocabulary.Offers direction ignored) tokens) (g.longestMatch? tokens) := by
  obtain ⟨chart, hg, hh⟩ := exists_layout_of_compile_eq_ok h
  have hrows : (· ∈ catalog.rows vocabulary direction ignored) =
      catalog.StandsFor vocabulary direction ignored := funext fun _ => propext Catalog.mem_rows_iff
  have hoffers : (fun c e => e ∈ walkedEntries (vocabulary.entries c) direction ignored) =
      vocabulary.Offers direction ignored := funext fun _ => funext fun _ => propext mem_walkedEntries_iff
  apply (Trie.isLongest_longestFrom g.trie tokens g.start).congr
  intro n
  rw [hg.stopsAfter_iff hh, hrows, hoffers]

/-- The length of the match is the greatest one that the templates and entries allow, and there is no
match only when they allow none. -/
theorem longestMatch?_exact (h : compile catalog vocabulary direction ignored = .ok g)
    (tokens : List (Option WordId)) :
    (∀ n, g.longestMatch? tokens = some n ↔
      IsGreatest {m | g.MatchesFirst (catalog.StandsFor vocabulary direction ignored)
        (vocabulary.Offers direction ignored) tokens m} n) ∧
    (g.longestMatch? tokens = none ↔
      ∀ n, ¬g.MatchesFirst (catalog.StandsFor vocabulary direction ignored)
        (vocabulary.Offers direction ignored) tokens n) := by
  have hlongest := isLongest_longestMatch? h tokens
  exact ⟨fun n => hlongest.eq_some_iff, hlongest.eq_none_iff⟩

end

/-- From the end, the words of `they give up sth`, with `give up` an entry and the row `{verb} sth`. -/
theorem longestMatch?_give_up_sth :
    ∃ g, compile ⟨none, [⟨[.category .verb, .word "sth"]⟩]⟩
        (Vocabulary.empty.extend .verb ["give", "give up"]) .backward .empty = .ok g ∧
      IsGreatest {n | g.MatchesFirst
        (Catalog.StandsFor ⟨none, [⟨[.category .verb, .word "sth"]⟩]⟩
          (Vocabulary.empty.extend .verb ["give", "give up"]) .backward .empty)
        ((Vocabulary.empty.extend .verb ["give", "give up"]).Offers .backward .empty)
        (["sth", "up", "give", "they"].map g.lexicon.id?) n} 3 := by
  have h : ∃ g, compile ⟨none, [⟨[.category .verb, .word "sth"]⟩]⟩
      (Vocabulary.empty.extend .verb ["give", "give up"]) .backward .empty = .ok g ∧
      g.longestMatch? (["sth", "up", "give", "they"].map g.lexicon.id?) = some 3 :=
    ⟨_, rfl, by decide +kernel⟩
  obtain ⟨g, hg, hn⟩ := h
  exact ⟨g, hg, ((longestMatch?_exact hg _).1 3).mp hn⟩

end Headword.Grammar
