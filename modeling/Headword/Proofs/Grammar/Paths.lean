import Mathlib.Algebra.BigOperators.Ring.Finset
import Mathlib.Data.Fintype.BigOperators
import Mathlib.Data.Set.Card
import Headword.Proofs.Grammar.WellFormed

/-!
# Paths and nodes of a grammar

The paths of a grammar spell its rows and the entries of its categories.  Lists that begin alike share
their nodes as far as they do, and no node stands for anything else, so the nodes can be counted.
-/

namespace Headword

instance : Fintype Category :=
  ⟨Category.all.toFinset, fun c => List.mem_toFinset.mpr c.mem_all⟩

/-- The lists, apart from the empty one, with which a member of a language begins. -/
def beginnings {α : Type} (language : List α → Prop) : Set (List α) :=
  {p | p ≠ [] ∧ ∃ xs, language xs ∧ p <+: xs}

/-- A language has as many beginnings when its letters are renamed one to one. -/
theorem encard_beginnings_map {α β : Type} {f : α → β} (hf : Function.Injective f)
    (language : List α → Prop) :
    (beginnings fun ys => ∃ xs, language xs ∧ ys = xs.map f).encard = (beginnings language).encard := by
  have himage : (beginnings fun ys => ∃ xs, language xs ∧ ys = xs.map f) =
      List.map f '' beginnings language := by
    ext p
    constructor
    · -- what begins a spelled list spells a beginning of the list
      rintro ⟨hne, _, ⟨xs, hxs, rfl⟩, hp⟩
      obtain ⟨q, hq, rfl⟩ := List.prefix_map_iff.mp hp
      exact ⟨q, ⟨fun hnil => hne (by rw [hnil, List.map_nil]), xs, hxs, hq⟩, rfl⟩
    · rintro ⟨q, ⟨hne, xs, hxs, hq⟩, rfl⟩
      exact ⟨fun hnil => hne (List.map_eq_nil_iff.mp hnil), _, ⟨xs, hxs, rfl⟩, hq.map f⟩
  rw [himage, (List.map_injective_iff.mpr hf).encard_image]

theorem mem_insert_nil_beginnings {α : Type} {language : List α → Prop} {p : List α} :
    p ∈ insert [] (beginnings language) ↔ p = [] ∨ ∃ xs, language xs ∧ p <+: xs := by
  rw [Set.mem_insert_iff]
  by_cases hp : p = []
  · simp only [hp, true_or]
  · simp only [hp, false_or]
    exact and_iff_right hp

theorem encard_insert_nil_beginnings {α : Type} (language : List α → Prop) :
    (insert [] (beginnings language)).encard = 1 + (beginnings language).encard := by
  rw [Set.encard_insert_of_notMem fun hnil => hnil.1 rfl, add_comm]

namespace Chart

variable {chart : Chart} {entries : Category → List (List String)} {laid ended : List Slot → Prop}
  {used : Category → Prop}

/-- The places below a root, by the slots that lead to them. -/
def below (chart : Chart) (home : Option Category) : Set (List Slot) :=
  {p | ⟨home, p⟩ ∈ chart.places}

theorem encard_below (chart : Chart) (home : Option Category) :
    (chart.below home).encard = (chart.places.toFinset.filter (·.home = home)).card := by
  have hinj : Function.Injective (Address.mk home) := fun p q h => congrArg Address.slots h
  have himage : Address.mk home '' chart.below home =
      (chart.places.toFinset.filter (·.home = home) : Finset Address) := by
    ext a
    simp only [Set.mem_image, Finset.coe_filter, Set.mem_ofPred_eq, List.mem_toFinset]
    constructor
    · rintro ⟨p, hp, rfl⟩
      exact ⟨hp, rfl⟩
    · rintro ⟨ha, rfl⟩
      exact ⟨a.slots, ha, rfl⟩
  rw [← Set.encard_coe_eq_coe_finsetCard, ← himage, hinj.encard_image]

/-- Each place is below one of the roots. -/
theorem length_places_eq (hnd : chart.places.Nodup) :
    (chart.places.length : ℕ∞) = (chart.below none).encard + ∑ c, (chart.below (some c)).encard := by
  -- no place is listed twice, so there are as many as the list is long
  have hcard : chart.places.length =
      ∑ home, (chart.places.toFinset.filter (·.home = home)).card := by
    rw [← List.toFinset_card_of_nodup hnd]
    exact Finset.card_eq_sum_card_fiberwise fun a _ => Finset.mem_univ a.home
  rw [hcard, Fintype.sum_option]
  push_cast
  simp only [encard_below]

/-- Below the root of the rows are their beginnings. -/
theorem Holds.encard_below_none (hh : chart.Holds entries laid ended used) :
    (chart.below none).encard = 1 + (beginnings laid).encard := by
  rw [← encard_insert_nil_beginnings]
  congr 1
  ext p
  exact (hh.rows p).trans mem_insert_nil_beginnings.symm

/-- Below a root that stands for lists of words are their beginnings. -/
theorem encard_below_of_words {home : Option Category} {language : List String → Prop}
    (h : ∀ p, ⟨home, p⟩ ∈ chart.places ↔ p = [] ∨ ∃ ws, language ws ∧ p <+: ws.map .word) :
    (chart.below home).encard = 1 + (beginnings language).encard := by
  have hword : Function.Injective Slot.word := fun v w h => Slot.word.inj h
  rw [← encard_beginnings_map hword, ← encard_insert_nil_beginnings]
  congr 1
  ext p
  rw [mem_insert_nil_beginnings]
  refine (h p).trans (or_congr_right ?_)
  constructor
  · rintro ⟨ws, hws, hp⟩
    exact ⟨_, ⟨ws, hws, rfl⟩, hp⟩
  · rintro ⟨_, ⟨ws, hws, rfl⟩, hp⟩
    exact ⟨ws, hws, hp⟩

theorem Holds.encard_below_some (hh : chart.Holds entries laid ended used) {c : Category}
    (hc : used c) : (chart.below (some c)).encard = 1 + (beginnings (· ∈ entries c)).encard :=
  encard_below_of_words fun p => (hh.subtrees c p).trans (and_iff_right hc)

theorem Holds.below_eq_empty (hh : chart.Holds entries laid ended used) {c : Category}
    (hc : ¬used c) : chart.below (some c) = ∅ :=
  Set.eq_empty_of_forall_notMem fun p hp => hc ((hh.subtrees c p).mp hp).1

end Chart

namespace WordTrie

/-- The paths from a root to the nodes with this ending spell the lists of a language.  There is one node
for each list that a path spells, and one list for each node. -/
structure Recognizes (s : WordTrie) (r : NodeId) (ending : Ending) (language : List Slot → Prop) :
    Prop where
  spells : ∀ p, language p ↔ ∃ i, s.Path r p i ∧ (s.trie.node i).ending = ending
  one_node : ∀ p i j, s.Path r p i → s.Path r p j → i = j
  one_path : ∀ p q i, s.Path r p i → s.Path r q i → p = q

variable {s : WordTrie} {chart : Chart}

theorem Realizes.recognizes (h : s.Realizes chart) {r : NodeId} {home : Option Category}
    (hr : chart.at? r = some ⟨home, []⟩) {language : List Slot → Prop}
    (hends : ∀ p, (⟨home, p⟩ : Address) ∈ chart.ends ↔ language p) :
    s.Recognizes r (Address.mk home []).ending language where
  spells p := by
    simp only [h.path_iff hr]
    have hsome : (Address.mk home []).ending ≠ .nothing := by cases home <;> simp [Address.ending]
    rw [← hends]
    constructor
    · intro hp
      -- something is complete at places only, and each of these has a node
      obtain ⟨i, hi⟩ := Chart.mem_places_iff.mp (h.ends_subset hp)
      refine ⟨i, hi, ?_⟩
      rw [h.ending hi, if_pos hp]
      rfl
    · rintro ⟨i, hi, hending⟩
      by_contra hp
      rw [h.ending hi, if_neg hp] at hending
      exact hsome hending.symm
  one_node p i j hi hj :=
    Chart.at?_inj h.nodup ((h.path_iff hr).mp hi) ((h.path_iff hr).mp hj)
  one_path p q i hp hq := by
    have hsame := ((h.path_iff hr).mp hp).symm.trans ((h.path_iff hr).mp hq)
    exact congrArg Address.slots (Option.some.inj hsame)

end WordTrie

namespace Grammar

/-- The grammar spells the rows and, for each category that is asked for, the entries on offer.  Its
nodes are the roots and one for each beginning of these. -/
structure Exact (g : Grammar) (rows : List Slot → Prop) (offers : Category → List String → Prop)
    (asked : Category → Prop) : Prop where
  row_paths : g.Recognizes g.root .template rows
  template_path : ∀ i, (g.trie.node i).ending = .template → ∃ row, g.Path g.root row i
  category_iff : ∀ c, (∃ r, g.categoryRoots.get c = some r) ↔ asked c
  entry_paths : ∀ c r, g.categoryRoots.get c = some r →
    g.Recognizes r .entry fun p => ∃ ws, offers c ws ∧ p = ws.map .word
  size_eq : (g.size : ℕ∞) = 1 + (beginnings rows).encard +
    ∑ c with (g.categoryRoots.get c).isSome, (1 + (beginnings (offers c)).encard)

variable {entries : Category → List (List String)} {g : Grammar} {chart : Chart}
  {laid ended : List Slot → Prop} {used : Category → Prop}

/-- The root of a category is the node of the empty entry. -/
theorem Exact.categoryRoot_ending_iff {rows : List Slot → Prop}
    {offers : Category → List String → Prop} {asked : Category → Prop}
    (h : g.Exact rows offers asked) {c : Category} {r : NodeId}
    (hr : g.categoryRoots.get c = some r) : (g.trie.node r).ending = .entry ↔ offers c [] := by
  have hpaths := h.entry_paths c r hr
  constructor
  · intro hending
    obtain ⟨ws, hws, hnil⟩ := (hpaths.spells []).mpr ⟨r, .nil, hending⟩
    rwa [List.map_eq_nil_iff.mp hnil.symm] at hws
  · intro hnil
    obtain ⟨i, hi, hending⟩ := (hpaths.spells []).mp ⟨[], hnil, rfl⟩
    rwa [hpaths.one_node [] i r hi .nil] at hending

theorem Realizes.categoryRoot_iff (h : g.Realizes chart) (hh : chart.Holds entries laid ended used)
    (c : Category) : (∃ r, g.categoryRoots.get c = some r) ↔ used c := by
  simp only [h.categoryRoots, ← Chart.mem_places_iff]
  exact (hh.subtrees c []).trans (and_iff_left (.inl rfl))

theorem Realizes.exists_path_of_template (h : g.Realizes chart) {i : NodeId}
    (hi : (g.trie.node i).ending = .template) : ∃ row, g.Path g.root row i := by
  have hlt : i.index < g.size := by
    by_contra hge
    rw [Trie.node_of_size_le (Nat.le_of_not_lt hge)] at hi
    cases hi
  obtain ⟨⟨home, p⟩, ha⟩ := h.exists_at? hlt
  cases home with
  | none => exact ⟨p, (h.trie.path_iff h.root).mpr ha⟩
  | some c => exact absurd hi (h.trie.ending_ne_template ha)

theorem Realizes.size_eq (h : g.Realizes chart) (hh : chart.Holds entries laid ended used) :
    (g.size : ℕ∞) = 1 + (beginnings laid).encard +
      ∑ c with (g.categoryRoots.get c).isSome, (1 + (beginnings (· ∈ entries c)).encard) := by
  have hsize : g.size = chart.places.length := by
    rw [size, h.trie.size_eq, Chart.size, h.base_eq, Nat.zero_add]
  rw [hsize, Chart.length_places_eq h.trie.nodup, hh.encard_below_none, Finset.sum_filter]
  congr 1
  refine Finset.sum_congr rfl fun c _ => ?_
  have hused : (g.categoryRoots.get c).isSome = true ↔ used c := by
    rw [← h.categoryRoot_iff hh, Option.isSome_iff_exists]
  -- without a root there is no place below it
  by_cases hc : used c
  · rw [if_pos (hused.mpr hc), hh.encard_below_some hc]
  · rw [if_neg (mt hused.mp hc), hh.below_eq_empty hc, Set.encard_empty]

theorem Realizes.exact (h : g.Realizes chart) (hh : chart.Holds entries laid laid used) :
    g.Exact laid (fun c ws => ws ∈ entries c) used where
  row_paths := h.trie.recognizes h.root hh.rowEnds
  template_path _ hi := h.exists_path_of_template hi
  category_iff := h.categoryRoot_iff hh
  entry_paths := by
    intro c r hr
    have hused : used c := (h.categoryRoot_iff hh c).mp ⟨r, hr⟩
    refine h.trie.recognizes ((h.categoryRoots c r).mp hr) fun p => ?_
    exact (hh.entryEnds c p).trans (and_iff_right hused)
  size_eq := h.size_eq hh

theorem exact_rows {catalog : Catalog} {vocabulary : Vocabulary} {direction : Direction}
    {ignored : WordSet} (h : compile catalog vocabulary direction ignored = .ok g) :
    g.Exact (· ∈ catalog.rows vocabulary direction ignored)
      (fun c ws => ws ∈ walkedEntries (vocabulary.entries c) direction ignored)
      fun c => ∃ row ∈ catalog.rows vocabulary direction ignored, .category c ∈ row := by
  obtain ⟨chart, hg, hh⟩ := exists_layout_of_compile_eq_ok h
  exact hg.exact hh

end Grammar

/-- A grammar that compiles spells what its catalog stands for, and the root of a category is an end just
when the category may be left out. -/
theorem Grammar.exact_of_compile_eq_ok {catalog : Catalog} {vocabulary : Vocabulary}
    {direction : Direction} {ignored : WordSet} {g : Grammar}
    (h : compile catalog vocabulary direction ignored = .ok g) :
    g.Exact (catalog.StandsFor vocabulary direction ignored) (vocabulary.Offers direction ignored)
        (catalog.AsksFor ignored) ∧
      ∀ c r, g.categoryRoots.get c = some r →
        ((g.trie.node r).ending = .entry ↔ [] ∈ vocabulary.entries c) := by
  obtain ⟨chart, hg, hh⟩ := exists_layout_of_compile_eq_ok h
  have hrows : catalog.StandsFor vocabulary direction ignored =
      (· ∈ catalog.rows vocabulary direction ignored) :=
    funext fun row => propext Catalog.mem_rows_iff.symm
  have hoffers : vocabulary.Offers direction ignored =
      fun c ws => ws ∈ walkedEntries (vocabulary.entries c) direction ignored :=
    funext fun c => funext fun ws => propext mem_walkedEntries_iff.symm
  have hasks : catalog.AsksFor ignored =
      fun c => ∃ row ∈ catalog.rows vocabulary direction ignored, .category c ∈ row :=
    funext fun c => propext Catalog.exists_row_iff_asksFor.symm
  have hexact : g.Exact (catalog.StandsFor vocabulary direction ignored)
      (vocabulary.Offers direction ignored) (catalog.AsksFor ignored) := by
    rw [hrows, hoffers, hasks]
    exact hg.exact hh
  exact ⟨hexact, fun c r hr => (hexact.categoryRoot_ending_iff hr).trans Vocabulary.offers_nil_iff⟩

/-- From the end, the row `to` comes from the template without its verb, `be about` is walked as `about be`
and `am` is ignored. -/
theorem Grammar.exact_be_about_to :
    ∃ g, compile ⟨none, [⟨[.category .verb, .word "to"]⟩]⟩
        (Vocabulary.empty.extend .verb ["be", "am", "be about", ""]) .backward (.ofList ["am"]) = .ok g ∧
      g.size = 7 ∧
      g.Exact
        (Catalog.StandsFor ⟨none, [⟨[.category .verb, .word "to"]⟩]⟩
          (Vocabulary.empty.extend .verb ["be", "am", "be about", ""]) .backward (.ofList ["am"]))
        (Vocabulary.Offers (Vocabulary.empty.extend .verb ["be", "am", "be about", ""]) .backward
          (.ofList ["am"]))
        (Catalog.AsksFor ⟨none, [⟨[.category .verb, .word "to"]⟩]⟩ (.ofList ["am"])) := by
  have h : ∃ g, compile ⟨none, [⟨[.category .verb, .word "to"]⟩]⟩
      (Vocabulary.empty.extend .verb ["be", "am", "be about", ""]) .backward (.ofList ["am"]) = .ok g ∧
      g.size = 7 := ⟨_, rfl, by decide +kernel⟩
  obtain ⟨g, hg, hsize⟩ := h
  exact ⟨g, hg, hsize, (exact_of_compile_eq_ok hg).1⟩

end Headword
