import Mathlib.Data.List.Basic
import Mathlib.Logic.ExistsUnique
import Headword.Proofs.Grammar.Language
import Headword.Proofs.Grammar.Layout

/-!
# Well-formed grammars

The nodes of a compiled grammar form trees, one for the rows and one for each category that rows ask for.
Category edges lead from the tree of the rows to the one tree of their category, and the two kinds of ends
stay in the two kinds of trees.
-/

namespace Headword

/-- What an edge between two nodes of one tree passes: a word, or a category with all its entries. -/
inductive EdgeLabel
  | word (id : WordId)
  | category (c : Category)
  deriving DecidableEq

namespace Trie

/-- The tree edges: to the child for a word, and to the node at which to resume after a category. -/
def HasEdge (t : Trie) (i : NodeId) : EdgeLabel → NodeId → Prop
  | .word id, j => (id, j) ∈ (t.node i).wordEdges
  | .category c, j => ∃ e ∈ (t.node i).categoryEdges, e.category = c ∧ e.resume = j

/-- The nodes of the tree below a node, that node included. -/
inductive Descends (t : Trie) (r : NodeId) : NodeId → Prop
  | refl : t.Descends r r
  | edge {i l j} : t.Descends r i → t.HasEdge i l j → t.Descends r j

/-- The nodes to which edges of any kind lead from a node. -/
inductive Reaches (t : Trie) (r : NodeId) : NodeId → Prop
  | refl : t.Reaches r r
  | edge {i l j} : t.Reaches r i → t.HasEdge i l j → t.Reaches r j
  | enter {i e} : t.Reaches r i → e ∈ (t.node i).categoryEdges → t.Reaches r e.root

theorem Descends.reaches {t : Trie} {q r i : NodeId} (hq : t.Reaches q r) (h : t.Descends r i) :
    t.Reaches q i := by
  induction h with
  | refl => exact hq
  | edge _ he ih => exact .edge ih he

end Trie

namespace Grammar

def IsRowNode (g : Grammar) (i : NodeId) : Prop :=
  g.trie.Descends g.root i

def IsEntryNode (g : Grammar) (c : Category) (i : NodeId) : Prop :=
  ∃ r, g.categoryRoots.get c = some r ∧ g.trie.Descends r i

/-- Every node belongs to exactly one of the trees, in which it is reached by exactly one way from the
root.  Nothing is unreachable, and every category is laid at most once. -/
structure WellFormed (g : Grammar) : Prop where
  one_tree : ∀ i, i.index < g.size →
    (g.IsRowNode i ∧ ∀ c, ¬g.IsEntryNode c i) ∨ (¬g.IsRowNode i ∧ ∃! c, g.IsEntryNode c i)
  root_lt : g.root.index < g.size
  categoryRoot_lt : ∀ c r, g.categoryRoots.get c = some r → r.index < g.size
  root_no_edge : ∀ i l, ¬g.trie.HasEdge i l g.root
  categoryRoot_no_edge : ∀ c r, g.categoryRoots.get c = some r → ∀ i l, ¬g.trie.HasEdge i l r
  one_edge : ∀ j, j.index < g.size → j ≠ g.root → (∀ c, g.categoryRoots.get c ≠ some j) →
    ∃! p : NodeId × EdgeLabel, g.trie.HasEdge p.1 p.2 j
  edge_lt : ∀ i l j, g.trie.HasEdge i l j → i.index < j.index ∧ j.index < g.size
  reaches : ∀ i, i.index < g.size → g.trie.Reaches g.root i
  entry_node : ∀ c i, g.IsEntryNode c i →
    (g.trie.node i).categoryEdges = [] ∧ (g.trie.node i).ending ≠ .template
  row_node : ∀ i, g.IsRowNode i → (g.trie.node i).ending ≠ .entry
  root_ending : (g.trie.node g.root).ending ≠ .template
  ordered : ∀ i, (g.trie.node i).Ordered
  shared_root : ∀ i e, e ∈ (g.trie.node i).categoryEdges →
    g.categoryRoots.get e.category = some e.root

end Grammar

namespace WordTrie

def Passes (s : WordTrie) : EdgeLabel → Slot → Prop
  | .word id, x => ∃ w, s.lexicon.word? id = some w ∧ x = .word w
  | .category c, x => x = .category c

theorem Passes.unique {s : WordTrie} {l l' : EdgeLabel} {x : Slot} (h : s.Passes l x)
    (h' : s.Passes l' x) : l = l' := by
  cases l with
  | category c =>
    cases h
    cases l' with
    | category d => cases h'; rfl
    | word id => obtain ⟨w, -, hw⟩ := h'; cases hw
  | word id =>
    obtain ⟨w, hw, rfl⟩ := h
    cases l' with
    | category d => cases h'
    | word id' =>
      obtain ⟨v, hv, heq⟩ := h'
      cases heq
      rw [← Lexicon.id?_eq_some_iff] at hw hv
      rw [Option.some.inj (hw.symm.trans hv)]

theorem Passes.slot_unique {s : WordTrie} {l : EdgeLabel} {x y : Slot} (hx : s.Passes l x)
    (hy : s.Passes l y) : x = y := by
  cases l with
  | category c => exact hx.trans hy.symm
  | word id =>
    obtain ⟨w, hw, rfl⟩ := hx
    obtain ⟨v, hv, rfl⟩ := hy
    rw [Option.some.inj (hw.symm.trans hv)]

/-- The node to which tree edges lead that pass the slots one after another. -/
inductive Path (s : WordTrie) (r : NodeId) : List Slot → NodeId → Prop
  | nil : s.Path r [] r
  | concat {p i l x j} : s.Path r p i → s.trie.HasEdge i l j → s.Passes l x → s.Path r (p ++ [x]) j

theorem Path.descends {s : WordTrie} {r i : NodeId} {p : List Slot} (h : s.Path r p i) :
    s.trie.Descends r i := by
  induction h with
  | nil => exact .refl
  | concat _ he _ ih => exact .edge ih he

variable {s : WordTrie} {chart : Chart}

/-- The edges of a node lead to the neighbours of its address. -/
theorem Realizes.hasEdge_iff (h : s.Realizes chart) {i j : NodeId} {l : EdgeLabel}
    (hbase : chart.base ≤ i.index) :
    s.trie.HasEdge i l j ↔
      ∃ a x, s.Passes l x ∧ chart.at? i = some a ∧ chart.at? j = some (a.next x) := by
  have hord := h.ordered hbase
  cases l with
  | word id =>
    rw [Trie.HasEdge, ← Node.child?_eq_some_iff hord]
    constructor
    · intro hj
      -- edges have numbers of words, so there is a slot to pass
      obtain ⟨w, hw⟩ := h.named hbase hj
      obtain ⟨a, ha⟩ := (h.next hbase).mp ((next?_word hw i).trans hj)
      exact ⟨a, .word w, ⟨w, hw, rfl⟩, ha⟩
    · rintro ⟨a, -, ⟨w, hw, rfl⟩, ha⟩
      exact (next?_word hw i).symm.trans ((h.next hbase).mpr ⟨a, ha⟩)
  | category c =>
    have hnext : s.next? i (.category c) = some j ↔
        ∃ e ∈ (s.trie.node i).categoryEdges, e.category = c ∧ e.resume = j := by
      simp only [next?, Option.map_eq_some_iff, Node.categoryEdge?_eq_some_iff hord, and_assoc]
    rw [Trie.HasEdge, ← hnext, h.next hbase]
    constructor
    · rintro ⟨a, ha⟩
      exact ⟨a, _, rfl, ha⟩
    · rintro ⟨a, x, hx, ha⟩
      obtain rfl : x = .category c := hx
      exact ⟨a, ha⟩

/-- Every slot between two neighbours is passed by an edge. -/
theorem Realizes.exists_edge (h : s.Realizes chart) {i j : NodeId} {a : Address} {x : Slot}
    (hi : chart.at? i = some a) (hj : chart.at? j = some (a.next x)) :
    ∃ l, s.Passes l x ∧ s.trie.HasEdge i l j := by
  have hbase := (Chart.le_and_lt_of_at?_eq_some hi).1
  have hpass : ∃ l, s.Passes l x := by
    cases x with
    | category c => exact ⟨.category c, rfl⟩
    | word w =>
      obtain ⟨id, hw, -⟩ := next?_word_eq_some_iff.mp ((h.next hbase).mpr ⟨a, hi, hj⟩)
      exact ⟨.word id, w, hw, rfl⟩
  obtain ⟨l, hl⟩ := hpass
  exact ⟨l, hl, (h.hasEdge_iff hbase).mpr ⟨a, x, hl, hi, hj⟩⟩

/-- The path to a node passes the slots of its address. -/
theorem Realizes.path_iff (h : s.Realizes chart) {r i : NodeId} {home : Option Category}
    (hr : chart.at? r = some ⟨home, []⟩) {p : List Slot} :
    s.Path r p i ↔ chart.at? i = some ⟨home, p⟩ := by
  constructor
  · intro hp
    induction hp with
    | nil => exact hr
    | @concat p k l x j _ he hx ih =>
      have hbase := (Chart.le_and_lt_of_at?_eq_some ih).1
      obtain ⟨a, y, hy, hk, hj⟩ := (h.hasEdge_iff hbase).mp he
      obtain rfl : (⟨home, p⟩ : Address) = a := Option.some.inj (ih.symm.trans hk)
      rw [hx.slot_unique hy]
      exact hj
  · intro hi
    -- by the way from the root, the last edge of which comes from the node before
    induction p using List.reverseRecOn generalizing i with
    | nil =>
      rw [Chart.at?_inj h.nodup hi hr]
      exact .nil
    | append_singleton p x ih =>
      obtain ⟨j, -, hj⟩ := h.exists_parent hi
      obtain ⟨l, hl, he⟩ := h.exists_edge hj hi
      exact .concat (ih hj) he hl

/-- The tree below a root consists of the nodes whose addresses start there. -/
theorem Realizes.descends_iff (h : s.Realizes chart) {r i : NodeId} {home : Option Category}
    (hr : chart.at? r = some ⟨home, []⟩) :
    s.trie.Descends r i ↔ ∃ p, chart.at? i = some ⟨home, p⟩ := by
  constructor
  · intro hd
    induction hd with
    | refl => exact ⟨[], hr⟩
    | @edge k l j _ he ih =>
      obtain ⟨p, hk⟩ := ih
      have hbase := (Chart.le_and_lt_of_at?_eq_some hk).1
      obtain ⟨a, x, -, hk', hj⟩ := (h.hasEdge_iff hbase).mp he
      obtain rfl : (⟨home, p⟩ : Address) = a := Option.some.inj (hk.symm.trans hk')
      exact ⟨p ++ [x], hj⟩
  · rintro ⟨p, hi⟩
    exact ((h.path_iff hr).mpr hi).descends

end WordTrie

namespace Grammar

variable {entries : Category → List (List String)} {g : Grammar} {chart : Chart}
  {laid ended : List Slot → Prop} {used : Category → Prop}

theorem Realizes.isRowNode_iff (h : g.Realizes chart) {i : NodeId} :
    g.IsRowNode i ↔ ∃ p, chart.at? i = some ⟨none, p⟩ :=
  h.trie.descends_iff h.root

theorem Realizes.isEntryNode_iff (h : g.Realizes chart) {c : Category} {i : NodeId} :
    g.IsEntryNode c i ↔ ∃ p, chart.at? i = some ⟨some c, p⟩ := by
  constructor
  · rintro ⟨r, hr, hd⟩
    exact (h.trie.descends_iff ((h.categoryRoots c r).mp hr)).mp hd
  · rintro ⟨p, hi⟩
    obtain ⟨r, hr⟩ := Chart.mem_places_iff.mp (h.trie.root_mem_places hi)
    exact ⟨r, (h.categoryRoots c r).mpr hr, (h.trie.descends_iff hr).mpr ⟨p, hi⟩⟩

/-- A node at the beginning of a row with a category has the edge that enters the category. -/
theorem Realizes.exists_categoryEdge (h : g.Realizes chart)
    (hh : chart.Holds entries laid ended used) {p rest : List Slot} {c : Category}
    (hrow : laid (p ++ .category c :: rest)) :
    ∃ i e, g.IsRowNode i ∧ e ∈ (g.trie.node i).categoryEdges ∧ e.category = c := by
  have hbefore : (⟨none, p⟩ : Address) ∈ chart.places :=
    (hh.rows p).mpr (.inr ⟨_, hrow, List.prefix_append ..⟩)
  have hafter : (⟨none, p ++ [.category c]⟩ : Address) ∈ chart.places :=
    (hh.rows _).mpr (.inr ⟨_, hrow, rest, by simp⟩)
  obtain ⟨i, hi⟩ := Chart.mem_places_iff.mp hbefore
  obtain ⟨j, hj⟩ := Chart.mem_places_iff.mp hafter
  obtain ⟨l, hl, he⟩ := h.trie.exists_edge hi hj
  obtain rfl : l = .category c := hl.unique (show g.Passes (.category c) (.category c) from rfl)
  obtain ⟨e, hmem, hc, -⟩ := he
  exact ⟨i, e, h.isRowNode_iff.mpr ⟨p, hi⟩, hmem, hc⟩

theorem Realizes.exists_at? (h : g.Realizes chart) {i : NodeId} (hi : i.index < g.size) :
    ∃ a, chart.at? i = some a :=
  Chart.exists_at?_eq_some (h.base_le i) (h.trie.size_eq ▸ hi)

theorem Realizes.ends_of_hasEdge (h : g.Realizes chart) {i j : NodeId} {l : EdgeLabel}
    (he : g.trie.HasEdge i l j) :
    ∃ a x, g.Passes l x ∧ chart.at? i = some a ∧ chart.at? j = some (a.next x) :=
  (h.trie.hasEdge_iff (h.base_le i)).mp he

/-- The home of a node's address tells the tree to which the node belongs. -/
theorem Realizes.one_tree (h : g.Realizes chart) {i : NodeId} (hi : i.index < g.size) :
    (g.IsRowNode i ∧ ∀ c, ¬g.IsEntryNode c i) ∨ (¬g.IsRowNode i ∧ ∃! c, g.IsEntryNode c i) := by
  simp only [h.isRowNode_iff, h.isEntryNode_iff]
  obtain ⟨⟨home, p⟩, ha⟩ := h.exists_at? hi
  rw [ha]
  cases home with
  | none =>
    refine .inl ⟨⟨p, rfl⟩, ?_⟩
    rintro c ⟨q, hq⟩
    simp at hq
  | some c =>
    refine .inr ⟨?_, c, ⟨p, rfl⟩, ?_⟩
    · rintro ⟨q, hq⟩
      simp at hq
    · rintro d ⟨q, hq⟩
      simpa [eq_comm] using congrArg (Option.map Address.home) hq

theorem Realizes.edge_lt (h : g.Realizes chart) {i j : NodeId} {l : EdgeLabel}
    (he : g.trie.HasEdge i l j) : i.index < j.index ∧ j.index < g.size := by
  obtain ⟨a, x, -, hi, hj⟩ := h.ends_of_hasEdge he
  obtain ⟨k, hlt, hk⟩ := h.trie.parent hj
  obtain rfl := Chart.at?_inj h.trie.nodup hi hk
  exact ⟨hlt, h.trie.index_lt hj⟩

/-- The edge to a node comes from the one node with the address before, and passes the last slot. -/
theorem Realizes.one_edge (h : g.Realizes chart) {j : NodeId} (hj : j.index < g.size)
    (hroot : j ≠ g.root) (hcategory : ∀ c, g.categoryRoots.get c ≠ some j) :
    ∃! p : NodeId × EdgeLabel, g.trie.HasEdge p.1 p.2 j := by
  obtain ⟨⟨home, p⟩, ha⟩ := h.exists_at? hj
  rcases List.eq_nil_or_concat' p with rfl | ⟨q, x, rfl⟩
  · cases home with
    | none => exact absurd (Chart.at?_inj h.trie.nodup ha h.root) hroot
    | some c => exact absurd ((h.categoryRoots c j).mpr ha) (hcategory c)
  · obtain ⟨i, -, hi⟩ := h.trie.exists_parent ha
    obtain ⟨l, hl, he⟩ := h.trie.exists_edge hi ha
    refine ⟨(i, l), he, ?_⟩
    -- another edge to the node comes from the same address and passes the same slot
    rintro ⟨i', l'⟩ he'
    obtain ⟨b, y, hl', hi', hj'⟩ := h.ends_of_hasEdge he'
    have hsame : (⟨home, q⟩ : Address).next x = b.next y := Option.some.inj (ha.symm.trans hj')
    obtain ⟨rfl, rfl⟩ := Address.next_inj.mp hsame
    obtain rfl : i' = i := Chart.at?_inj h.trie.nodup hi' hi
    obtain rfl : l' = l := hl'.unique hl
    rfl

/-- The subtree of a category is entered from a row that asks for it. -/
theorem Realizes.reaches (h : g.Realizes chart) (hh : chart.Holds entries laid ended used)
    (hused : ∀ c, used c → ∃ row, laid row ∧ .category c ∈ row) {i : NodeId}
    (hi : i.index < g.size) : g.trie.Reaches g.root i := by
  obtain ⟨⟨home, p⟩, ha⟩ := h.exists_at? hi
  cases home with
  | none => exact (h.isRowNode_iff.mpr ⟨p, ha⟩).reaches .refl
  | some c =>
    -- down a row that asks for the category, into its subtree, and down to the node
    obtain ⟨r, hr, hd⟩ := h.isEntryNode_iff.mpr ⟨p, ha⟩
    obtain ⟨row, hrow, hmem⟩ := hused c ((hh.subtrees c p).mp (Chart.mem_places_of_at? ha)).1
    obtain ⟨q, rest, rfl⟩ := List.append_of_mem hmem
    obtain ⟨k, e, hk, he, rfl⟩ := h.exists_categoryEdge hh hrow
    have hat := h.trie.rooted (h.base_le k) he
    obtain rfl : e.root = r := Chart.at?_inj h.trie.nodup hat ((h.categoryRoots _ r).mp hr)
    exact hd.reaches (.enter (hk.reaches .refl) he)

theorem Realizes.categoryEdges_eq_nil (h : g.Realizes chart)
    (hh : chart.Holds entries laid ended used) {c : Category} {i : NodeId}
    (hi : g.IsEntryNode c i) : (g.trie.node i).categoryEdges = [] := by
  obtain ⟨p, ha⟩ := h.isEntryNode_iff.mp hi
  refine List.eq_nil_iff_forall_not_mem.mpr fun e he => ?_
  obtain ⟨a, x, hx, hi', hj⟩ := h.ends_of_hasEdge (l := .category e.category) ⟨e, he, rfl, rfl⟩
  obtain rfl := Option.some.inj (ha.symm.trans hi')
  obtain rfl : x = .category e.category := hx
  exact hh.category_not_mem_places (Chart.mem_places_of_at? hj)

/-- A grammar with a chart is well formed if no row is empty and categories are laid only for rows. -/
theorem Realizes.wellFormed (h : g.Realizes chart) (hh : chart.Holds entries laid ended used)
    (hused : ∀ c, used c → ∃ row, laid row ∧ .category c ∈ row) (hne : ¬ended []) :
    g.WellFormed where
  one_tree _ hi := h.one_tree hi
  root_lt := h.trie.index_lt h.root
  categoryRoot_lt c r hr := h.trie.index_lt ((h.categoryRoots c r).mp hr)
  root_no_edge := by
    intro i l he
    obtain ⟨a, x, -, -, hj⟩ := h.ends_of_hasEdge he
    exact Address.next_ne_start a x (Option.some.inj (hj.symm.trans h.root))
  categoryRoot_no_edge := by
    intro c r hr i l he
    obtain ⟨a, x, -, -, hj⟩ := h.ends_of_hasEdge he
    exact Address.next_ne_root a x c (Option.some.inj (hj.symm.trans ((h.categoryRoots c r).mp hr)))
  one_edge _ hj hroot hcategory := h.one_edge hj hroot hcategory
  edge_lt _ _ _ he := h.edge_lt he
  reaches _ hi := h.reaches hh hused hi
  entry_node := by
    intro c i hi
    obtain ⟨p, ha⟩ := h.isEntryNode_iff.mp hi
    exact ⟨h.categoryEdges_eq_nil hh hi, h.trie.ending_ne_template ha⟩
  row_node := by
    intro i hi
    obtain ⟨p, ha⟩ := h.isRowNode_iff.mp hi
    exact h.trie.ending_ne_entry ha
  root_ending := by
    have hstart : Address.start ∉ chart.ends := fun hs => hne ((hh.rowEnds []).mp hs)
    rw [h.trie.ending h.root, if_neg hstart]
    simp
  ordered i := h.trie.ordered (h.base_le i)
  shared_root i _ he := (h.categoryRoots _ _).mpr (h.trie.rooted (h.base_le i) he)

theorem wellFormed_ofRows (direction : Direction) (entries : Category → List (List String))
    {rows : List (List Slot)} (hne : [] ∉ rows) : (ofRows direction entries rows).WellFormed := by
  obtain ⟨chart, h, hh⟩ := exists_layout direction entries rows
  exact h.wellFormed hh (fun c hc => hc) hne

end Grammar

theorem Grammar.wellFormed_of_compile_eq_ok {catalog : Catalog} {vocabulary : Vocabulary}
    {direction : Direction} {ignored : WordSet} {g : Grammar}
    (h : compile catalog vocabulary direction ignored = .ok g) : g.WellFormed := by
  obtain ⟨chart, hg, hh⟩ := exists_layout_of_compile_eq_ok h
  refine hg.wellFormed hh (fun c hc => hc) fun hnil => ?_
  exact (Catalog.mem_rows_iff.mp hnil).ne_nil rfl

theorem Grammar.wellFormed_to_verb :
    ∃ g, compile ⟨none, [⟨[.word "to", .category .verb]⟩, ⟨[.category .verb, .word "to"]⟩]⟩
        (Vocabulary.empty.extend .verb ["be", "be about", ""]) .backward .empty = .ok g ∧
      g.WellFormed := by
  have h : ∃ g, compile ⟨none, [⟨[.word "to", .category .verb]⟩, ⟨[.category .verb, .word "to"]⟩]⟩
      (Vocabulary.empty.extend .verb ["be", "be about", ""]) .backward .empty = .ok g := ⟨_, rfl⟩
  obtain ⟨g, hg⟩ := h
  exact ⟨g, hg, wellFormed_of_compile_eq_ok hg⟩

end Headword
