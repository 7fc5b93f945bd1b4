import Headword.WordTrie

/-!
# Edges of nodes

The edges of each kind stay in order, so that a look-up finds an edge exactly when the edge is there, and
each step of building touches the edges of one node.
-/

namespace Headword

namespace Node

/-- The edges of a node, each kind in strictly increasing order. -/
structure Ordered (n : Node) : Prop where
  words : n.wordEdges.Pairwise fun a b => a.1.index < b.1.index
  categories : n.categoryEdges.Pairwise fun a b => a.category.rank < b.category.rank

theorem ordered_default : Ordered {} :=
  ⟨.nil, .nil⟩

theorem lookup_eq_none_iff {es : List (WordId × NodeId)} {w : WordId} :
    es.lookup w = none ↔ ∀ e ∈ es, e.1 ≠ w := by
  induction es with
  | nil => simp
  | cons e es ih =>
    rw [lookup_cons_edge, List.forall_mem_cons, ← ih]
    by_cases h : w = e.1
    · simp [h]
    · simp [h, Ne.symm h]

theorem lookup_eq_some_iff {es : List (WordId × NodeId)}
    (hes : es.Pairwise fun a b => a.1.index < b.1.index) {w : WordId} {j : NodeId} :
    es.lookup w = some j ↔ (w, j) ∈ es := by
  induction es with
  | nil => simp
  | cons e es ih =>
    have hrest := ih hes.of_cons
    rw [lookup_cons_edge, List.mem_cons, ← hrest]
    by_cases h : w = e.1
    · -- no later edge has the same word, because the numbers increase
      have hnot : es.lookup w ≠ some j := by
        intro hj
        have hlt : e.1.index < w.index := List.rel_of_pairwise_cons hes (hrest.mp hj)
        rw [h] at hlt
        omega
      rw [if_pos h, or_iff_left hnot, Option.some.injEq, Prod.ext_iff]
      exact ⟨fun hj => ⟨h, hj.symm⟩, fun hj => hj.2.symm⟩
    · have hne : (w, j) ≠ e := fun he => h (congrArg Prod.fst he)
      rw [if_neg h, or_iff_right hne]

theorem find?_category_eq_some_iff {es : List CategoryEdge}
    (hes : es.Pairwise fun a b => a.category.rank < b.category.rank) {c : Category}
    {e : CategoryEdge} :
    es.find? (fun d => d.category = c) = some e ↔ e ∈ es ∧ e.category = c := by
  induction es with
  | nil => simp
  | cons d es ih =>
    rw [List.find?_cons, List.mem_cons]
    by_cases h : d.category = c
    · -- no later edge has the same category, because the ranks increase
      have hnot : ¬(e ∈ es ∧ e.category = c) := by
        rintro ⟨he, hec⟩
        have hlt := List.rel_of_pairwise_cons hes he
        rw [h, hec] at hlt
        omega
      simp only [h, decide_true, Option.some.injEq]
      constructor
      · rintro rfl
        exact ⟨.inl rfl, h⟩
      · rintro ⟨rfl | he, hec⟩
        · rfl
        · exact absurd ⟨he, hec⟩ hnot
    · simp only [h, decide_false, ih hes.of_cons]
      constructor
      · exact fun he => ⟨.inr he.1, he.2⟩
      · rintro ⟨rfl | he, hec⟩
        · exact absurd hec h
        · exact ⟨he, hec⟩

theorem child?_eq_none_iff {n : Node} {w : WordId} :
    n.child? w = none ↔ ∀ e ∈ n.wordEdges, e.1 ≠ w :=
  lookup_eq_none_iff

theorem child?_eq_some_iff {n : Node} (hn : n.Ordered) {w : WordId} {j : NodeId} :
    n.child? w = some j ↔ (w, j) ∈ n.wordEdges :=
  lookup_eq_some_iff hn.words

theorem child?_congr {n m : Node} (h : n.wordEdges = m.wordEdges) : n.child? = m.child? := by
  funext w
  rw [child?, child?, h]

theorem categoryEdge?_eq_none_iff {n : Node} {c : Category} :
    n.categoryEdge? c = none ↔ ∀ e ∈ n.categoryEdges, e.category ≠ c := by
  simp [categoryEdge?]

theorem categoryEdge?_eq_some_iff {n : Node} (hn : n.Ordered) {c : Category} {e : CategoryEdge} :
    n.categoryEdge? c = some e ↔ e ∈ n.categoryEdges ∧ e.category = c :=
  find?_category_eq_some_iff hn.categories

theorem find?_insertCategoryEdge {es : List CategoryEdge} {e : CategoryEdge}
    (hnew : ∀ d ∈ es, d.category ≠ e.category) (c : Category) :
    (insertCategoryEdge e es).find? (fun d => d.category = c) =
      if c = e.category then some e else es.find? fun d => d.category = c := by
  induction es with
  | nil =>
    by_cases h : c = e.category
    · simp [insertCategoryEdge, h]
    · simp [insertCategoryEdge, h, Ne.symm h]
  | cons d rest ih =>
    have hd : d.category ≠ e.category := hnew d (List.mem_cons_self ..)
    have hrest := ih fun x hx => hnew x (List.mem_cons_of_mem _ hx)
    rw [insertCategoryEdge]
    split
    · by_cases h : c = e.category
      · simp [h]
      · simp [h, Ne.symm h]
    · rw [List.find?_cons, hrest, List.find?_cons]
      by_cases h : d.category = c
      · have hc : c ≠ e.category := h ▸ hd
        simp [h, hc]
      · simp [h]

theorem pairwise_insertWordEdge {w : WordId} {child : NodeId} {es : List (WordId × NodeId)}
    (hes : es.Pairwise fun a b => a.1.index < b.1.index) (hnew : ∀ e ∈ es, e.1 ≠ w) :
    (insertWordEdge w child es).Pairwise fun a b => a.1.index < b.1.index := by
  induction es with
  | nil => simp [insertWordEdge]
  | cons e rest ih =>
    have hafter : ∀ x ∈ rest, e.1.index < x.1.index := fun x hx =>
      List.rel_of_pairwise_cons hes hx
    rw [insertWordEdge]
    split
    next hlt =>
      refine .cons (fun x hx => ?_) hes
      rcases List.mem_cons.mp hx with rfl | hx
      · exact hlt
      · exact Nat.lt_trans hlt (hafter x hx)
    next hle =>
      -- the new edge goes further back, and its number is not that of this edge
      refine .cons (fun x hx => ?_) (ih hes.of_cons fun x hx => hnew x (List.mem_cons_of_mem _ hx))
      rcases mem_insertWordEdge.mp hx with rfl | hx
      · have hne : e.1.index ≠ w.index := fun h =>
          hnew e (List.mem_cons_self ..) (congrArg WordId.mk h)
        show e.1.index < w.index
        omega
      · exact hafter x hx

theorem Ordered.addWordEdge {n : Node} (hn : n.Ordered) {w : WordId} (hw : n.child? w = none)
    (child : NodeId) : (n.addWordEdge w child).Ordered :=
  ⟨pairwise_insertWordEdge hn.words (child?_eq_none_iff.mp hw), hn.categories⟩

theorem Ordered.addCategoryEdge {n : Node} (hn : n.Ordered) {e : CategoryEdge}
    (he : n.categoryEdge? e.category = none) : (n.addCategoryEdge e).Ordered :=
  ⟨hn.words, pairwise_insertCategoryEdge hn.categories (categoryEdge?_eq_none_iff.mp he)⟩

theorem categoryEdge?_addCategoryEdge {n : Node} {e : CategoryEdge}
    (he : n.categoryEdge? e.category = none) (c : Category) :
    (n.addCategoryEdge e).categoryEdge? c =
      if c = e.category then some e else n.categoryEdge? c :=
  find?_insertCategoryEdge (categoryEdge?_eq_none_iff.mp he) c

@[simp] theorem wordEdges_markEntry (n : Node) : n.markEntry.wordEdges = n.wordEdges := by
  unfold markEntry
  split <;> rfl

@[simp] theorem categoryEdges_markEntry (n : Node) :
    n.markEntry.categoryEdges = n.categoryEdges := by
  unfold markEntry
  split <;> rfl

end Node

end Headword
