import Headword.Proofs.Trie.Building

/-!
# Finding category edges by halving

The category edges of a node are in the order of the categories, so an edge can be found by halving the
row, and where there is none the search ends at the place at which the edge would go.  Categories are added
to nodes in this way with the same outcome.
-/

namespace Headword

/-- Looks for the last place that is reached among `size` places from `base` on, where all places are
reached up to some point and none are after it.  Half of the places are put aside at a time, and the
first one is taken for reached. -/
def lastReached (reached : Nat → Bool) (base size : Nat) : Nat :=
  if size ≤ 1 then base
  else if reached (base + size / 2) then lastReached reached (base + size / 2) (size - size / 2)
  else lastReached reached base (size - size / 2)
termination_by size
decreasing_by all_goals omega

/-- The search ends at the last place that is reached, or at the first one if none is. -/
theorem lastReached_spec {reached : Nat → Bool}
    (hmono : ∀ i j, i ≤ j → reached j = true → reached i = true) (base : Nat) {size : Nat}
    (hsize : 0 < size) :
    base ≤ lastReached reached base size ∧ lastReached reached base size < base + size ∧
      (base < lastReached reached base size → reached (lastReached reached base size) = true) ∧
      ∀ i, lastReached reached base size < i → i < base + size → reached i = false := by
  fun_induction lastReached reached base size with
  | case1 base size hle =>
    refine ⟨Nat.le_refl _, by omega, fun hlt => absurd hlt (Nat.lt_irrefl _), fun i hi hlt => ?_⟩
    omega
  | case2 base size hlt hmid ih =>
    obtain ⟨hle, hbound, hlast, hafter⟩ := ih (by omega)
    refine ⟨by omega, by omega, fun _ => ?_, fun i hi hi' => hafter i hi (by omega)⟩
    rcases Nat.lt_or_eq_of_le hle with hlt' | heq
    · exact hlast hlt'
    · rw [← heq]
      exact hmid
  | case3 base size hlt hmid ih =>
    obtain ⟨hle, hbound, hlast, hafter⟩ := ih (by omega)
    refine ⟨hle, by omega, hlast, fun i hi hi' => ?_⟩
    by_cases hnear : i < base + (size - size / 2)
    · exact hafter i hi hnear
    · -- the place lies after the middle, which is not reached
      rw [← Bool.not_eq_true]
      intro hreached
      exact hmid (hmono _ _ (by omega) hreached)

namespace Node

/-- Tells if there is an edge at a place and it is not for a later category. -/
def notLater (n : Node) (c : Category) (place : Nat) : Bool :=
  n.categoryEdges[place]?.any fun e => decide (e.category.rank ≤ c.rank)

/-- The edge for a category, or the place among the category edges at which it would go. -/
def searchCategory (n : Node) (c : Category) : Except Nat CategoryEdge :=
  let place := lastReached (n.notLater c) 0 n.categoryEdges.length
  match n.categoryEdges[place]? with
  | none => .error 0
  | some e =>
    if e.category = c then .ok e
    else if e.category.rank < c.rank then .error (place + 1)
    else .error place

/-- The place between the edges for earlier and those for later categories. -/
structure FitsAt (es : List CategoryEdge) (c : Category) (place : Nat) : Prop where
  before : ∀ e ∈ es.take place, e.category.rank < c.rank
  after : ∀ e ∈ es.drop place, c.rank < e.category.rank

theorem FitsAt.of_getElem {es : List CategoryEdge} {c : Category} {place : Nat}
    (hbefore : ∀ i (hi : i < es.length), i < place → es[i].category.rank < c.rank)
    (hafter : ∀ i (hi : i < es.length), place ≤ i → c.rank < es[i].category.rank) :
    FitsAt es c place where
  before := by
    intro e he
    obtain ⟨i, hi, rfl⟩ := List.mem_take_iff_getElem.mp he
    exact hbefore i (by omega) (by omega)
  after := by
    intro e he
    obtain ⟨i, hi, rfl⟩ := List.mem_drop_iff_getElem.mp he
    exact hafter _ (by omega) (by omega)

theorem FitsAt.category_ne {es : List CategoryEdge} {c : Category} {place : Nat}
    (h : FitsAt es c place) : ∀ e ∈ es, e.category ≠ c := by
  intro e he hc
  rw [← List.take_append_drop place es, List.mem_append] at he
  rcases he with he | he
  · exact Nat.lt_irrefl _ (hc ▸ h.before e he)
  · exact Nat.lt_irrefl _ (hc ▸ h.after e he)

/-- An edge goes before the first edge for a later category. -/
theorem FitsAt.insertCategoryEdge_eq {es : List CategoryEdge} {e : CategoryEdge} {place : Nat}
    (h : FitsAt es e.category place) (hle : place ≤ es.length) :
    insertCategoryEdge e es = es.insertIdx place e := by
  induction es generalizing place with
  | nil =>
    obtain rfl : place = 0 := Nat.le_zero.mp hle
    rfl
  | cons d rest ih =>
    cases place with
    | zero =>
      rw [insertCategoryEdge, if_pos (h.after d (List.mem_cons_self ..)), List.insertIdx_zero]
    | succ place =>
      have hd : d.category.rank < e.category.rank := h.before d (List.mem_cons_self ..)
      have hrest : FitsAt rest e.category place :=
        ⟨fun x hx => h.before x (List.mem_cons_of_mem _ hx), h.after⟩
      rw [insertCategoryEdge, if_neg (by omega), List.insertIdx_succ_cons,
        ih hrest (Nat.le_of_succ_le_succ hle)]

theorem notLater_iff {n : Node} {c : Category} {place : Nat} : n.notLater c place = true ↔
    ∃ h : place < n.categoryEdges.length, n.categoryEdges[place].category.rank ≤ c.rank := by
  rw [notLater, Option.any_eq_true]
  simp only [List.getElem?_eq_some_iff, decide_eq_true_eq]
  constructor
  · rintro ⟨e, ⟨hlt, rfl⟩, hle⟩
    exact ⟨hlt, hle⟩
  · rintro ⟨hlt, hle⟩
    exact ⟨_, ⟨hlt, rfl⟩, hle⟩

theorem Ordered.rank_lt {n : Node} (hn : n.Ordered) {i j : Nat} (hij : i < j)
    (hj : j < n.categoryEdges.length) :
    n.categoryEdges[i].category.rank < n.categoryEdges[j].category.rank :=
  List.pairwise_iff_getElem.mp hn.categories i j _ hj hij

theorem Ordered.rank_le {n : Node} (hn : n.Ordered) {i j : Nat} (hij : i ≤ j)
    (hj : j < n.categoryEdges.length) :
    n.categoryEdges[i].category.rank ≤ n.categoryEdges[j].category.rank := by
  rcases Nat.lt_or_eq_of_le hij with hlt | rfl
  · exact Nat.le_of_lt (hn.rank_lt hlt hj)
  · exact Nat.le_refl _

/-- Up to the last edge that is not for a later category all edges are such, and it is the first edge if
there are none. -/
theorem Ordered.lastNotLater_spec {n : Node} (hn : n.Ordered) (c : Category)
    (hpos : 0 < n.categoryEdges.length) :
    ∃ place, lastReached (n.notLater c) 0 n.categoryEdges.length = place ∧
      ∃ h : place < n.categoryEdges.length,
        (place = 0 ∨ n.categoryEdges[place].category.rank ≤ c.rank) ∧
        ∀ i (hi : i < n.categoryEdges.length), place < i →
          c.rank < n.categoryEdges[i].category.rank := by
  have hmono : ∀ i j, i ≤ j → n.notLater c j = true → n.notLater c i = true := by
    intro i j hij hj
    obtain ⟨hlt, hle⟩ := notLater_iff.mp hj
    exact notLater_iff.mpr ⟨by omega, Nat.le_trans (hn.rank_le hij hlt) hle⟩
  obtain ⟨-, hlt, hlast, hafter⟩ := lastReached_spec hmono 0 hpos
  rw [Nat.zero_add] at hlt hafter
  refine ⟨_, rfl, hlt, ?_, fun i hi hplace => ?_⟩
  · exact (Nat.eq_zero_or_pos _).imp_right fun h => (notLater_iff.mp (hlast h)).2
  · apply Nat.lt_of_not_le
    intro hle
    have hnot := hafter i hplace hi
    rw [notLater_iff.mpr ⟨hi, hle⟩] at hnot
    cases hnot

/-- A search in edges that are in order finds the one for the category, or the place for it. -/
theorem Ordered.searchCategory_spec {n : Node} (hn : n.Ordered) (c : Category) :
    (∃ e, n.searchCategory c = .ok e ∧ n.categoryEdge? c = some e) ∨
      ∃ place, n.searchCategory c = .error place ∧ place ≤ n.categoryEdges.length ∧
        FitsAt n.categoryEdges c place := by
  rcases Nat.eq_zero_or_pos n.categoryEdges.length with hempty | hpos
  · have hnil : n.categoryEdges = [] := List.length_eq_zero_iff.mp hempty
    refine .inr ⟨0, ?_, Nat.zero_le _, ?_⟩
    · simp only [searchCategory, hnil, List.getElem?_nil]
    · rw [hnil]
      exact .of_getElem (fun i hi => nomatch hi) fun i hi => nomatch hi
  · obtain ⟨place, hplace, hlt, hlast, hlater⟩ := hn.lastNotLater_spec c hpos
    simp only [searchCategory, hplace, List.getElem?_eq_getElem hlt]
    split
    next hc =>
      exact .inl ⟨_, rfl, (categoryEdge?_eq_some_iff hn).mpr ⟨List.getElem_mem hlt, hc⟩⟩
    next hc =>
      have hne := mt Category.rank_inj.mp hc
      split
      next hearlier =>
        refine .inr ⟨place + 1, rfl, hlt, .of_getElem (fun i hi hle => ?_) hlater⟩
        exact Nat.lt_of_le_of_lt (hn.rank_le (Nat.le_of_lt_succ hle) hlt) hearlier
      next hnot =>
        -- even the first edge is for a later category
        obtain rfl : place = 0 := hlast.resolve_right (by omega)
        refine .inr ⟨0, rfl, Nat.zero_le _, .of_getElem (fun i _ hi => nomatch hi) fun i hi _ => ?_⟩
        have hfirst := hn.rank_le (Nat.zero_le i) hi
        omega

end Node

namespace Trie

/-- Two changes that do the same to the node are the same change. -/
theorem modify_congr {t : Trie} {id : NodeId} {f g : Node → Node}
    (h : f (t.node id) = g (t.node id)) : t.modify id f = t.modify id g := by
  apply ext_node
  · rw [size_modify, size_modify]
  · intro i
    rw [node_modify, node_modify, h]

/-- The edge of a node for a category, found by halving.  If there is none, an edge into the subtree at
`root` is made, with a new node at which to resume, and goes to the place where the search ended. -/
def categoryChildByHalving (t : Trie) (parent : NodeId) (c : Category) (root : NodeId) :
    CategoryEdge × Trie :=
  match (t.node parent).searchCategory c with
  | .ok edge => (edge, t)
  | .error place =>
    let (resume, t) := t.alloc
    (⟨c, root, resume⟩, t.modify parent fun n =>
      { n with categoryEdges := n.categoryEdges.insertIdx place ⟨c, root, resume⟩ })

/-- Where edges are in order, halving finds and leaves what going through them does. -/
theorem categoryChildByHalving_eq {t : Trie} {parent : NodeId} (h : (t.node parent).Ordered)
    (c : Category) (root : NodeId) :
    t.categoryChildByHalving parent c root = t.categoryChild parent c root := by
  rcases h.searchCategory_spec c with ⟨e, hsearch, he⟩ | ⟨place, hsearch, hle, hfits⟩
  · rw [categoryChildByHalving, categoryChild, hsearch, he]
  · have hnone := Node.categoryEdge?_eq_none_iff.mpr hfits.category_ne
    rw [categoryChildByHalving, hsearch, categoryChild_of_eq_none hnone]
    show (_, t.alloc.2.modify parent _) = _
    apply congrArg (Prod.mk _)
    apply modify_congr
    rw [node_alloc, Node.addCategoryEdge, hfits.insertCategoryEdge_eq hle]

end Trie

end Headword
