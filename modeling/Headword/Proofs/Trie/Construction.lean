import Mathlib.Data.List.Sort
import Headword.Trie.Cursor
import Headword.Proofs.Trie.Halving

/-!
# Tries under construction

A trie is made from nothing by operations on nodes that are there.  In every trie that comes about in this
way the edges lead to nodes that are there and stay in order.  An operation changes one node at most and
adds one at most, and what it adds stays, so it gives the same when it is repeated later.
-/

namespace Headword

/-- How far the ending of a node has come. -/
def Ending.rank : Ending → Nat
  | .nothing => 0
  | .entry => 1
  | .template => 2

namespace Node

/-! ## Sound nodes -/

/-- The edges of a node are in order and lead to nodes below a number. -/
structure Sound (n : Node) (size : Nat) : Prop where
  child_lt : ∀ e ∈ n.wordEdges, e.2.index < size
  root_lt : ∀ e ∈ n.categoryEdges, e.root.index < size
  resume_lt : ∀ e ∈ n.categoryEdges, e.resume.index < size
  ordered : n.Ordered

namespace Sound

variable {n : Node} {size : Nat}

theorem default (size : Nat) : Sound {} size :=
  ⟨fun _ he => (List.not_mem_nil he).elim, fun _ he => (List.not_mem_nil he).elim,
    fun _ he => (List.not_mem_nil he).elim, ordered_default⟩

theorem mono (h : n.Sound size) {size' : Nat} (hle : size ≤ size') : n.Sound size' where
  child_lt e he := Nat.lt_of_lt_of_le (h.child_lt e he) hle
  root_lt e he := Nat.lt_of_lt_of_le (h.root_lt e he) hle
  resume_lt e he := Nat.lt_of_lt_of_le (h.resume_lt e he) hle
  ordered := h.ordered

theorem addWordEdge (h : n.Sound size) {w : WordId} (hw : n.child? w = none) {child : NodeId}
    (hchild : child.index < size) : (n.addWordEdge w child).Sound size where
  child_lt := by
    intro e he
    rcases mem_insertWordEdge.mp he with rfl | he
    · exact hchild
    · exact h.child_lt e he
  root_lt := h.root_lt
  resume_lt := h.resume_lt
  ordered := h.ordered.addWordEdge hw child

theorem addCategoryEdge (h : n.Sound size) {e : CategoryEdge}
    (he : n.categoryEdge? e.category = none) (hroot : e.root.index < size)
    (hresume : e.resume.index < size) : (n.addCategoryEdge e).Sound size where
  child_lt := h.child_lt
  root_lt := by
    intro d hd
    rcases mem_insertCategoryEdge.mp hd with rfl | hd
    · exact hroot
    · exact h.root_lt d hd
  resume_lt := by
    intro d hd
    rcases mem_insertCategoryEdge.mp hd with rfl | hd
    · exact hresume
    · exact h.resume_lt d hd
  ordered := h.ordered.addCategoryEdge he

/-- What is complete at a node has nothing to do with its edges. -/
theorem of_edges_eq (h : n.Sound size) {m : Node} (hwords : m.wordEdges = n.wordEdges)
    (hcategories : m.categoryEdges = n.categoryEdges) : m.Sound size where
  child_lt := hwords ▸ h.child_lt
  root_lt := hcategories ▸ h.root_lt
  resume_lt := hcategories ▸ h.resume_lt
  ordered := ⟨hwords ▸ h.ordered.words, hcategories ▸ h.ordered.categories⟩

end Sound

/-! ## Nodes that grow -/

/-- The second node has what the first one has: its edges, and an ending that has come as far. -/
structure Grows (n m : Node) : Prop where
  child? : ∀ w j, n.child? w = some j → m.child? w = some j
  categoryEdge? : ∀ c e, n.categoryEdge? c = some e → m.categoryEdge? c = some e
  ending_le : n.ending.rank ≤ m.ending.rank

namespace Grows

theorem refl (n : Node) : n.Grows n :=
  ⟨fun _ _ h => h, fun _ _ h => h, Nat.le_refl _⟩

theorem trans {n m k : Node} (h : n.Grows m) (h' : m.Grows k) : n.Grows k where
  child? w j hj := h'.child? w j (h.child? w j hj)
  categoryEdge? c e he := h'.categoryEdge? c e (h.categoryEdge? c e he)
  ending_le := Nat.le_trans h.ending_le h'.ending_le

/-- A new edge is for a word that had none. -/
theorem addWordEdge {n : Node} {w : WordId} (hw : n.child? w = none) (child : NodeId) :
    n.Grows (n.addWordEdge w child) where
  child? := by
    intro v j hj
    have hne : v ≠ w := by
      rintro rfl
      rw [hw] at hj
      cases hj
    rw [child?_addWordEdge hw, if_neg hne, hj]
  categoryEdge? _ _ he := he
  ending_le := Nat.le_refl _

theorem addCategoryEdge {n : Node} {e : CategoryEdge} (he : n.categoryEdge? e.category = none) :
    n.Grows (n.addCategoryEdge e) where
  child? _ _ hj := hj
  categoryEdge? := by
    intro c d hd
    have hne : c ≠ e.category := by
      rintro rfl
      rw [he] at hd
      cases hd
    rw [categoryEdge?_addCategoryEdge he, if_neg hne, hd]
  ending_le := Nat.le_refl _

theorem markTemplate (n : Node) : n.Grows n.markTemplate where
  child? _ _ hj := hj
  categoryEdge? _ _ he := he
  ending_le := by
    show n.ending.rank ≤ 2
    cases n.ending <;> decide

theorem markEntry (n : Node) : n.Grows n.markEntry where
  child? w j hj := by rw [child?_congr (wordEdges_markEntry n), hj]
  categoryEdge? c e he := by rw [Node.categoryEdge?, categoryEdges_markEntry]; exact he
  ending_le := by
    unfold Node.markEntry
    split
    next hnothing =>
      rw [hnothing]
      exact Nat.zero_le _
    next => exact Nat.le_refl _

end Grows

end Node

namespace Trie

variable {t t' : Trie} {p : NodeId}

/-! ## Operations -/

/-- What a trie is made by. -/
inductive Operation
  | alloc
  | wordChild (parent : NodeId) (w : WordId)
  | categoryChild (parent : NodeId) (c : Category) (root : NodeId)
  | markTemplate (id : NodeId)
  | markEntry (id : NodeId)
  deriving DecidableEq

/-- The node that an operation may change. -/
def Operation.target? : Operation → Option NodeId
  | .alloc => none
  | .wordChild parent _ => some parent
  | .categoryChild parent _ _ => some parent
  | .markTemplate id => some id
  | .markEntry id => some id

/-- The nodes that an operation names are there.  The entries of a category may also start at the node
that is made for its edge. -/
def Operation.Valid (t : Trie) : Operation → Prop
  | .alloc => True
  | .wordChild parent _ => parent.index < t.size
  | .categoryChild parent _ root => parent.index < t.size ∧ root.index ≤ t.size
  | .markTemplate id => id.index < t.size
  | .markEntry id => id.index < t.size

instance (t : Trie) : (op : Operation) → Decidable (op.Valid t)
  | .alloc => inferInstanceAs (Decidable True)
  | .wordChild parent _ => inferInstanceAs (Decidable (parent.index < t.size))
  | .categoryChild parent _ root =>
    inferInstanceAs (Decidable (parent.index < t.size ∧ root.index ≤ t.size))
  | .markTemplate id => inferInstanceAs (Decidable (id.index < t.size))
  | .markEntry id => inferInstanceAs (Decidable (id.index < t.size))

def perform (t : Trie) : Operation → Trie
  | .alloc => t.alloc.2
  | .wordChild parent w => (t.wordChild parent w).2
  | .categoryChild parent c root => (t.categoryChild parent c root).2
  | .markTemplate id => t.markTemplate id
  | .markEntry id => t.markEntry id

/-- A trie comes from another one by operations, each on nodes that are there when its turn comes. -/
inductive LeadsTo (t : Trie) : Trie → Prop
  | refl : t.LeadsTo t
  | step {t' : Trie} (op : Operation) : t.LeadsTo t' → op.Valid t' → t.LeadsTo (t'.perform op)

/-- All that an operation can do: add a bare node or not, and change its target for the better or not. -/
inductive Effect (t : Trie) (target : Option NodeId) : Trie → Prop
  | nothing : t.Effect target t
  | add : t.Effect target t.alloc.2
  | change (p : NodeId) (f : Node → Node) : target = some p → p.index < t.size →
      (t.node p).Grows (f (t.node p)) →
      ((t.node p).Sound t.size → (f (t.node p)).Sound t.size) → t.Effect target (t.modify p f)
  | addAndChange (p : NodeId) (f : Node → Node) : target = some p → p.index < t.size →
      (t.node p).Grows (f (t.node p)) →
      ((t.node p).Sound (t.size + 1) → (f (t.node p)).Sound (t.size + 1)) →
      t.Effect target (t.alloc.2.modify p f)

theorem effect_perform {op : Operation} (hop : op.Valid t) : t.Effect op.target? (t.perform op) := by
  cases op with
  | alloc => exact .add
  | wordChild p w =>
    show t.Effect (some p) (t.wordChild p w).2
    cases hch : (t.node p).child? w with
    | some j =>
      rw [wordChild_of_eq_some hch]
      exact .nothing
    | none =>
      rw [wordChild_of_eq_none hch]
      exact .addAndChange p _ rfl hop (.addWordEdge hch _) fun h =>
        h.addWordEdge hch (Nat.lt_succ_self _)
  | categoryChild p c r =>
    show t.Effect (some p) (t.categoryChild p c r).2
    cases hch : (t.node p).categoryEdge? c with
    | some e =>
      rw [categoryChild_of_eq_some hch]
      exact .nothing
    | none =>
      rw [categoryChild_of_eq_none hch]
      exact .addAndChange p _ rfl hop.1 (.addCategoryEdge hch) fun h =>
        h.addCategoryEdge hch (Nat.lt_succ_of_le hop.2) (Nat.lt_succ_self _)
  | markTemplate i =>
    exact .change i _ rfl hop (.markTemplate _) fun h => h.of_edges_eq rfl rfl
  | markEntry i =>
    exact .change i _ rfl hop (.markEntry _) fun h =>
      h.of_edges_eq (Node.wordEdges_markEntry _) (Node.categoryEdges_markEntry _)

/-! ## Sound tries -/

/-- The edges of every node are in order and lead to nodes that are there. -/
def Sound (t : Trie) : Prop :=
  ∀ i, (t.node i).Sound t.size

namespace Sound

theorem empty : Trie.empty.Sound := by
  intro i
  rw [node_of_size_le (Nat.zero_le _)]
  exact .default _

theorem alloc (h : t.Sound) : t.alloc.2.Sound := by
  intro i
  rw [node_alloc, size_alloc]
  exact (h i).mono (Nat.le_succ _)

theorem modify (h : t.Sound) {f : Node → Node} (hf : (f (t.node p)).Sound t.size) :
    (t.modify p f).Sound := by
  intro i
  rw [node_modify, size_modify]
  split
  · exact hf
  · exact h i

theorem effect (h : t.Sound) {target : Option NodeId} (he : t.Effect target t') : t'.Sound := by
  cases he with
  | nothing => exact h
  | add => exact h.alloc
  | change p f _ _ _ hf => exact h.modify (hf (h p))
  | addAndChange p f _ _ _ hf =>
    apply h.alloc.modify
    rw [node_alloc, size_alloc]
    exact hf ((h p).mono (Nat.le_succ _))

theorem leadsTo (h : t.Sound) (hl : t.LeadsTo t') : t'.Sound := by
  induction hl with
  | refl => exact h
  | step op _ hop ih => exact ih.effect (effect_perform hop)

end Sound

/-! ## One node changed and one added -/

/-- The second trie is the first one with one more node at most, which is bare, and with no other node
changed than the target. -/
structure Changes (t : Trie) (target : Option NodeId) (t' : Trie) : Prop where
  size_eq : t'.size = t.size ∨ t'.size = t.size + 1
  node_eq : ∀ i, i.index < t.size → some i ≠ target → t'.node i = t.node i
  bare : t'.node ⟨t.size⟩ = {}

namespace Changes

variable {target : Option NodeId}

theorem refl (t : Trie) (target : Option NodeId) : t.Changes target t :=
  ⟨.inl rfl, fun _ _ _ => rfl, node_of_size_le (Nat.le_refl _)⟩

theorem alloc (t : Trie) (target : Option NodeId) : t.Changes target t.alloc.2 where
  size_eq := .inr (size_alloc t)
  node_eq _ _ _ := node_alloc ..
  bare := by
    rw [node_alloc]
    exact node_of_size_le (Nat.le_refl _)

theorem modify (h : t.Changes (some p) t') (hp : p.index < t.size) (f : Node → Node) :
    t.Changes (some p) (t'.modify p f) where
  size_eq := by
    rw [size_modify]
    exact h.size_eq
  node_eq i hi hne := by
    have hip : ¬(i = p ∧ p.index < t'.size) := fun hip => hne (congrArg some hip.1)
    rw [node_modify, if_neg hip, h.node_eq i hi hne]
  bare := by
    have hip : ¬((⟨t.size⟩ : NodeId) = p ∧ p.index < t'.size) := by
      rintro ⟨rfl, -⟩
      exact Nat.lt_irrefl _ hp
    rw [node_modify, if_neg hip, h.bare]

end Changes

theorem Effect.changes {target : Option NodeId} (h : t.Effect target t') : t.Changes target t' := by
  cases h with
  | nothing => exact .refl t target
  | add => exact .alloc t target
  | change p f htarget hp =>
    subst htarget
    exact (Changes.refl t _).modify hp f
  | addAndChange p f htarget hp =>
    subst htarget
    exact (Changes.alloc t _).modify hp f

/-! ## What stays -/

/-- The second trie has what the first one has: its nodes, their edges and endings. -/
structure Grows (t t' : Trie) : Prop where
  size_le : t.size ≤ t'.size
  node : ∀ i, (t.node i).Grows (t'.node i)

namespace Grows

theorem refl (t : Trie) : t.Grows t :=
  ⟨Nat.le_refl _, fun _ => .refl _⟩

theorem trans {t'' : Trie} (h : t.Grows t') (h' : t'.Grows t'') : t.Grows t'' :=
  ⟨Nat.le_trans h.size_le h'.size_le, fun i => (h.node i).trans (h'.node i)⟩

theorem alloc (t : Trie) : t.Grows t.alloc.2 := by
  refine ⟨?_, fun i => ?_⟩
  · rw [size_alloc]
    exact Nat.le_succ _
  · rw [node_alloc]
    exact .refl _

theorem modify {f : Node → Node} (hf : (t.node p).Grows (f (t.node p))) : t.Grows (t.modify p f) :=
  ⟨Nat.le_of_eq (size_modify t p f).symm, modify_keeps hf .refl⟩

end Grows

theorem Effect.grows {target : Option NodeId} (h : t.Effect target t') : t.Grows t' := by
  cases h with
  | nothing => exact .refl t
  | add => exact .alloc t
  | change p f _ _ hf => exact .modify hf
  | addAndChange p f _ _ hf =>
    apply (Grows.alloc t).trans
    apply Grows.modify
    rw [node_alloc]
    exact hf

theorem LeadsTo.grows (h : t.LeadsTo t') : t.Grows t' := by
  induction h with
  | refl => exact .refl t
  | step op _ hop ih => exact ih.trans (effect_perform hop).grows

/-- The child that is given out is the child. -/
theorem child?_wordChild (hp : p.index < t.size) (w : WordId) :
    ((t.wordChild p w).2.node p).child? w = some (t.wordChild p w).1 := by
  cases hch : (t.node p).child? w with
  | some j => rw [wordChild_of_eq_some hch, hch]
  | none =>
    rw [wordChild_of_eq_none hch, node_modify_alloc hp, if_pos rfl, Node.child?_addWordEdge hch,
      if_pos rfl]

theorem categoryEdge?_categoryChild (hp : p.index < t.size) (c : Category) (r : NodeId) :
    ((t.categoryChild p c r).2.node p).categoryEdge? c = some (t.categoryChild p c r).1 := by
  cases hch : (t.node p).categoryEdge? c with
  | some e => rw [categoryChild_of_eq_some hch, hch]
  | none =>
    rw [categoryChild_of_eq_none hch, node_modify_alloc hp, if_pos rfl,
      Node.categoryEdge?_addCategoryEdge hch, if_pos rfl]

/-- However the trie has grown, the child is given out again, and nothing is made. -/
theorem wordChild_of_grows (hp : p.index < t.size) {w : WordId} (h : (t.wordChild p w).2.Grows t') :
    t'.wordChild p w = ((t.wordChild p w).1, t') :=
  wordChild_of_eq_some ((h.node p).child? w _ (child?_wordChild hp w))

theorem categoryChild_of_grows (hp : p.index < t.size) {c : Category} {r : NodeId}
    (h : (t.categoryChild p c r).2.Grows t') (r' : NodeId) :
    t'.categoryChild p c r' = ((t.categoryChild p c r).1, t') :=
  categoryChild_of_eq_some ((h.node p).categoryEdge? c _ (categoryEdge?_categoryChild hp c r))

end Trie

/-! ## Branches in order -/

/-- A category has one edge at most. -/
theorem Node.Ordered.eq_of_category_eq {n : Node} (hn : n.Ordered) {d e : CategoryEdge}
    (hd : d ∈ n.categoryEdges) (he : e ∈ n.categoryEdges) (hcat : d.category = e.category) : d = e := by
  have hfound := (categoryEdge?_eq_some_iff hn).mpr ⟨hd, hcat⟩
  rw [(categoryEdge?_eq_some_iff hn).mpr ⟨he, rfl⟩] at hfound
  exact (Option.some.inj hfound).symm

/-- The category edges of a node are those that the categories have, in their order. -/
theorem Node.Ordered.categoryEdges_eq {n : Node} (hn : n.Ordered) :
    n.categoryEdges = Category.all.filterMap n.categoryEdge? := by
  have hlookup : (Category.all.filterMap n.categoryEdge?).Pairwise
      fun d e => d.category.rank < e.category.rank := by
    rw [List.pairwise_filterMap]
    apply Category.all_pairwise_rank.imp
    intro a b hab d hd e he
    rw [((categoryEdge?_eq_some_iff hn).mp hd).2, ((categoryEdge?_eq_some_iff hn).mp he).2]
    exact hab
  have : Std.Irrefl fun d e : CategoryEdge => d.category.rank < e.category.rank :=
    ⟨fun _ => Nat.lt_irrefl _⟩
  have : Std.Antisymm fun d e : CategoryEdge => d.category.rank < e.category.rank :=
    ⟨fun _ _ hde hed => absurd hed (Nat.lt_asymm hde)⟩
  -- both rows are in order, so they are the same if they have the same edges
  apply hn.categories.eq_of_mem_iff hlookup
  intro e
  rw [List.mem_filterMap]
  constructor
  · intro he
    exact ⟨e.category, Category.mem_all _, (categoryEdge?_eq_some_iff hn).mpr ⟨he, rfl⟩⟩
  · rintro ⟨c, -, he⟩
    exact ((categoryEdge?_eq_some_iff hn).mp he).1

namespace Trie

variable {t t' : Trie} {p : NodeId}

/-- The branches of a node: its child, and then for each category in turn the child of the root at which
its entries start. -/
theorem branches_eq (h : (t.node p).Ordered) (w : WordId) :
    t.branches p w = (((t.node p).child? w).map fun j => ⟨j, none⟩).toList ++
      Category.all.filterMap fun c => do
        let e ← (t.node p).categoryEdge? c
        let j ← (t.node e.root).child? w
        return ⟨j, some e.resume⟩ := by
  rw [branches, h.categoryEdges_eq, List.filterMap_filterMap]
  congr 2
  funext c
  cases hc : (t.node p).categoryEdge? c with
  | none => rfl
  | some e =>
    show e.enter? t w = ((t.node e.root).child? w).bind fun j => some ⟨j, some e.resume⟩
    rw [CategoryEdge.enter?, Option.map_eq_bind]
    rfl

/-- In a trie that is made from nothing the edges lead to nodes that are there, in order and one for each
category at most.  Each operation changes the node it names and adds a bare one at most, endings only go
up, and an edge that has been given out is given out from then on.  A word leads to the child first and
then into the categories in turn, and to look for categories by halving is no different. -/
theorem edges_made_for_good (h : empty.LeadsTo t) :
    t.Sound ∧
    (∀ i, ∀ d ∈ (t.node i).categoryEdges, ∀ e ∈ (t.node i).categoryEdges,
      d.category = e.category → d = e) ∧
    (∀ op : Operation, op.Valid t → t.Changes op.target? (t.perform op)) ∧
    (∀ t', t.LeadsTo t' → t.Grows t') ∧
    (∀ p w t', p.index < t.size → (t.wordChild p w).2.LeadsTo t' →
      t'.wordChild p w = ((t.wordChild p w).1, t')) ∧
    (∀ p c root root' t', p.index < t.size → (t.categoryChild p c root).2.LeadsTo t' →
      t'.categoryChild p c root' = ((t.categoryChild p c root).1, t')) ∧
    (∀ p w, t.branches p w = (((t.node p).child? w).map fun j => ⟨j, none⟩).toList ++
      Category.all.filterMap fun c => do
        let e ← (t.node p).categoryEdge? c
        let j ← (t.node e.root).child? w
        return ⟨j, some e.resume⟩) ∧
    ∀ p c root, t.categoryChildByHalving p c root = t.categoryChild p c root := by
  have hsound : t.Sound := Sound.empty.leadsTo h
  refine ⟨hsound, ?_, fun op hop => (effect_perform hop).changes, fun t' => LeadsTo.grows, ?_, ?_, ?_, ?_⟩
  · intro i d hd e he hcat
    exact (hsound i).ordered.eq_of_category_eq hd he hcat
  · intro p w t' hp hlater
    exact wordChild_of_grows hp hlater.grows
  · intro p c root root' t' hp hlater
    exact categoryChild_of_grows hp hlater.grows root'
  · intro p w
    exact branches_eq (hsound p).ordered w
  · intro p c root
    exact categoryChildByHalving_eq (hsound p).ordered c root

/-- A node with an edge for verbs and a later one for articles, both into one subtree. -/
def articleAfterVerb : Trie :=
  [.alloc, .alloc, .categoryChild ⟨0⟩ .verb ⟨1⟩, .wordChild ⟨1⟩ ⟨0⟩,
    .categoryChild ⟨0⟩ .article ⟨1⟩].foldl perform empty

/-- The edge for articles comes first.  A word is added to the subtree and an entry marked after it, and
both the word and the verbs lead where they did. -/
theorem edges_made_for_good_article_verb :
    articleAfterVerb.Changes (some ⟨3⟩) (articleAfterVerb.perform (.markEntry ⟨3⟩)) ∧
    articleAfterVerb.Grows (articleAfterVerb.perform (.markEntry ⟨3⟩)) ∧
    ((articleAfterVerb.wordChild ⟨1⟩ ⟨1⟩).2.perform (.markEntry ⟨5⟩)).wordChild ⟨1⟩ ⟨1⟩ =
      (⟨5⟩, (articleAfterVerb.wordChild ⟨1⟩ ⟨1⟩).2.perform (.markEntry ⟨5⟩)) ∧
    ((articleAfterVerb.categoryChild ⟨0⟩ .verb ⟨1⟩).2.perform (.markEntry ⟨3⟩)).categoryChild ⟨0⟩ .verb
      ⟨1⟩ = (⟨.verb, ⟨1⟩, ⟨2⟩⟩,
        (articleAfterVerb.categoryChild ⟨0⟩ .verb ⟨1⟩).2.perform (.markEntry ⟨3⟩)) ∧
    articleAfterVerb.branches ⟨0⟩ ⟨0⟩ = [⟨⟨3⟩, some ⟨4⟩⟩, ⟨⟨3⟩, some ⟨2⟩⟩] := by
  have hmade : empty.LeadsTo articleAfterVerb := by
    apply LeadsTo.step (.categoryChild ⟨0⟩ .article ⟨1⟩) _ (by decide)
    apply LeadsTo.step (.wordChild ⟨1⟩ ⟨0⟩) _ (by decide)
    apply LeadsTo.step (.categoryChild ⟨0⟩ .verb ⟨1⟩) _ (by decide)
    apply LeadsTo.step .alloc _ (by decide)
    exact .step .alloc .refl (by decide)
  obtain ⟨-, -, hchanges, hgrows, hword, hcategory, hbranches, -⟩ := edges_made_for_good hmade
  refine ⟨hchanges (.markEntry ⟨3⟩) (by decide), ?_, ?_, ?_, ?_⟩
  · exact hgrows _ (.step (.markEntry ⟨3⟩) .refl (by decide))
  · exact hword ⟨1⟩ ⟨1⟩ _ (by decide) (.step (.markEntry ⟨5⟩) .refl (by decide))
  · exact hcategory ⟨0⟩ .verb ⟨1⟩ ⟨1⟩ _ (by decide) (.step (.markEntry ⟨3⟩) .refl (by decide))
  · rw [hbranches]
    decide

end Trie

end Headword
