import Headword.Category
import Headword.Lexicon

/-!
# Tries with shared category subtrees

A trie is a row of nodes that refer to each other by number.  A word edge leads from a node to its child
for one word.  A category edge stands for all entries of a category at once: it leads into the subtree of
these entries, which many edges share, and tells where to resume after the entry.

Nodes are numbered in the order in which they are made, and a number beyond the last node stands for a
node without edges, so a fresh node changes no look-up (`Trie.node_alloc`).
-/

namespace Headword

/-- The number of a node in its trie.  Like the numbers of words they do not run out, where a trie whose
numbers have 32 bits would have to fail. -/
structure NodeId where
  index : Nat
  deriving DecidableEq

/-- An edge that stands for any entry of a category. -/
structure CategoryEdge where
  category : Category
  /-- The node at which the entries of the category start. -/
  root : NodeId
  /-- The node at which to go on after an entry. -/
  resume : NodeId
  deriving DecidableEq

def CategoryEdge.label (e : CategoryEdge) : String :=
  e.category.label

/-- An edge as it is shown in reports. -/
def CategoryEdge.describe (e : CategoryEdge) : String :=
  e.label ++ "@" ++ toString e.root.index ++ " -> " ++ toString e.resume.index

/-- What is complete at a node. -/
inductive Ending
  | nothing
  | entry
  | template
  deriving DecidableEq

/-- A node: its edges, each kind in order, and what is complete at it. -/
structure Node where
  /-- Children by word, in the order of the words' numbers. -/
  wordEdges : List (WordId × NodeId) := []
  /-- Category edges, in the order of the categories. -/
  categoryEdges : List CategoryEdge := []
  ending : Ending := .nothing
  deriving DecidableEq

namespace Node

def child? (n : Node) (w : WordId) : Option NodeId :=
  n.wordEdges.lookup w

def categoryEdge? (n : Node) (c : Category) : Option CategoryEdge :=
  n.categoryEdges.find? fun e => e.category = c

def isLeaf (n : Node) : Bool :=
  n.wordEdges.isEmpty && n.categoryEdges.isEmpty

/-- Puts a word edge before the first one with a larger word number. -/
def insertWordEdge (w : WordId) (child : NodeId) : List (WordId × NodeId) → List (WordId × NodeId)
  | [] => [(w, child)]
  | e :: rest =>
    if w.index < e.1.index then (w, child) :: e :: rest else e :: insertWordEdge w child rest

/-- Puts a category edge before the first one with a later category. -/
def insertCategoryEdge (e : CategoryEdge) : List CategoryEdge → List CategoryEdge
  | [] => [e]
  | d :: rest =>
    if e.category.rank < d.category.rank then e :: d :: rest else d :: insertCategoryEdge e rest

def addWordEdge (n : Node) (w : WordId) (child : NodeId) : Node :=
  { n with wordEdges := insertWordEdge w child n.wordEdges }

def addCategoryEdge (n : Node) (e : CategoryEdge) : Node :=
  { n with categoryEdges := insertCategoryEdge e n.categoryEdges }

/-- The node as the end of a template. -/
def markTemplate (n : Node) : Node :=
  { n with ending := .template }

/-- The node as the end of an entry, unless a template ends there. -/
def markEntry (n : Node) : Node :=
  match n.ending with
  | .nothing => { n with ending := .entry }
  | _ => n

theorem mem_insertWordEdge {x : WordId × NodeId} {w : WordId} {child : NodeId}
    {es : List (WordId × NodeId)} : x ∈ insertWordEdge w child es ↔ x = (w, child) ∨ x ∈ es := by
  induction es with
  | nil => simp [insertWordEdge]
  | cons e rest ih =>
    simp only [insertWordEdge]
    split
    · simp
    · simp only [List.mem_cons, ih]
      grind

theorem mem_insertCategoryEdge {x e : CategoryEdge} {es : List CategoryEdge} :
    x ∈ insertCategoryEdge e es ↔ x = e ∨ x ∈ es := by
  induction es with
  | nil => simp [insertCategoryEdge]
  | cons d rest ih =>
    simp only [insertCategoryEdge]
    split
    · simp
    · simp only [List.mem_cons, ih]
      grind

theorem lookup_cons_edge (e : WordId × NodeId) (es : List (WordId × NodeId)) (w : WordId) :
    (e :: es).lookup w = if w = e.1 then some e.2 else es.lookup w := by
  rw [List.lookup_cons]
  by_cases h : w = e.1
  · simp [h]
  · simp [h, beq_false_of_ne h]

theorem lookup_insertWordEdge {es : List (WordId × NodeId)} {w : WordId}
    (hw : es.lookup w = none) (child : NodeId) (v : WordId) :
    (insertWordEdge w child es).lookup v = if v = w then some child else es.lookup v := by
  induction es with
  | nil => rw [insertWordEdge, lookup_cons_edge]
  | cons e rest ih =>
    rw [lookup_cons_edge] at hw
    have hne : w ≠ e.1 := fun h => by simp [h] at hw
    have hrest := ih (by simpa [hne] using hw)
    rw [insertWordEdge]
    split
    · rw [lookup_cons_edge]
    · rw [lookup_cons_edge, lookup_cons_edge, hrest]
      grind

/-- A new edge answers for its own word and for no other. -/
theorem child?_addWordEdge {n : Node} {w : WordId} (hw : n.child? w = none) (child : NodeId)
    (v : WordId) : (n.addWordEdge w child).child? v = if v = w then some child else n.child? v :=
  lookup_insertWordEdge hw child v

/-- Category edges stay in the order of the categories when a new category is added. -/
theorem pairwise_insertCategoryEdge {e : CategoryEdge} {es : List CategoryEdge}
    (hes : es.Pairwise fun a b => a.category.rank < b.category.rank)
    (hnew : ∀ d ∈ es, d.category ≠ e.category) :
    (insertCategoryEdge e es).Pairwise fun a b => a.category.rank < b.category.rank := by
  induction es with
  | nil => simp [insertCategoryEdge]
  | cons d rest ih =>
    have hafter : ∀ x ∈ rest, d.category.rank < x.category.rank := fun x hx =>
      List.rel_of_pairwise_cons hes hx
    simp only [insertCategoryEdge]
    split
    next hlt =>
      refine .cons (fun x hx => ?_) hes
      rcases List.mem_cons.mp hx with rfl | hx
      · exact hlt
      · exact Nat.lt_trans hlt (hafter x hx)
    next hle =>
      refine .cons (fun x hx => ?_) (ih hes.of_cons fun x hx => hnew x (List.mem_cons_of_mem _ hx))
      rcases mem_insertCategoryEdge.mp hx with rfl | hx
      · have hne := mt Category.rank_inj.mp (hnew d (List.mem_cons_self ..))
        omega
      · exact hafter x hx

end Node

/-- Nodes, numbered by their positions. -/
structure Trie where
  nodes : Array Node
  deriving DecidableEq

namespace Trie

def empty : Trie :=
  ⟨#[]⟩

def size (t : Trie) : Nat :=
  t.nodes.size

def node (t : Trie) (id : NodeId) : Node :=
  t.nodes[id.index]?.getD {}

def alloc (t : Trie) : NodeId × Trie :=
  (⟨t.size⟩, ⟨t.nodes.push {}⟩)

def modify (t : Trie) (id : NodeId) (f : Node → Node) : Trie :=
  ⟨t.nodes.modify id.index f⟩

/-- The child of a node for a word, which is made if there is none. -/
def wordChild (t : Trie) (parent : NodeId) (w : WordId) : NodeId × Trie :=
  match (t.node parent).child? w with
  | some child => (child, t)
  | none =>
    let (child, t) := t.alloc
    (child, t.modify parent (·.addWordEdge w child))

/-- The edge of a node for a category.  If there is none, an edge into the subtree at `root` is made,
with a new node at which to resume. -/
def categoryChild (t : Trie) (parent : NodeId) (c : Category) (root : NodeId) :
    CategoryEdge × Trie :=
  match (t.node parent).categoryEdge? c with
  | some edge => (edge, t)
  | none =>
    let (resume, t) := t.alloc
    (⟨c, root, resume⟩, t.modify parent (·.addCategoryEdge ⟨c, root, resume⟩))

def markTemplate (t : Trie) (id : NodeId) : Trie :=
  t.modify id Node.markTemplate

def markEntry (t : Trie) (id : NodeId) : Trie :=
  t.modify id Node.markEntry

@[simp] theorem size_alloc (t : Trie) : t.alloc.2.size = t.size + 1 := by
  simp [alloc, size]

@[simp] theorem size_modify (t : Trie) (id : NodeId) (f : Node → Node) :
    (t.modify id f).size = t.size := by
  simp [modify, size]

/-- A fresh node changes no look-up. -/
@[simp] theorem node_alloc (t : Trie) (id : NodeId) : t.alloc.2.node id = t.node id := by
  simp only [alloc, node, Array.getElem?_push]
  split
  next h => simp [h]
  next => rfl

/-- A change touches one node, if that node exists. -/
theorem node_modify (t : Trie) (id j : NodeId) (f : Node → Node) :
    (t.modify id f).node j = if j = id ∧ id.index < t.size then f (t.node id) else t.node j := by
  obtain ⟨i⟩ := id
  obtain ⟨j⟩ := j
  simp only [modify, node, size, Array.getElem?_modify, NodeId.mk.injEq]
  by_cases hij : i = j
  · subst hij
    by_cases hi : i < t.nodes.size <;> simp [hi]
  · simp [hij, Ne.symm hij]

/-- A trie is told by its nodes. -/
theorem ext_node {t t' : Trie} (hsize : t.size = t'.size) (hnode : ∀ i, t.node i = t'.node i) :
    t = t' := by
  obtain ⟨nodes⟩ := t
  obtain ⟨nodes'⟩ := t'
  congr 1
  apply Array.ext hsize
  intro n hn hn'
  have h := hnode ⟨n⟩
  rwa [node, node, Array.getElem?_eq_getElem hn, Array.getElem?_eq_getElem hn'] at h

end Trie

end Headword
