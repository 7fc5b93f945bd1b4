import Headword.Proofs.Trie.Building

/-!
# Tries that differ in marks

Two tries with the same nodes and edges, where more entries are complete in the first one.  No operation
reads what is complete at a node, so both tries grow in the same way and the difference stays where it
is.
-/

namespace Headword

namespace Node

theorem markEntry_addWordEdge (n : Node) (w : WordId) (child : NodeId) :
    (n.addWordEdge w child).markEntry = n.markEntry.addWordEdge w child := by
  obtain ⟨words, categories, ending⟩ := n
  cases ending <;> rfl

theorem markEntry_addCategoryEdge (n : Node) (e : CategoryEdge) :
    (n.addCategoryEdge e).markEntry = n.markEntry.addCategoryEdge e := by
  obtain ⟨words, categories, ending⟩ := n
  cases ending <;> rfl

/-- The end of a template replaces that of an entry, and it is not replaced by one. -/
theorem markEntry_markTemplate (n : Node) : n.markTemplate.markEntry = n.markEntry.markTemplate := by
  obtain ⟨words, categories, ending⟩ := n
  cases ending <;> rfl

theorem markEntry_markEntry (n : Node) : n.markEntry.markEntry = n.markEntry := by
  obtain ⟨words, categories, ending⟩ := n
  cases ending <;> rfl

end Node

namespace Trie

/-- The tries are the same, except that an entry may be complete at a node of `P` in the first trie
alone. -/
structure MarkedWithin (P : NodeId → Prop) (t t' : Trie) : Prop where
  size_eq : t.size = t'.size
  node : ∀ i, t.node i = t'.node i ∨ (P i ∧ t.node i = (t'.node i).markEntry)

namespace MarkedWithin

variable {P Q : NodeId → Prop} {t t' : Trie}

theorem mono (h : t.MarkedWithin P t') (hPQ : ∀ i, P i → Q i) : t.MarkedWithin Q t' :=
  ⟨h.size_eq, fun i => (h.node i).imp_right fun hi => ⟨hPQ i hi.1, hi.2⟩⟩

theorem wordEdges_eq (h : t.MarkedWithin P t') (i : NodeId) :
    (t.node i).wordEdges = (t'.node i).wordEdges := by
  rcases h.node i with hi | ⟨-, hi⟩
  · rw [hi]
  · rw [hi, Node.wordEdges_markEntry]

theorem categoryEdges_eq (h : t.MarkedWithin P t') (i : NodeId) :
    (t.node i).categoryEdges = (t'.node i).categoryEdges := by
  rcases h.node i with hi | ⟨-, hi⟩
  · rw [hi]
  · rw [hi, Node.categoryEdges_markEntry]

theorem alloc (h : t.MarkedWithin P t') : t.alloc.2.MarkedWithin P t'.alloc.2 where
  size_eq := by rw [size_alloc, size_alloc, h.size_eq]
  node i := by
    rw [node_alloc, node_alloc]
    exact h.node i

/-- A change that has nothing to do with marks of entries leaves the tries alike. -/
theorem modify (h : t.MarkedWithin P t') {f : Node → Node}
    (hf : ∀ n, (f n).markEntry = f n.markEntry) {id id' : NodeId} (hid : id = id') :
    (t.modify id f).MarkedWithin P (t'.modify id' f) where
  size_eq := by rw [size_modify, size_modify, h.size_eq]
  node i := by
    subst hid
    rw [node_modify, node_modify, h.size_eq]
    split
    next heq =>
      obtain ⟨rfl, -⟩ := heq
      rcases h.node i with hi | ⟨hP, hi⟩
      · exact .inl (congrArg f hi)
      · exact .inr ⟨hP, by rw [hi, hf]⟩
    next => exact h.node i

/-- One more mark in the first trie alone. -/
theorem markEntry (h : t.MarkedWithin P t') {id : NodeId} (hid : P id) :
    (t.markEntry id).MarkedWithin P t' where
  size_eq := (size_modify ..).trans h.size_eq
  node i := by
    rw [Trie.markEntry, node_modify]
    split
    next heq =>
      obtain ⟨rfl, -⟩ := heq
      refine .inr ⟨hid, ?_⟩
      rcases h.node i with hi | ⟨-, hi⟩
      · rw [hi]
      · rw [hi, Node.markEntry_markEntry]
    next => exact h.node i

theorem wordChild (h : t.MarkedWithin P t') {p p' : NodeId} (hp : p = p') (w : WordId) :
    (t.wordChild p w).1 = (t'.wordChild p' w).1 ∧
      (t.wordChild p w).2.MarkedWithin P (t'.wordChild p' w).2 := by
  subst hp
  have hsame : (t.node p).child? w = (t'.node p).child? w := by
    rw [Node.child?_congr (h.wordEdges_eq p)]
  cases hch : (t'.node p).child? w with
  | some j =>
    rw [wordChild_of_eq_some (hsame.trans hch), wordChild_of_eq_some hch]
    exact ⟨rfl, h⟩
  | none =>
    rw [wordChild_of_eq_none (hsame.trans hch), wordChild_of_eq_none hch, h.size_eq]
    exact ⟨rfl, h.alloc.modify (fun n => n.markEntry_addWordEdge w _) rfl⟩

theorem categoryChild (h : t.MarkedWithin P t') (p : NodeId) (c : Category) {r r' : NodeId}
    (hr : r = r') :
    (t.categoryChild p c r).1 = (t'.categoryChild p c r').1 ∧
      (t.categoryChild p c r).2.MarkedWithin P (t'.categoryChild p c r').2 := by
  subst hr
  have hsame : (t.node p).categoryEdge? c = (t'.node p).categoryEdge? c := by
    rw [Node.categoryEdge?, Node.categoryEdge?, h.categoryEdges_eq]
  cases hch : (t'.node p).categoryEdge? c with
  | some e =>
    rw [categoryChild_of_eq_some (hsame.trans hch), categoryChild_of_eq_some hch]
    exact ⟨rfl, h⟩
  | none =>
    rw [categoryChild_of_eq_none (hsame.trans hch), categoryChild_of_eq_none hch, h.size_eq]
    exact ⟨rfl, h.alloc.modify (fun n => n.markEntry_addCategoryEdge _) rfl⟩

end MarkedWithin

end Trie

namespace WordTrie

/-- The words have the same numbers, and the tries differ in marks at most. -/
structure MarkedWithin (P : NodeId → Prop) (s s' : WordTrie) : Prop where
  trie : s.trie.MarkedWithin P s'.trie
  lexicon_eq : s.lexicon = s'.lexicon

namespace MarkedWithin

variable {P Q : NodeId → Prop} {s s' : WordTrie}

theorem mono (h : s.MarkedWithin P s') (hPQ : ∀ i, P i → Q i) : s.MarkedWithin Q s' :=
  ⟨h.trie.mono hPQ, h.lexicon_eq⟩

theorem alloc (h : s.MarkedWithin P s') :
    s.alloc.1 = s'.alloc.1 ∧ s.alloc.2.MarkedWithin P s'.alloc.2 :=
  ⟨congrArg NodeId.mk h.trie.size_eq, h.trie.alloc, h.lexicon_eq⟩

theorem addWord (h : s.MarkedWithin P s') {p p' : NodeId} (hp : p = p') (w : String) :
    (s.addWord p w).1 = (s'.addWord p' w).1 ∧
      (s.addWord p w).2.MarkedWithin P (s'.addWord p' w).2 := by
  unfold WordTrie.addWord
  rw [h.lexicon_eq]
  obtain ⟨hchild, htrie⟩ := h.trie.wordChild hp (s'.lexicon.intern w).1
  exact ⟨hchild, htrie, rfl⟩

theorem addPath (h : s.MarkedWithin P s') {p p' : NodeId} (hp : p = p') (words : List String) :
    (s.addPath p words).1 = (s'.addPath p' words).1 ∧
      (s.addPath p words).2.MarkedWithin P (s'.addPath p' words).2 := by
  induction words generalizing s s' p p' with
  | nil => exact ⟨hp, h⟩
  | cons w rest ih =>
    obtain ⟨hchild, hs⟩ := h.addWord hp w
    exact ih hs hchild

theorem addEntry (h : s.MarkedWithin P s') {root root' : NodeId} (hroot : root = root')
    (words : List String) :
    (WordTrie.addEntry root s words).MarkedWithin P (WordTrie.addEntry root' s' words) := by
  obtain ⟨hlast, hs⟩ := h.addPath hroot words
  exact ⟨hs.trie.modify (fun _ => rfl) hlast, hs.lexicon_eq⟩

/-- Without its empty entries a subtree lacks a mark at its root and nothing else. -/
theorem foldl_addEntry (h : s.MarkedWithin P s') {root root' : NodeId} (hroot : root = root')
    (hP : P root) (entries : List (List String)) :
    (entries.foldl (WordTrie.addEntry root) s).MarkedWithin P
      ((entries.filter fun e => !e.isEmpty).foldl (WordTrie.addEntry root') s') := by
  induction entries generalizing s s' with
  | nil => exact h
  | cons e es ih =>
    cases e with
    | nil => exact ih ⟨h.trie.markEntry hP, h.lexicon_eq⟩
    | cons w ws => exact ih (h.addEntry hroot (w :: ws))

theorem addCategory (h : s.MarkedWithin P s') (entries : List (List String)) :
    (s.addCategory entries).1 = (s'.addCategory (entries.filter fun e => !e.isEmpty)).1 ∧
      (s.addCategory entries).2.MarkedWithin (fun i => P i ∨ i = (s.addCategory entries).1)
        (s'.addCategory (entries.filter fun e => !e.isEmpty)).2 := by
  obtain ⟨hroot, hs⟩ := h.alloc
  have hmono : s.alloc.2.MarkedWithin (fun i => P i ∨ i = s.alloc.1) s'.alloc.2 :=
    hs.mono fun i hi => .inl hi
  exact ⟨hroot, hmono.foldl_addEntry hroot (.inr rfl) entries⟩

end MarkedWithin

end WordTrie

end Headword
