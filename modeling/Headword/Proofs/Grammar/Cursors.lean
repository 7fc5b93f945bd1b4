import Headword.Proofs.Grammar.WellFormed
import Headword.Proofs.Trie.Checked

/-!
# Cursors of a grammar

A search through a well-formed grammar stays among cursors of two kinds: nodes of the rows with nothing
to resume, and nodes of a category with a node of the rows to resume at.  All of them are safe.
-/

namespace Headword

namespace Grammar

/-- A cursor waits to resume at a node of the rows exactly when it lies in a category. -/
inductive Located (g : Grammar) : Cursor → Prop
  | row {i} : g.IsRowNode i → g.Located ⟨i, none⟩
  | entry {c i r} : g.IsEntryNode c i → g.IsRowNode r → g.Located ⟨i, some r⟩

namespace WellFormed

variable {g : Grammar} {b c d : Cursor} {i j r : NodeId} {w : WordId}

theorem descends_lt (hg : g.WellFormed) (hr : r.index < g.size) (h : g.trie.Descends r i) :
    i.index < g.size := by
  cases h with
  | refl => exact hr
  | edge _ he => exact (hg.edge_lt _ _ _ he).2

theorem rowNode_lt (hg : g.WellFormed) (h : g.IsRowNode i) : i.index < g.size :=
  hg.descends_lt hg.root_lt h

theorem entryNode_lt (hg : g.WellFormed) {c : Category} (h : g.IsEntryNode c i) :
    i.index < g.size := by
  obtain ⟨r, hr, hd⟩ := h
  exact hg.descends_lt (hg.categoryRoot_lt c r hr) hd

theorem not_entryNode_of_rowNode (hg : g.WellFormed) (h : g.IsRowNode i) (c : Category) :
    ¬g.IsEntryNode c i := by
  rcases hg.one_tree i (hg.rowNode_lt h) with hrow | hentry
  · exact hrow.2 c
  · exact absurd h hentry.1

theorem categoryRoot_of_mem_edges (hg : g.WellFormed) {e : CategoryEdge}
    (he : e ∈ (g.trie.node i).categoryEdges) : g.IsEntryNode e.category e.root :=
  ⟨e.root, hg.shared_root i e he, .refl⟩

theorem hasEdge_of_child? (hg : g.WellFormed) (h : (g.trie.node i).child? w = some j) :
    g.trie.HasEdge i (.word w) j :=
  (Node.child?_eq_some_iff (hg.ordered i)).mp h

/-- From a node of the rows a word leads to another one or into a category. -/
theorem located_of_mem_branches (hg : g.WellFormed) (hi : g.IsRowNode i)
    (hb : b ∈ g.trie.branches i w) : g.Located b := by
  obtain ⟨node, resume⟩ := b
  rcases Trie.mem_branches.mp hb with ⟨hchild, hresume⟩ | ⟨e, he, hchild, hresume⟩
  · dsimp only at hchild hresume
    rw [hresume]
    exact .row (.edge hi (hg.hasEdge_of_child? hchild))
  · dsimp only at hchild hresume
    rw [hresume]
    obtain ⟨r, hr, hd⟩ := hg.categoryRoot_of_mem_edges he
    have hedge : g.trie.HasEdge i (.category e.category) e.resume := ⟨e, he, rfl, rfl⟩
    exact .entry ⟨r, hr, .edge hd (hg.hasEdge_of_child? hchild)⟩ (.edge hi hedge)

/-- From a node of a category a word leads to another one, and into no other category. -/
theorem entryNode_of_mem_branches (hg : g.WellFormed) {c : Category} (hi : g.IsEntryNode c i)
    (hb : b ∈ g.trie.branches i w) : g.IsEntryNode c b.node ∧ b.resume = none := by
  rcases Trie.mem_branches.mp hb with ⟨hchild, hresume⟩ | ⟨e, he, -, -⟩
  · obtain ⟨r, hr, hd⟩ := hi
    exact ⟨⟨r, hr, .edge hd (hg.hasEdge_of_child? hchild)⟩, hresume⟩
  · rw [(hg.entry_node c i hi).1] at he
    cases he

theorem located_of_mem_step (hg : g.WellFormed) (hc : g.Located c) (hd : d ∈ g.trie.step c w) :
    g.Located d := by
  rw [Trie.mem_step, Trie.mem_handOver] at hd
  cases hc with
  | row hi =>
    rcases hd with ⟨b, hb, rfl⟩ | ⟨r, hr, -⟩
    · rw [Option.or_none]
      exact hg.located_of_mem_branches hi hb
    · cases hr
  | entry hi hr =>
    rcases hd with ⟨b, hb, rfl⟩ | ⟨r', hr', -, hb⟩
    · obtain ⟨hnode, hresume⟩ := hg.entryNode_of_mem_branches hi hb
      rw [hresume, Option.none_or]
      exact .entry hnode hr
    · -- the walk goes on from the node to resume at, as if it had come there without the category
      cases hr'
      exact hg.located_of_mem_branches hr hb

theorem located_of_visits (hg : g.WellFormed) {tokens : List (Option WordId)} (hc : g.Located c)
    (h : g.trie.Visits tokens c d) : g.Located d := by
  induction h with
  | here => exact hc
  | next hb _ ih => exact ih (hg.located_of_mem_step hc hb)

theorem located_start (g : Grammar) : g.Located g.start :=
  .row .refl

theorem resume_ne_none_iff (hg : g.WellFormed) (hc : g.Located c) :
    c.resume ≠ none ↔ ∃ k, g.IsEntryNode k c.node := by
  cases hc with
  | row hi =>
    apply iff_of_false
    · exact fun h => h rfl
    · rintro ⟨k, hk⟩
      exact hg.not_entryNode_of_rowNode hi k hk
  | entry hi _ => exact iff_of_true (Option.some_ne_none _) ⟨_, hi⟩

theorem safe (hg : g.WellFormed) (hc : g.Located c) : g.trie.Safe c := by
  have hroot : ∀ i, ∀ e ∈ (g.trie.node i).categoryEdges, e.root.index < g.trie.size :=
    fun i e he => hg.entryNode_lt (hg.categoryRoot_of_mem_edges he)
  cases hc with
  | row hi =>
    refine ⟨hg.rowNode_lt hi, ?_, fun j _ => hroot j, fun _ _ _ _ => rfl⟩
    intro r hr
    cases hr
  | entry hi hr =>
    refine ⟨hg.entryNode_lt hi, ?_, fun j _ => hroot j, ?_⟩
    · intro r' hr'
      cases hr'
      exact hg.rowNode_lt hr
    · intro w b hb hresume
      exact absurd (hg.entryNode_of_mem_branches hi hb).2 hresume

/-- The checked search runs into nothing and finds the same. -/
theorem checkedLongest_eq_ok (hg : g.WellFormed) (tokens : List (Option WordId)) :
    g.trie.checkedLongest tokens g.start = .ok (g.longestMatch? tokens) := by
  apply Trie.checkedLongest_eq_ok
  intro d hd
  exact hg.safe (hg.located_of_visits (located_start g) hd)

end WellFormed

end Grammar

end Headword
