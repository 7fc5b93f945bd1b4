import Headword.Trie

/-!
# Walking a trie

A cursor is a node together with the node at which to resume once the category around it is left.  From a
cursor one word leads to several others: along word edges, into categories, and, where an entry is
complete, out of the category and on from the node at which to resume.
-/

namespace Headword

/-- A node, and where to go on after the category that the node lies in. -/
structure Cursor where
  node : NodeId
  resume : Option NodeId
  deriving DecidableEq

/-- Follows a category edge by the first word of an entry. -/
def CategoryEdge.enter? (e : CategoryEdge) (t : Trie) (w : WordId) : Option Cursor :=
  ((t.node e.root).child? w).map fun child => ⟨child, some e.resume⟩

namespace Trie

/-- The cursors one word away from a node: its child first, then the entries of its categories, in
order.  Only these set a node at which to resume. -/
def branches (t : Trie) (id : NodeId) (w : WordId) : List Cursor :=
  (((t.node id).child? w).map fun child => ⟨child, none⟩).toList ++
    (t.node id).categoryEdges.filterMap (·.enter? t w)

/-- The cursors at which a complete entry hands over to the rest of the template. -/
def handOver (t : Trie) (c : Cursor) (w : WordId) : List Cursor :=
  match c.resume with
  | some resume => if (t.node c.node).ending = .entry then t.branches resume w else []
  | none => []

/-- All cursors one word away from a cursor.  A branch that enters no category stays in the one that the
cursor lies in. -/
def step (t : Trie) (c : Cursor) (w : WordId) : List Cursor :=
  (t.branches c.node w).map (fun b => ⟨b.node, b.resume.or c.resume⟩) ++ t.handOver c w

/-- Tells if a match may stop at a cursor: at the end of a template, and at the end of an entry when the
template ends after its category or when no word follows. -/
def completes (t : Trie) (isLast : Bool) (c : Cursor) : Bool :=
  match (t.node c.node).ending with
  | .template => true
  | .entry => isLast || c.resume.any fun resume => (t.node resume).ending = .template
  | .nothing => false

theorem mem_branches {t : Trie} {id : NodeId} {w : WordId} {b : Cursor} :
    b ∈ t.branches id w ↔
      ((t.node id).child? w = some b.node ∧ b.resume = none) ∨
        ∃ e ∈ (t.node id).categoryEdges,
          (t.node e.root).child? w = some b.node ∧ b.resume = some e.resume := by
  obtain ⟨n, r⟩ := b
  simp only [branches, CategoryEdge.enter?, List.mem_append, Option.mem_toList,
    Option.map_eq_some_iff, Cursor.mk.injEq, List.mem_filterMap]
  grind

theorem mem_handOver {t : Trie} {c d : Cursor} {w : WordId} :
    d ∈ t.handOver c w ↔
      ∃ resume, c.resume = some resume ∧ (t.node c.node).ending = .entry ∧
        d ∈ t.branches resume w := by
  unfold handOver
  cases c.resume with
  | none => simp
  | some resume => by_cases h : (t.node c.node).ending = .entry <;> simp [h]

theorem mem_step {t : Trie} {c d : Cursor} {w : WordId} :
    d ∈ t.step c w ↔
      (∃ b ∈ t.branches c.node w, d = ⟨b.node, b.resume.or c.resume⟩) ∨ d ∈ t.handOver c w := by
  simp only [step, List.mem_append, List.mem_map, eq_comm]

end Trie

end Headword
