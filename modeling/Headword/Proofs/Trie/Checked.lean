import Headword.Trie.Search

/-!
# Checked walks

The search takes a number beyond the last node for a node without edges, and a category that is entered
takes the place of one that waits to be resumed.  The checked search gives up at either.  It agrees with
the search when all cursors on its way are safe (`Trie.checkedLongest_eq_ok`).
-/

namespace Headword

namespace Trie

/-- What a walk may run into. -/
inductive Flaw
  /-- An edge leads to a number that no node has. -/
  | missingNode (id : NodeId)
  /-- A category is entered at this node while another one waits to be resumed. -/
  | pendingTwice (id : NodeId)
  deriving DecidableEq

def checkedNode (t : Trie) (id : NodeId) : Except Flaw Node :=
  match t.nodes[id.index]? with
  | some n => .ok n
  | none => .error (.missingNode id)

def checkedEnter (t : Trie) (w : WordId) (e : CategoryEdge) : Except Flaw (Option Cursor) := do
  let root ← t.checkedNode e.root
  return (root.child? w).map fun child => ⟨child, some e.resume⟩

def checkedBranches (t : Trie) (id : NodeId) (w : WordId) : Except Flaw (List Cursor) := do
  let n ← t.checkedNode id
  let entered ← n.categoryEdges.mapM (t.checkedEnter w)
  return ((n.child? w).map fun child => ⟨child, none⟩).toList ++ entered.filterMap fun branch => branch

/-- A branch from a cursor stays in its category, or enters one when the cursor lies in none. -/
def checkedKeep (c b : Cursor) : Except Flaw Cursor :=
  match b.resume, c.resume with
  | none, resume => .ok ⟨b.node, resume⟩
  | some resume, none => .ok ⟨b.node, some resume⟩
  | some _, some _ => .error (.pendingTwice c.node)

def checkedHandOver (t : Trie) (c : Cursor) (w : WordId) : Except Flaw (List Cursor) :=
  match c.resume with
  | none => .ok []
  | some resume => do
    let n ← t.checkedNode c.node
    if n.ending = .entry then t.checkedBranches resume w else .ok []

def checkedStep (t : Trie) (c : Cursor) (w : WordId) : Except Flaw (List Cursor) := do
  let bs ← t.checkedBranches c.node w
  let kept ← bs.mapM (checkedKeep c)
  let resumed ← t.checkedHandOver c w
  return kept ++ resumed

/-- The node at which to resume is looked up only if the answer depends on it. -/
def checkedCompletes (t : Trie) (isLast : Bool) (c : Cursor) : Except Flaw Bool := do
  let n ← t.checkedNode c.node
  match n.ending, isLast, c.resume with
  | .template, _, _ => return true
  | .nothing, _, _ => return false
  | .entry, true, _ => return true
  | .entry, false, none => return false
  | .entry, false, some resume => do
    let after ← t.checkedNode resume
    return after.ending = .template

/-- The longest match, with every node looked up and no category entered twice. -/
def checkedLongest (t : Trie) : List (Option WordId) → Cursor → Except Flaw (Option Nat)
  | [], _ => .ok none
  | none :: _, _ => .ok none
  | some w :: rest, c => do
    let reached ← t.checkedStep c w
    let stops ← reached.anyM (t.checkedCompletes rest.isEmpty)
    let here := if stops then some 1 else none
    reached.foldlM (fun best d => do
      let length ← t.checkedLongest rest d
      return max best (length.map (· + 1))) here

/-- The cursors that a walk along tokens comes by. -/
inductive Visits (t : Trie) : List (Option WordId) → Cursor → Cursor → Prop
  | here {tokens c} : t.Visits tokens c c
  | next {w rest c b d} : b ∈ t.step c w → t.Visits rest b d → t.Visits (some w :: rest) c d

/-- The nodes that are looked up from the cursor exist, and a category is entered only when none waits to
be resumed. -/
structure Safe (t : Trie) (c : Cursor) : Prop where
  node_lt : c.node.index < t.size
  resume_lt : ∀ r, c.resume = some r → r.index < t.size
  root_lt : ∀ i, i = c.node ∨ c.resume = some i → ∀ e ∈ (t.node i).categoryEdges,
    e.root.index < t.size
  enters : ∀ w, ∀ b ∈ t.branches c.node w, b.resume ≠ none → c.resume = none

section

variable {α β ε : Type}

theorem ok_bind (a : α) (f : α → Except ε β) : (Except.ok a >>= f) = f a := rfl

theorem mapM_eq_ok {f : α → Except ε β} {g : α → β} {xs : List α} (h : ∀ x ∈ xs, f x = .ok (g x)) :
    xs.mapM f = .ok (xs.map g) := by
  induction xs with
  | nil => rfl
  | cons x xs ih =>
    have hrest := ih fun y hy => h y (List.mem_cons_of_mem _ hy)
    rw [List.mapM_cons, h x (List.mem_cons_self ..), hrest]
    rfl

theorem anyM_eq_ok {f : α → Except ε Bool} {g : α → Bool} {xs : List α}
    (h : ∀ x ∈ xs, f x = .ok (g x)) : xs.anyM f = .ok (xs.any g) := by
  induction xs with
  | nil => rfl
  | cons x xs ih =>
    have hrest := ih fun y hy => h y (List.mem_cons_of_mem _ hy)
    rw [List.anyM, h x (List.mem_cons_self ..), List.any_cons]
    cases hx : g x with
    | true => rfl
    | false => exact hrest

theorem foldlM_eq_ok {f : β → α → Except ε β} {g : β → α → β} {xs : List α}
    (h : ∀ x ∈ xs, ∀ b, f b x = .ok (g b x)) (b : β) : xs.foldlM f b = .ok (xs.foldl g b) := by
  induction xs generalizing b with
  | nil => rfl
  | cons x xs ih =>
    rw [List.foldlM_cons, h x (List.mem_cons_self ..)]
    exact ih (fun y hy => h y (List.mem_cons_of_mem _ hy)) (g b x)

end

variable {t : Trie} {c : Cursor} {w : WordId}

theorem checkedNode_eq_ok {id : NodeId} (h : id.index < t.size) :
    t.checkedNode id = .ok (t.node id) := by
  unfold checkedNode node
  rw [Array.getElem?_eq_getElem h]
  rfl

theorem checkedBranches_eq_ok {id : NodeId} (hid : id.index < t.size)
    (hroots : ∀ e ∈ (t.node id).categoryEdges, e.root.index < t.size) :
    t.checkedBranches id w = .ok (t.branches id w) := by
  have henter : ∀ e ∈ (t.node id).categoryEdges, t.checkedEnter w e = .ok (e.enter? t w) := by
    intro e he
    rw [checkedEnter, checkedNode_eq_ok (hroots e he)]
    rfl
  unfold checkedBranches branches
  rw [checkedNode_eq_ok hid, ok_bind, mapM_eq_ok henter, ok_bind, List.filterMap_map]
  rfl

theorem checkedKeep_eq_ok {b : Cursor} (h : b.resume ≠ none → c.resume = none) :
    checkedKeep c b = .ok ⟨b.node, b.resume.or c.resume⟩ := by
  unfold checkedKeep
  split
  next hb => rw [hb, Option.none_or]
  next hb hc => rw [hb, hc, Option.or_none]
  next hb hc =>
    rw [hb, hc] at h
    cases h (Option.some_ne_none _)

theorem Safe.checkedHandOver_eq_ok (h : t.Safe c) :
    t.checkedHandOver c w = .ok (t.handOver c w) := by
  unfold checkedHandOver handOver
  cases hc : c.resume with
  | none => rfl
  | some resume =>
    dsimp only
    rw [checkedNode_eq_ok h.node_lt, ok_bind]
    split
    · exact checkedBranches_eq_ok (h.resume_lt resume hc) (h.root_lt resume (.inr hc))
    · rfl

theorem Safe.checkedStep_eq_ok (h : t.Safe c) : t.checkedStep c w = .ok (t.step c w) := by
  unfold checkedStep step
  rw [checkedBranches_eq_ok h.node_lt (h.root_lt c.node (.inl rfl)), ok_bind,
    mapM_eq_ok fun b hb => checkedKeep_eq_ok (h.enters w b hb), ok_bind, h.checkedHandOver_eq_ok]
  rfl

theorem Safe.checkedCompletes_eq_ok (h : t.Safe c) (isLast : Bool) :
    t.checkedCompletes isLast c = .ok (t.completes isLast c) := by
  unfold checkedCompletes completes
  rw [checkedNode_eq_ok h.node_lt, ok_bind]
  cases (t.node c.node).ending with
  | template => rfl
  | nothing => rfl
  | entry =>
    cases isLast with
    | true => rfl
    | false =>
      cases hc : c.resume with
      | none => rfl
      | some resume =>
        dsimp only
        rw [checkedNode_eq_ok (h.resume_lt resume hc), Option.any_some, Bool.false_or]
        rfl

/-- A walk that comes by safe cursors only runs into nothing. -/
theorem checkedLongest_eq_ok {tokens : List (Option WordId)}
    (h : ∀ d, t.Visits tokens c d → t.Safe d) :
    t.checkedLongest tokens c = .ok (t.longestFrom tokens c) := by
  induction tokens generalizing c with
  | nil => rfl
  | cons token rest ih =>
    cases token with
    | none => rfl
    | some w =>
      -- the cursors one word on are visited with one token less
      have hnext : ∀ d ∈ t.step c w, ∀ e, t.Visits rest d e → t.Safe e := fun d hd e he =>
        h e (.next hd he)
      have hstops : ∀ d ∈ t.step c w,
          t.checkedCompletes rest.isEmpty d = .ok (t.completes rest.isEmpty d) := fun d hd =>
        (hnext d hd d .here).checkedCompletes_eq_ok _
      unfold checkedLongest longestFrom
      rw [(h c .here).checkedStep_eq_ok, ok_bind, anyM_eq_ok hstops, ok_bind]
      apply foldlM_eq_ok
      intro d hd best
      rw [ih (hnext d hd), ok_bind]
      rfl

end Trie

end Headword
