import Headword.Catalog
import Headword.Trie.Search
import Headword.WordTrie

/-!
# Grammars

A grammar is the trie of all rows that a catalog stands for.  Rows are laid one after another, and the
subtree of a category is laid when a row first asks for it.  Compiling fails exactly when a template asks
for a category without a list (`Grammar.compile_eq_error_iff`).
-/

namespace Headword

/-- The rows of slots that a catalog stands for, in walking order: the expansions, apart from the empty
one, of all templates without ignored words. -/
def Catalog.rows (catalog : Catalog) (vocabulary : Vocabulary) (direction : Direction)
    (ignored : WordSet) : List (List Slot) :=
  (catalog.templates.filter fun t => !t.mentionsAny ignored).flatMap fun t =>
    ((t.expansions vocabulary.isOptional).filter fun row => !row.isEmpty).map direction.orient

/-- The first category that a template asks for and that has no list. -/
def Template.missing? (t : Template) (vocabulary : Vocabulary) : Option Category :=
  t.categories.find? fun c => !vocabulary.declares c

/-- The first template that asks for a category without a list, and that category. -/
def Catalog.missing? (catalog : Catalog) (vocabulary : Vocabulary) : Option (Nat × Category) :=
  catalog.templates.zipIdx.findSome? fun (t, index) => (t.missing? vocabulary).map fun c => (index, c)

/-- A compiled catalog. -/
structure Grammar extends WordTrie where
  direction : Direction
  /-- The node at which all rows start. -/
  root : NodeId
  /-- The subtrees of the categories that rows ask for. -/
  categoryRoots : Category.Table (Option NodeId)
  deriving DecidableEq

namespace Grammar

def empty (direction : Direction) : Grammar :=
  let (root, s) := WordTrie.empty.alloc
  { s with direction, root, categoryRoots := .replicate none }

/-- The root of a category's subtree, which is laid if there is none; `entries` gives the entries of
each category in walking order. -/
def addCategory (entries : Category → List (List String)) (g : Grammar) (c : Category) :
    NodeId × Grammar :=
  match g.categoryRoots.get c with
  | some root => (root, g)
  | none =>
    let (root, s) := g.toWordTrie.addCategory (entries c)
    (root, { g with toWordTrie := s, categoryRoots := g.categoryRoots.set c (some root) })

/-- Goes on from a node by one slot. -/
def addSlot (entries : Category → List (List String)) (g : Grammar) (node : NodeId) :
    Slot → NodeId × Grammar
  | .word w =>
    let (child, s) := g.toWordTrie.addWord node w
    (child, { g with toWordTrie := s })
  | .category c =>
    let (root, g) := g.addCategory entries c
    let (edge, trie) := g.trie.categoryChild node c root
    (edge.resume, { g with trie })

/-- The end of a path of slots that starts at a node. -/
def addSlots (entries : Category → List (List String)) (g : Grammar) (node : NodeId) :
    List Slot → NodeId × Grammar
  | [] => (node, g)
  | slot :: rest =>
    let (next, g) := g.addSlot entries node slot
    g.addSlots entries next rest

/-- Lays one row, given in walking order. -/
def addRow (entries : Category → List (List String)) (g : Grammar) (row : List Slot) : Grammar :=
  let (last, g) := g.addSlots entries g.root row
  { g with trie := g.trie.markTemplate last }

/-- The grammar of several rows, all in walking order. -/
def ofRows (direction : Direction) (entries : Category → List (List String))
    (rows : List (List Slot)) : Grammar :=
  rows.foldl (addRow entries) (empty direction)

/-- Compiles a catalog.  Templates and entries with ignored words are left out, but a category that is
asked for needs a list in any case. -/
def compile (catalog : Catalog) (vocabulary : Vocabulary) (direction : Direction)
    (ignored : WordSet) : Except Fault Grammar :=
  match catalog.missing? vocabulary with
  | some (index, c) => .error ⟨.missingCategory c, some (catalog.place index)⟩
  | none =>
    .ok (ofRows direction (fun c => walkedEntries (vocabulary.entries c) direction ignored)
      (catalog.rows vocabulary direction ignored))

/-- The number of nodes, those of the categories included. -/
def size (g : Grammar) : Nat :=
  g.trie.size

def knows (g : Grammar) (w : String) : Bool :=
  g.lexicon.contains w

def start (g : Grammar) : Cursor :=
  ⟨g.root, none⟩

/-- The length of the longest match at the beginning of words in walking order; `none` stands for a word
that the grammar does not know. -/
def longestMatch? (g : Grammar) (tokens : List (Option WordId)) : Option Nat :=
  g.trie.longestFrom tokens g.start

def forks (g : Grammar) (tokens : List (Option WordId)) : List Trie.Fork :=
  g.trie.forksFrom tokens 0 g.start

theorem compile_eq_error_iff {catalog : Catalog} {vocabulary : Vocabulary} {direction : Direction}
    {ignored : WordSet} {fault : Fault} :
    compile catalog vocabulary direction ignored = .error fault ↔
      ∃ index c, catalog.missing? vocabulary = some (index, c) ∧
        fault = ⟨.missingCategory c, some (catalog.place index)⟩ := by
  unfold compile
  split
  next index c h =>
    simp only [h, Except.error.injEq, Option.some.injEq, Prod.mk.injEq]
    constructor
    · rintro rfl
      exact ⟨index, c, ⟨rfl, rfl⟩, rfl⟩
    · rintro ⟨_, _, ⟨rfl, rfl⟩, rfl⟩
      rfl
  next h => simp [h]

section

variable (entries : Category → List (List String))

@[simp] theorem direction_addCategory (g : Grammar) (c : Category) :
    (g.addCategory entries c).2.direction = g.direction := by
  unfold addCategory
  split <;> rfl

@[simp] theorem direction_addSlot (g : Grammar) (node : NodeId) (slot : Slot) :
    (g.addSlot entries node slot).2.direction = g.direction := by
  cases slot with
  | word w => rfl
  | category c => exact direction_addCategory entries g c

@[simp] theorem direction_addSlots (g : Grammar) (node : NodeId) (row : List Slot) :
    (g.addSlots entries node row).2.direction = g.direction := by
  induction row generalizing g node with
  | nil => rfl
  | cons slot rest ih => exact (ih _ _).trans (direction_addSlot entries g node slot)

@[simp] theorem direction_addRow (g : Grammar) (row : List Slot) :
    (g.addRow entries row).direction = g.direction :=
  direction_addSlots entries g g.root row

@[simp] theorem direction_ofRows (direction : Direction) (rows : List (List Slot)) :
    (ofRows direction entries rows).direction = direction := by
  have key : ∀ g : Grammar, (rows.foldl (addRow entries) g).direction = g.direction := by
    induction rows with
    | nil => exact fun g => rfl
    | cons row rest ih => exact fun g => (ih _).trans (direction_addRow entries g row)
  exact key _

end

theorem direction_of_compile_eq_ok {catalog : Catalog} {vocabulary : Vocabulary}
    {direction : Direction} {ignored : WordSet} {g : Grammar}
    (h : compile catalog vocabulary direction ignored = .ok g) : g.direction = direction := by
  unfold compile at h
  split at h
  · cases h
  · cases h
    exact direction_ofRows ..

end Grammar

end Headword
