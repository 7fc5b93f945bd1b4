import Headword.Proofs.Grammar.Comparing
import Headword.Proofs.Trie.Marking
import Headword.Proofs.Vocabulary

/-!
# Optional categories

A category that may be left out stands for more templates, which can as well be written out.  The grammar
of the templates written out is the same, apart from a mark at the roots of categories that no search
comes across.
-/

namespace Headword

/-- The catalog with each template written out: in its place stand the rows, apart from the empty one,
that arise when optional categories are left out. -/
def Catalog.expanded (catalog : Catalog) (vocabulary : Vocabulary) : Catalog :=
  { catalog with templates := catalog.templates.flatMap fun t =>
      ((t.expansions vocabulary.isOptional).filter fun row => !row.isEmpty).map Template.mk }

/-- The lists without their empty entries, so that no category may be left out. -/
def Vocabulary.mandatory (vocabulary : Vocabulary) : Vocabulary :=
  vocabulary.revise fun entries => entries.filter fun entry => !entry.isEmpty

namespace Grammar

def isCategoryRoot (g : Grammar) (i : NodeId) : Bool :=
  Category.all.any fun c => g.categoryRoots.get c = some i

/-- The grammar with nothing complete at the roots of categories. -/
def clearRoots (g : Grammar) : Grammar :=
  { g with trie := ⟨g.trie.nodes.mapIdx fun n node =>
      if g.isCategoryRoot ⟨n⟩ then { node with ending := .nothing } else node⟩ }

end Grammar

variable {catalog : Catalog} {vocabulary : Vocabulary} {direction : Direction} {ignored : WordSet}
  {g g' : Grammar}

/-! ## Rows and entries -/

theorem Thins.word_mem_iff {optional : Category → Prop} {row kept : List Slot}
    (h : Thins optional row kept) {w : String} : .word w ∈ kept ↔ .word w ∈ row := by
  induction h with
  | nil => exact Iff.rfl
  | keep _ ih => rw [List.mem_cons, List.mem_cons, ih]
  | skip _ _ ih => rw [ih, List.mem_cons, or_iff_right Slot.noConfusion]

/-- Words are never left out. -/
theorem Template.mentionsAny_of_mem_expansions {t : Template} {optional : Category → Bool}
    {row : List Slot} (h : row ∈ t.expansions optional) :
    (⟨row⟩ : Template).mentionsAny ignored = t.mentionsAny ignored := by
  have hthins := mem_variants_iff.mp h
  exact mentionsAny_congr fun w => and_congr_left' hthins.word_mem_iff

theorem Template.variants_eq_singleton {optional : Category → Bool} (h : ∀ c, optional c = false)
    (row : List Slot) : variants optional row = [row] := by
  induction row with
  | nil => rfl
  | cons s rest ih =>
    have hs : s.isOptional optional = false := by
      cases s with
      | word w => rfl
      | category c => exact h c
    simp [variants, ih, hs]

namespace Vocabulary

theorem entries_mandatory (vocabulary : Vocabulary) (c : Category) :
    vocabulary.mandatory.entries c = (vocabulary.entries c).filter fun entry => !entry.isEmpty :=
  entries_revise vocabulary _ c rfl

theorem isOptional_mandatory (vocabulary : Vocabulary) (c : Category) :
    vocabulary.mandatory.isOptional c = false := by
  rw [← Bool.not_eq_true, isOptional_iff, entries_mandatory]
  simp

theorem walkedEntries_mandatory (vocabulary : Vocabulary) (direction : Direction) (ignored : WordSet)
    (c : Category) :
    walkedEntries (vocabulary.mandatory.entries c) direction ignored =
      (walkedEntries (vocabulary.entries c) direction ignored).filter fun e => !e.isEmpty := by
  have horient : (fun e : List String => !e.isEmpty) ∘ direction.orient = fun e => !e.isEmpty := by
    funext e
    cases direction <;> simp
  rw [walkedEntries, walkedEntries, entries_mandatory, List.filter_map, horient, List.filter_filter,
    List.filter_filter]
  simp only [Bool.and_comm]

theorem Supplies.expanded (h : vocabulary.Supplies catalog) :
    vocabulary.mandatory.Supplies (catalog.expanded vocabulary) := by
  intro t' ht' c hc
  obtain ⟨t, ht, ht'⟩ := List.mem_flatMap.mp ht'
  obtain ⟨row, hrow, rfl⟩ := List.mem_map.mp ht'
  rw [mandatory, declares_revise]
  -- leaving categories out asks for no other ones
  have hthins := Template.mem_variants_iff.mp (List.mem_filter.mp hrow).1
  exact h t ht c (hthins.subset hc)

end Vocabulary

/-- A template without optional categories has one row. -/
theorem Template.rows_mandatory {row : List Slot} (hne : row ≠ []) (vocabulary : Vocabulary)
    (direction : Direction) (ignored : WordSet) :
    (⟨row⟩ : Template).rows vocabulary.mandatory direction ignored =
      if (⟨row⟩ : Template).mentionsAny ignored then [] else [direction.orient row] := by
  have hone : (⟨row⟩ : Template).expansions vocabulary.mandatory.isOptional = [row] :=
    variants_eq_singleton vocabulary.isOptional_mandatory row
  rw [rows, hone]
  simp [hne]

theorem Catalog.rows_expanded (catalog : Catalog) (vocabulary : Vocabulary) (direction : Direction)
    (ignored : WordSet) :
    (catalog.expanded vocabulary).rows vocabulary.mandatory direction ignored =
      catalog.rows vocabulary direction ignored := by
  rw [rows_eq_flatMap, rows_eq_flatMap, expanded, List.flatMap_assoc]
  apply List.flatMap_congr
  intro t _
  rw [List.flatMap_map]
  -- each row written out gives itself, or nothing just when its template gives nothing
  have hrow : ∀ row ∈ (t.expansions vocabulary.isOptional).filter fun row => !row.isEmpty,
      (⟨row⟩ : Template).rows vocabulary.mandatory direction ignored =
        if t.mentionsAny ignored then [] else [direction.orient row] := by
    intro row hrow
    obtain ⟨hmem, hne⟩ := List.mem_filter.mp hrow
    rw [Template.rows_mandatory (by simpa using hne), Template.mentionsAny_of_mem_expansions hmem]
  rw [List.flatMap_congr hrow, Template.rows]
  cases t.mentionsAny ignored with
  | true => simp
  | false => exact List.map_eq_flatMap.symm

/-! ## Nodes -/

theorem Node.clear_eq_self {n : Node} (h : n.ending = .nothing) : { n with ending := .nothing } = n := by
  rw [← h]

theorem Node.clear_markEntry (n : Node) :
    { n.markEntry with ending := .nothing } = { n with ending := .nothing } := by
  simp only [wordEdges_markEntry, categoryEdges_markEntry]

namespace Grammar

theorem isCategoryRoot_iff {i : NodeId} :
    g.isCategoryRoot i = true ↔ ∃ c, g.categoryRoots.get c = some i := by
  simp [isCategoryRoot, Category.mem_all]

theorem node_clearRoots (g : Grammar) (i : NodeId) :
    g.clearRoots.trie.node i =
      if g.isCategoryRoot i then { g.trie.node i with ending := .nothing } else g.trie.node i := by
  rw [clearRoots, Trie.node, Array.getElem?_mapIdx, Trie.node]
  cases g.trie.nodes[i.index]? with
  | none => simp
  | some n => rfl

/-- The grammars are the same, except that entries may be complete at the roots of categories in the
first grammar alone. -/
structure MarkedAtRoots (g g' : Grammar) : Prop where
  marked : g.toWordTrie.MarkedWithin (fun i => ∃ c, g.categoryRoots.get c = some i) g'.toWordTrie
  direction_eq : g.direction = g'.direction
  root_eq : g.root = g'.root
  categoryRoots_eq : g.categoryRoots = g'.categoryRoots

namespace MarkedAtRoots

variable {entries entries' : Category → List (List String)}

theorem addCategory (h : g.MarkedAtRoots g')
    (hentries : ∀ c, entries' c = (entries c).filter fun e => !e.isEmpty) (c : Category) :
    (g.addCategory entries c).1 = (g'.addCategory entries' c).1 ∧
      (g.addCategory entries c).2.MarkedAtRoots (g'.addCategory entries' c).2 := by
  unfold Grammar.addCategory
  rw [← h.categoryRoots_eq, hentries]
  cases hr : g.categoryRoots.get c with
  | some r => exact ⟨rfl, h⟩
  | none =>
    obtain ⟨hroot, hs⟩ := h.marked.addCategory (entries c)
    refine ⟨hroot, hs.mono ?_, h.direction_eq, h.root_eq, ?_⟩
    · rintro i (⟨d, hd⟩ | rfl)
      · -- the other roots stay where they are
        have hne : d ≠ c := by
          rintro rfl
          rw [hd] at hr
          cases hr
        exact ⟨d, (Category.Table.get_set_of_ne _ hne _).trans hd⟩
      · exact ⟨c, Category.Table.get_set_self ..⟩
    · dsimp only
      rw [hroot]

theorem addSlot (h : g.MarkedAtRoots g')
    (hentries : ∀ c, entries' c = (entries c).filter fun e => !e.isEmpty) {node node' : NodeId}
    (hnode : node = node') (x : Slot) :
    (g.addSlot entries node x).1 = (g'.addSlot entries' node' x).1 ∧
      (g.addSlot entries node x).2.MarkedAtRoots (g'.addSlot entries' node' x).2 := by
  subst hnode
  cases x with
  | word w =>
    obtain ⟨hchild, hs⟩ := h.marked.addWord (rfl : node = node) w
    exact ⟨hchild, hs, h.direction_eq, h.root_eq, h.categoryRoots_eq⟩
  | category c =>
    obtain ⟨hroot, h₁⟩ := h.addCategory hentries c
    obtain ⟨hedge, htrie⟩ := h₁.marked.trie.categoryChild node c hroot
    exact ⟨congrArg CategoryEdge.resume hedge, ⟨htrie, h₁.marked.lexicon_eq⟩, h₁.direction_eq,
      h₁.root_eq, h₁.categoryRoots_eq⟩

theorem addSlots (h : g.MarkedAtRoots g')
    (hentries : ∀ c, entries' c = (entries c).filter fun e => !e.isEmpty) {node node' : NodeId}
    (hnode : node = node') (row : List Slot) :
    (g.addSlots entries node row).1 = (g'.addSlots entries' node' row).1 ∧
      (g.addSlots entries node row).2.MarkedAtRoots (g'.addSlots entries' node' row).2 := by
  induction row generalizing g g' node node' with
  | nil => exact ⟨hnode, h⟩
  | cons x rest ih =>
    obtain ⟨hnext, h₁⟩ := h.addSlot hentries hnode x
    exact ih h₁ hnext

theorem addRow (h : g.MarkedAtRoots g')
    (hentries : ∀ c, entries' c = (entries c).filter fun e => !e.isEmpty) (row : List Slot) :
    (g.addRow entries row).MarkedAtRoots (g'.addRow entries' row) := by
  obtain ⟨hlast, h₁⟩ := h.addSlots hentries h.root_eq row
  exact ⟨⟨h₁.marked.trie.modify Node.markEntry_markTemplate hlast, h₁.marked.lexicon_eq⟩,
    h₁.direction_eq, h₁.root_eq, h₁.categoryRoots_eq⟩

/-- Without empty entries the same grammar is built, but for marks at the roots of categories. -/
theorem ofRows (direction : Direction)
    (hentries : ∀ c, entries' c = (entries c).filter fun e => !e.isEmpty) (rows : List (List Slot)) :
    (Grammar.ofRows direction entries rows).MarkedAtRoots
      (Grammar.ofRows direction entries' rows) := by
  apply List.foldl_rel
  · exact ⟨⟨⟨rfl, fun _ => .inl rfl⟩, rfl⟩, rfl, rfl, rfl⟩
  · exact fun row _ g g' h => h.addRow hentries row

/-- Clearing the roots takes away all that the first grammar has more. -/
theorem clearRoots_eq (h : g.MarkedAtRoots g')
    (hroots : ∀ c r, g'.categoryRoots.get c = some r → (g'.trie.node r).ending = .nothing) :
    g.clearRoots = g' := by
  have hsize : g.clearRoots.trie.size = g'.trie.size := by
    rw [← h.marked.trie.size_eq]
    exact Array.size_mapIdx ..
  have hnode : ∀ i, g.clearRoots.trie.node i = g'.trie.node i := by
    intro i
    rw [node_clearRoots]
    split
    next hi =>
      obtain ⟨c, hc⟩ := isCategoryRoot_iff.mp hi
      have hend := hroots c i (h.categoryRoots_eq ▸ hc)
      rcases h.marked.trie.node i with heq | ⟨-, heq⟩
      · rw [heq, Node.clear_eq_self hend]
      · rw [heq, Node.clear_markEntry, Node.clear_eq_self hend]
    next hi =>
      exact (h.marked.trie.node i).resolve_right fun hmark => hi (isCategoryRoot_iff.mpr hmark.1)
  have htrie : g.clearRoots.trie = g'.trie := Trie.ext_node hsize hnode
  obtain ⟨⟨trie, lexicon⟩, direction, root, categoryRoots⟩ := g
  obtain ⟨⟨trie', lexicon'⟩, direction', root', categoryRoots'⟩ := g'
  obtain rfl : lexicon = lexicon' := h.marked.lexicon_eq
  obtain rfl : direction = direction' := h.direction_eq
  obtain rfl : root = root' := h.root_eq
  obtain rfl : categoryRoots = categoryRoots' := h.categoryRoots_eq
  obtain rfl : _ = trie' := htrie
  rfl

end MarkedAtRoots

/-- No entry is complete at the root of a category that may not be left out, and no template is. -/
theorem ending_categoryRoot (h : compile catalog vocabulary direction ignored = .ok g) {c : Category}
    {r : NodeId} (hr : g.categoryRoots.get c = some r) (hc : vocabulary.isOptional c = false) :
    (g.trie.node r).ending = .nothing := by
  obtain ⟨chart, hg, hh⟩ := exists_layout_of_compile_eq_ok h
  have hat := (hg.categoryRoots c r).mp hr
  have hentry : (g.trie.node r).ending ≠ .entry := by
    have hiff : (g.trie.node r).ending = .entry ↔ [] ∈ vocabulary.entries c :=
      (hg.ending_eq_entry_iff hh hat).trans
        (mem_walkedEntries_iff.trans Vocabulary.offers_nil_iff)
    rw [ne_eq, hiff, ← Vocabulary.isOptional_iff, hc]
    exact Bool.false_ne_true
  have htemplate := hg.trie.ending_ne_template hat
  cases hend : (g.trie.node r).ending with
  | nothing => rfl
  | entry => exact absurd hend hentry
  | template => exact absurd hend htemplate

/-- Optional categories add nothing to what can be written out without them: the templates written out
compile to the same grammar, with nothing complete at the roots of categories, and to the same
matches. -/
theorem compile_expanded (h : compile catalog vocabulary direction ignored = .ok g) :
    compile (catalog.expanded vocabulary) vocabulary.mandatory direction ignored = .ok g.clearRoots ∧
      ∀ tokens, g.clearRoots.longestMatch? tokens = g.longestMatch? tokens := by
  obtain ⟨hsupplies, hg⟩ := compile_eq_ok_iff.mp h
  obtain ⟨g', h'⟩ : ∃ g', compile (catalog.expanded vocabulary) vocabulary.mandatory direction ignored =
      .ok g' := exists_compile_eq_ok_iff.mpr hsupplies.expanded
  have hmarked : g.MarkedAtRoots g' := by
    rw [hg, (compile_eq_ok_iff.mp h').2, Catalog.rows_expanded]
    exact .ofRows direction (fun c => vocabulary.walkedEntries_mandatory direction ignored c) _
  have hclear : g.clearRoots = g' := hmarked.clearRoots_eq fun c r hr =>
    ending_categoryRoot h' hr (vocabulary.isOptional_mandatory c)
  subst hclear
  refine ⟨h', ?_⟩
  apply longestMatch?_eq_of_lexicon_eq h' h rfl
  · intro row
    rw [← Catalog.mem_rows_iff, ← Catalog.mem_rows_iff, Catalog.rows_expanded]
  · intro c e he
    rw [← mem_walkedEntries_iff, ← mem_walkedEntries_iff, Vocabulary.walkedEntries_mandatory,
      List.mem_filter]
    simp [he]

/-- The template `{art} {verb}` written out, when articles and verbs may be left out.  The roots of both
categories lose their marks. -/
theorem compile_expanded_art_verb :
    ∃ g, compile ⟨none, [⟨[.category .article, .category .verb]⟩]⟩
        ((Vocabulary.empty.extend .article ["the", ""]).extend .verb ["", "be", "have"])
        .forward .empty = .ok g ∧
      g.clearRoots ≠ g ∧
      compile ⟨none, [⟨[.category .article, .category .verb]⟩, ⟨[.category .verb]⟩,
          ⟨[.category .article]⟩]⟩
        ((Vocabulary.empty.extend .article ["the"]).extend .verb ["be", "have"]) .forward .empty =
          .ok g.clearRoots ∧
      g.clearRoots.longestMatch? [some ⟨0⟩, some ⟨1⟩, none] =
        g.longestMatch? [some ⟨0⟩, some ⟨1⟩, none] := by
  have h : ∃ g, compile ⟨none, [⟨[.category .article, .category .verb]⟩]⟩
      ((Vocabulary.empty.extend .article ["the", ""]).extend .verb ["", "be", "have"])
      .forward .empty = .ok g ∧ g.clearRoots ≠ g := ⟨_, rfl, by decide +kernel⟩
  obtain ⟨g, hg, hne⟩ := h
  obtain ⟨hexpanded, hlongest⟩ := compile_expanded hg
  have hcatalog : Catalog.expanded ⟨none, [⟨[.category .article, .category .verb]⟩]⟩
      ((Vocabulary.empty.extend .article ["the", ""]).extend .verb ["", "be", "have"]) =
      ⟨none, [⟨[.category .article, .category .verb]⟩, ⟨[.category .verb]⟩,
        ⟨[.category .article]⟩]⟩ := by decide +kernel
  have hvocabulary : Vocabulary.mandatory
      ((Vocabulary.empty.extend .article ["the", ""]).extend .verb ["", "be", "have"]) =
      (Vocabulary.empty.extend .article ["the"]).extend .verb ["be", "have"] := by decide +kernel
  rw [hcatalog, hvocabulary] at hexpanded
  exact ⟨g, hg, hne, hexpanded, hlongest _⟩

end Grammar

end Headword
