import Headword.Proofs.Grammar.Compiling
import Headword.Proofs.Trie.Laying

/-!
# Layout of a grammar

A grammar built from rows has one node for each beginning of a row and, for each category that the rows
ask for, one node for each beginning of an entry.  Rows end at the nodes of whole rows, and entries at
those of whole entries (`Grammar.exists_layout`).
-/

namespace Headword

/-- The addresses of a chart are the beginnings of the rows `laid` and of the entries of the categories
`used`, and its ends are the rows `ended` and these entries. -/
structure Chart.Holds (chart : Chart) (entries : Category → List (List String))
    (laid ended : List Slot → Prop) (used : Category → Prop) : Prop where
  rows : ∀ p, (⟨none, p⟩ : Address) ∈ chart.places ↔ p = [] ∨ ∃ row, laid row ∧ p <+: row
  subtrees : ∀ c p, (⟨some c, p⟩ : Address) ∈ chart.places ↔
    used c ∧ (p = [] ∨ ∃ e ∈ entries c, p <+: e.map Slot.word)
  rowEnds : ∀ p, (⟨none, p⟩ : Address) ∈ chart.ends ↔ ended p
  entryEnds : ∀ c p, (⟨some c, p⟩ : Address) ∈ chart.ends ↔
    used c ∧ ∃ e ∈ entries c, p = e.map Slot.word

namespace Chart.Holds

variable {chart : Chart} {entries : Category → List (List String)} {laid ended : List Slot → Prop}
  {used : Category → Prop}

theorem category_not_mem_places (hh : chart.Holds entries laid ended used) {c d : Category}
    {p : List Slot} : (⟨some c, p ++ [.category d]⟩ : Address) ∉ chart.places := by
  intro hmem
  obtain ⟨-, hp⟩ := (hh.subtrees c (p ++ [.category d])).mp hmem
  obtain ⟨e, -, hpre⟩ := hp.resolve_left (by simp)
  exact Address.not_prefix_of_category hpre

/-- The chart after a category that was not used before. -/
theorem addCategory (hh : chart.Holds entries laid ended used) {c : Category} (hc : ¬used c) :
    ((entries c).foldl (Chart.addEntry c) (chart.push (.root c))).Holds entries laid ended
      (fun d => used d ∨ d = c) := by
  have hplaces : ∀ b, b ∈ (chart.push (.root c)).places ↔ b ∈ chart.places ∨ b = .root c := by
    simp [Chart.push]
  constructor
  case rows =>
    intro p
    rw [mem_places_foldl_addEntry, hplaces, hh.rows]
    simp [Address.root]
  case subtrees =>
    intro d p
    rw [mem_places_foldl_addEntry, hplaces, hh.subtrees]
    by_cases hd : d = c
    · subst hd
      simp only [hc, false_and, false_or, or_true, true_and, Address.root, Address.mk.injEq]
      grind
    · simp [Address.root, hd]
  case rowEnds =>
    intro p
    rw [mem_ends_foldl_addEntry]
    simp [Chart.push, hh.rowEnds]
  case entryEnds =>
    intro d p
    rw [mem_ends_foldl_addEntry]
    by_cases hd : d = c
    · subst hd
      simp [Chart.push, hh.entryEnds, hc]
    · simp [Chart.push, hh.entryEnds, hd]

/-- A beginning of a row may count as laid itself. -/
theorem again (hh : chart.Holds entries laid ended used) {p : List Slot}
    (hp : (⟨none, p⟩ : Address) ∈ chart.places) :
    chart.Holds entries (fun row => laid row ∨ row = p) ended used := by
  refine ⟨?_, hh.subtrees, hh.rowEnds, hh.entryEnds⟩
  intro q
  rw [hh.rows]
  constructor
  · rintro (rfl | ⟨row, hrow, hq⟩)
    · exact .inl rfl
    · exact .inr ⟨row, .inl hrow, hq⟩
  · rintro (rfl | ⟨row, hrow | rfl, hq⟩)
    · exact .inl rfl
    · exact .inr ⟨row, hrow, hq⟩
    · rcases (hh.rows row).mp hp with rfl | ⟨row', hrow', hp'⟩
      · exact .inl (List.prefix_nil.mp hq)
      · exact .inr ⟨row', hrow', hq.trans hp'⟩

theorem next (hh : chart.Holds entries laid ended used) {p : List Slot}
    (hp : (⟨none, p⟩ : Address) ∈ chart.places) (x : Slot) :
    (chart.visit ⟨none, p ++ [x]⟩).Holds entries (fun row => laid row ∨ row = p ++ [x]) ended
      used := by
  constructor
  case rows =>
    intro q
    rw [mem_places_visit, (hh.again hp).rows]
    have hconcat : q <+: p ++ [x] ↔ q = p ++ [x] ∨ q <+: p := List.prefix_concat_iff
    simp only [Address.mk.injEq, true_and]
    grind
  case subtrees =>
    intro c q
    rw [mem_places_visit, hh.subtrees]
    simp
  case rowEnds =>
    intro q
    rw [ends_visit, hh.rowEnds]
  case entryEnds =>
    intro c q
    rw [ends_visit, hh.entryEnds]

end Chart.Holds

namespace Grammar

/-- The grammar consists of the nodes of the chart, with its roots where the chart has them. -/
structure Realizes (g : Grammar) (chart : Chart) : Prop where
  trie : g.toWordTrie.Realizes chart
  base_eq : chart.base = 0
  given_eq : chart.given = []
  root : chart.at? g.root = some .start
  categoryRoots : ∀ c i, g.categoryRoots.get c = some i ↔ chart.at? i = some (.root c)

variable {entries : Category → List (List String)} {g : Grammar} {chart : Chart}
  {laid ended : List Slot → Prop} {used : Category → Prop}

theorem Realizes.base_le (h : g.Realizes chart) (i : NodeId) : chart.base ≤ i.index := by
  rw [h.base_eq]
  exact Nat.zero_le _

/-- A larger chart without new subtrees keeps the roots. -/
theorem Realizes.extend (h : g.Realizes chart) {s : WordTrie} {chart' : Chart}
    (hs : s.Realizes chart') (hbase : chart'.base = chart.base)
    (hgiven : chart'.given = chart.given)
    (hkeep : ∀ {i : NodeId} {b}, chart.at? i = some b → chart'.at? i = some b)
    (hroots : ∀ c, .root c ∈ chart'.places → .root c ∈ chart.places) :
    ({ g with toWordTrie := s } : Grammar).Realizes chart' := by
  refine ⟨hs, hbase.trans h.base_eq, hgiven.trans h.given_eq, hkeep h.root, ?_⟩
  intro c i
  rw [h.categoryRoots]
  refine ⟨hkeep, fun hi => ?_⟩
  obtain ⟨j, hj⟩ := Chart.mem_places_iff.mp (hroots c (Chart.mem_places_of_at? hi))
  rw [Chart.at?_inj hs.nodup hi (hkeep hj)]
  exact hj

theorem empty_realizes (direction : Direction) :
    (empty direction).Realizes { places := [.start] } := by
  have hat : ∀ (i : NodeId) (a : Address), ({ places := [.start] } : Chart).at? i = some a ↔
      i = ⟨0⟩ ∧ a = .start := by
    rintro ⟨n⟩ a
    cases n <;> simp [Chart.at?, eq_comm]
  -- the root is the first node after none at all
  have htrie : (empty direction).toWordTrie.Realizes { places := [.start] } :=
    WordTrie.empty.realizes_beyond.alloc List.not_mem_nil
  refine ⟨htrie, rfl, rfl, rfl, ?_⟩
  intro c i
  rw [hat]
  cases c <;> simp [empty, Category.Table.replicate, Category.Table.get, Address.root, Address.start]

theorem holds_empty (entries : Category → List (List String)) :
    ({ places := [.start] } : Chart).Holds entries (fun _ => False) (fun _ => False)
      fun _ => False where
  rows p := by simp [Address.start]
  subtrees c p := by simp [Address.start]
  rowEnds p := by simp
  entryEnds c p := by simp

/-- A category is laid when it is first asked for, and found again later. -/
theorem Realizes.addCategory (h : g.Realizes chart) (hh : chart.Holds entries laid ended used)
    (c : Category) :
    ∃ chart' : Chart, (g.addCategory entries c).2.Realizes chart' ∧
      chart'.Holds entries laid ended (fun d => used d ∨ d = c) ∧
      chart'.at? (g.addCategory entries c).1 = some (.root c) ∧
      ∀ {i : NodeId} {b}, chart.at? i = some b → chart'.at? i = some b := by
  cases hr : g.categoryRoots.get c with
  | some r =>
    -- nothing changes, and the category counts as used already
    have hat := (h.categoryRoots c r).mp hr
    have hused : used c := ((hh.subtrees c []).mp (Chart.mem_places_of_at? hat)).1
    have hor : (fun d => used d ∨ d = c) = used := by
      funext d
      exact propext ⟨fun hd => hd.elim (fun hd => hd) fun hd => hd ▸ hused, .inl⟩
    rw [hor, Grammar.addCategory, hr]
    exact ⟨chart, h, hh, hat, fun hi => hi⟩
  | none =>
    have hnew : .root c ∉ chart.places := by
      intro hmem
      obtain ⟨i, hi⟩ := Chart.mem_places_iff.mp hmem
      rw [(h.categoryRoots c i).mpr hi] at hr
      cases hr
    have hunused : ¬used c := fun hc => hnew ((hh.subtrees c []).mpr ⟨hc, .inl rfl⟩)
    have hhold := hh.addCategory hunused
    obtain ⟨hs, hat⟩ := h.trie.addCategory hnew (entries c)
    have hkeep : ∀ {i : NodeId} {b}, chart.at? i = some b →
        ((entries c).foldl (Chart.addEntry c) (chart.push (.root c))).at? i = some b := fun hi =>
      Chart.at?_foldl_addEntry_of_eq_some (Chart.at?_push_of_eq_some hi _) c (entries c)
    rw [Grammar.addCategory, hr]
    have hbase := (Chart.base_foldl_addEntry (chart.push (.root c)) c (entries c)).trans h.base_eq
    have hgiven := (Chart.given_foldl_addEntry (chart.push (.root c)) c (entries c)).trans h.given_eq
    refine ⟨_, ⟨hs, hbase, hgiven, hkeep h.root, ?_⟩, hhold, hat, hkeep⟩
    · intro d i
      dsimp only
      by_cases hd : d = c
      · subst hd
        rw [Category.Table.get_set_self, Option.some.injEq]
        constructor
        · rintro rfl
          exact hat
        · exact fun hi => Chart.at?_inj hs.nodup hat hi
      · -- only the root of `c` is new, so the root of `d` has its old node
        rw [Category.Table.get_set_of_ne _ hd, h.categoryRoots]
        refine ⟨hkeep, fun hi => ?_⟩
        have hused := ((hhold.subtrees d []).mp (Chart.mem_places_of_at? hi)).1
        have hmem := (hh.subtrees d []).mpr ⟨hused.resolve_right hd, .inl rfl⟩
        obtain ⟨j, hj⟩ := Chart.mem_places_iff.mp hmem
        rw [Chart.at?_inj hs.nodup hi (hkeep hj)]
        exact hj

theorem Realizes.addSlot (h : g.Realizes chart) (hh : chart.Holds entries laid ended used)
    {node : NodeId} {p : List Slot} (hnode : chart.at? node = some ⟨none, p⟩) (x : Slot) :
    ∃ chart' : Chart, (g.addSlot entries node x).2.Realizes chart' ∧
      chart'.Holds entries (fun row => laid row ∨ row = p ++ [x]) ended
        (fun d => used d ∨ x = .category d) ∧
      chart'.at? (g.addSlot entries node x).1 = some ⟨none, p ++ [x]⟩ := by
  cases x with
  | word w =>
    obtain ⟨hs, hat⟩ := h.trie.addWord hnode w
    refine ⟨_, h.extend hs (Chart.base_visit ..) (Chart.given_visit ..)
      (fun hi => Chart.at?_visit_of_eq_some hi _) ?_, ?_, hat⟩
    · intro c hmem
      refine (Chart.mem_places_visit.mp hmem).resolve_right fun heq => ?_
      exact Address.next_ne_root _ _ _ heq.symm
    · have hused : (fun d => used d ∨ Slot.word w = .category d) = used := by simp
      rw [hused]
      exact hh.next (Chart.mem_places_of_at? hnode) (.word w)
  | category c =>
    obtain ⟨chart₁, h₁, hh₁, hroot, hkeep⟩ := h.addCategory hh c
    obtain ⟨hs, hat⟩ := h₁.trie.categoryChild (hkeep hnode) hroot
    refine ⟨_, h₁.extend hs (Chart.base_visit ..) (Chart.given_visit ..)
      (fun hi => Chart.at?_visit_of_eq_some hi _) ?_, ?_, hat⟩
    · intro d hmem
      refine (Chart.mem_places_visit.mp hmem).resolve_right fun heq => ?_
      exact Address.next_ne_root _ _ _ heq.symm
    · have hused : (fun d => used d ∨ Slot.category c = .category d) =
          fun d => used d ∨ d = c := by simp [eq_comm]
      rw [hused]
      exact hh₁.next (Chart.mem_places_of_at? (hkeep hnode)) (.category c)

/-- The slots after the beginning `p` of a row.  The beginnings laid on the way count as rows too. -/
theorem Realizes.addSlots (h : g.Realizes chart) (hh : chart.Holds entries laid ended used)
    {node : NodeId} {p : List Slot} (hnode : chart.at? node = some ⟨none, p⟩) (row : List Slot) :
    ∃ chart' : Chart, (g.addSlots entries node row).2.Realizes chart' ∧
      chart'.Holds entries (fun r => laid r ∨ r = p ++ row) ended
        (fun d => used d ∨ .category d ∈ row) ∧
      chart'.at? (g.addSlots entries node row).1 = some ⟨none, p ++ row⟩ := by
  induction row generalizing g chart laid used node p with
  | nil =>
    have hhold := hh.again (Chart.mem_places_of_at? hnode)
    rw [List.append_nil]
    exact ⟨chart, h, by simpa using hhold, hnode⟩
  | cons x rest ih =>
    obtain ⟨chart₁, h₁, hh₁, hat₁⟩ := h.addSlot hh hnode x
    obtain ⟨chart', h', hh', hat'⟩ := ih h₁ hh₁ hat₁
    have hassoc : p ++ [x] ++ rest = p ++ x :: rest := List.append_cons .. |>.symm
    rw [hassoc] at hh' hat'
    refine ⟨chart', h', ⟨?_, ?_, hh'.rowEnds, ?_⟩, hat'⟩
    · -- what begins the shorter row begins the longer one
      intro q
      rw [hh'.rows]
      have hpre : p ++ [x] <+: p ++ x :: rest := ⟨rest, hassoc⟩
      have hshort : ∀ q, q <+: p ++ [x] → q <+: p ++ x :: rest := fun q hq => hq.trans hpre
      grind
    · intro c q
      rw [hh'.subtrees, List.mem_cons, eq_comm (a := x), or_assoc]
    · intro c q
      rw [hh'.entryEnds, List.mem_cons, eq_comm (a := x), or_assoc]

theorem Realizes.addRow (h : g.Realizes chart) (hh : chart.Holds entries laid ended used)
    (row : List Slot) :
    ∃ chart' : Chart, (g.addRow entries row).Realizes chart' ∧
      chart'.Holds entries (fun r => laid r ∨ r = row) (fun r => ended r ∨ r = row)
        (fun d => used d ∨ .category d ∈ row) := by
  obtain ⟨chart₁, h₁, hh₁, hat⟩ := h.addSlots hh h.root row
  rw [List.nil_append] at hh₁ hat
  have hs := h₁.trie.markTemplate hat
  refine ⟨_, h₁.extend hs rfl rfl (fun hi => hi) (fun c hc => hc),
    ⟨hh₁.rows, hh₁.subtrees, ?_, ?_⟩⟩
  · intro p
    simp [Chart.mark, hh₁.rowEnds, or_comm]
  · intro c p
    simp [Chart.mark, hh₁.entryEnds]

theorem Realizes.foldl_addRow (h : g.Realizes chart) (hh : chart.Holds entries laid ended used)
    (rows : List (List Slot)) :
    ∃ chart' : Chart, (rows.foldl (Grammar.addRow entries) g).Realizes chart' ∧
      chart'.Holds entries (fun r => laid r ∨ r ∈ rows) (fun r => ended r ∨ r ∈ rows)
        (fun d => used d ∨ ∃ row ∈ rows, .category d ∈ row) := by
  induction rows generalizing g chart laid ended used with
  | nil => exact ⟨chart, h, by simpa using hh⟩
  | cons row rows ih =>
    obtain ⟨chart₁, h₁, hh₁⟩ := h.addRow hh row
    obtain ⟨chart', h', hh'⟩ := ih h₁ hh₁
    exact ⟨chart', h', by simpa only [List.mem_cons, or_assoc, exists_eq_or_imp] using hh'⟩

theorem exists_layout (direction : Direction) (entries : Category → List (List String))
    (rows : List (List Slot)) :
    ∃ chart : Chart, (ofRows direction entries rows).Realizes chart ∧
      chart.Holds entries (· ∈ rows) (· ∈ rows) fun c => ∃ row ∈ rows, .category c ∈ row := by
  obtain ⟨chart, h', hh'⟩ :=
    (empty_realizes direction).foldl_addRow (holds_empty entries) rows
  exact ⟨chart, h', by simpa only [false_or] using hh'⟩

end Grammar

theorem Grammar.eq_ofRows_of_compile_eq_ok {catalog : Catalog} {vocabulary : Vocabulary}
    {direction : Direction} {ignored : WordSet} {g : Grammar}
    (h : compile catalog vocabulary direction ignored = .ok g) :
    g = ofRows direction (fun c => walkedEntries (vocabulary.entries c) direction ignored)
      (catalog.rows vocabulary direction ignored) := by
  exact (compile_eq_ok_iff.mp h).2

/-- A grammar that compiles has the nodes of its rows and of their categories. -/
theorem Grammar.exists_layout_of_compile_eq_ok {catalog : Catalog} {vocabulary : Vocabulary}
    {direction : Direction} {ignored : WordSet} {g : Grammar}
    (h : compile catalog vocabulary direction ignored = .ok g) :
    ∃ chart : Chart, g.Realizes chart ∧
      chart.Holds (fun c => walkedEntries (vocabulary.entries c) direction ignored)
        (· ∈ catalog.rows vocabulary direction ignored)
        (· ∈ catalog.rows vocabulary direction ignored)
        fun c => ∃ row ∈ catalog.rows vocabulary direction ignored, .category c ∈ row := by
  rw [eq_ofRows_of_compile_eq_ok h]
  exact exists_layout ..

end Headword
