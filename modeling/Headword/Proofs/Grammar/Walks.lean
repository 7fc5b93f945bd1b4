import Mathlib.Data.List.Basic
import Headword.Proofs.Grammar.Language
import Headword.Proofs.Grammar.Layout
import Headword.Proofs.Trie.Walks

/-!
# Walks through a grammar

Known words lead from the start of a grammar exactly to those cursors at which they have filled the slots
passed so far (`Grammar.Realizes.walks_iff`), and a match may stop there exactly when the words are one
(`Grammar.Realizes.isMatch_iff`).
-/

namespace Headword

/-- Where words lead from the start.  A row that ends with a category is not left for the node after the
category before the next word comes: an entry that goes on may still be the one that is meant. -/
inductive Chart.Leads (chart : Chart) (entries : Category → List (List String)) :
    List String → Cursor → Prop
  | row {p ws i} : Fills (fun c e => e ∈ entries c) p ws → (∀ q c, p ≠ q ++ [.category c]) →
      chart.at? i = some ⟨none, p⟩ → chart.Leads entries ws ⟨i, none⟩
  | entry {p c us e i r} : Fills (fun c e => e ∈ entries c) p us → e ≠ [] →
      chart.at? i = some ⟨some c, e.map .word⟩ → chart.at? r = some ⟨none, p ++ [.category c]⟩ →
      chart.Leads entries (us ++ e) ⟨i, some r⟩

/-- A cursor from which the next word also leads on from the node. -/
def Trie.HandsOn (t : Trie) (b : Cursor) (i : NodeId) : Prop :=
  b = ⟨i, none⟩ ∨ (b.resume = some i ∧ (t.node b.node).ending = .entry)

theorem Trie.HandsOn.mem_step {t : Trie} {b d : Cursor} {i : NodeId} {w : WordId} (hb : t.HandsOn b i)
    (hd : d ∈ t.branches i w) : d ∈ t.step b w := by
  rw [Trie.mem_step, Trie.mem_handOver]
  rcases hb with rfl | ⟨hresume, hentry⟩
  · exact .inl ⟨d, hd, by rw [Option.or_none]⟩
  · exact .inr ⟨i, hresume, hentry, hd⟩

namespace Grammar

variable {entries : Category → List (List String)} {g : Grammar} {chart : Chart}
  {laid ended : List Slot → Prop} {used : Category → Prop}

theorem Realizes.child?_iff (h : g.Realizes chart) {i j : NodeId} {a : Address} {id : WordId}
    {w : String} (hi : chart.at? i = some a) (hw : g.lexicon.word? id = some w) :
    (g.trie.node i).child? id = some j ↔ chart.at? j = some (a.next (.word w)) := by
  rw [← WordTrie.next?_word hw, h.trie.next (h.base_le i), hi]
  simp

theorem Realizes.mem_branches_iff (h : g.Realizes chart) {i : NodeId} {a : Address} {id : WordId}
    {w : String} (hi : chart.at? i = some a) (hw : g.lexicon.word? id = some w) {b : Cursor} :
    b ∈ g.trie.branches i id ↔
      (chart.at? b.node = some (a.next (.word w)) ∧ b.resume = none) ∨
        ∃ c r, chart.at? b.node = some ((Address.root c).next (.word w)) ∧ b.resume = some r ∧
          chart.at? r = some (a.next (.category c)) := by
  have hord := h.trie.ordered (h.base_le i)
  have hresume : ∀ c r, chart.at? r = some (a.next (.category c)) ↔
      ∃ e ∈ (g.trie.node i).categoryEdges, e.category = c ∧ e.resume = r := by
    intro c r
    have hnext := h.trie.next (x := .category c) (j := r) (h.base_le i)
    rw [hi] at hnext
    simp only [WordTrie.next?, Option.map_eq_some_iff, Node.categoryEdge?_eq_some_iff hord,
      Option.some.injEq, exists_eq_left', and_assoc] at hnext
    exact hnext.symm
  rw [Trie.mem_branches, h.child?_iff hi hw]
  apply or_congr_right
  constructor
  · rintro ⟨e, he, hchild, hb⟩
    rw [h.child?_iff (h.trie.rooted (h.base_le i) he) hw] at hchild
    exact ⟨e.category, e.resume, hchild, hb, (hresume _ _).mpr ⟨e, he, rfl, rfl⟩⟩
  · rintro ⟨c, r, hnode, hb, hr⟩
    obtain ⟨e, he, rfl, rfl⟩ := (hresume c r).mp hr
    refine ⟨e, he, ?_, hb⟩
    rwa [h.child?_iff (h.trie.rooted (h.base_le i) he) hw]

theorem Realizes.mem_branches_entry_iff (h : g.Realizes chart)
    (hh : chart.Holds entries laid ended used) {i : NodeId} {c : Category} {p : List Slot} {id : WordId}
    {w : String} (hi : chart.at? i = some ⟨some c, p⟩) (hw : g.lexicon.word? id = some w)
    {b : Cursor} :
    b ∈ g.trie.branches i id ↔ chart.at? b.node = some ⟨some c, p ++ [.word w]⟩ ∧ b.resume = none := by
  rw [h.mem_branches_iff hi hw]
  apply or_iff_left
  rintro ⟨d, r, -, -, hr⟩
  exact hh.category_not_mem_places (Chart.mem_places_of_at? hr)

theorem Realizes.ending_eq_template_iff (h : g.Realizes chart)
    (hh : chart.Holds entries laid ended used) {i : NodeId} {p : List Slot}
    (hi : chart.at? i = some ⟨none, p⟩) : (g.trie.node i).ending = .template ↔ ended p := by
  rw [h.trie.ending hi, ← hh.rowEnds]
  split
  next hmem => exact iff_of_true rfl hmem
  next hmem => exact iff_of_false (by simp) hmem

theorem Realizes.ending_eq_entry_iff (h : g.Realizes chart)
    (hh : chart.Holds entries laid ended used) {i : NodeId} {c : Category} {e : List String}
    (hi : chart.at? i = some ⟨some c, e.map .word⟩) :
    (g.trie.node i).ending = .entry ↔ e ∈ entries c := by
  have hused : used c := ((hh.subtrees c _).mp (Chart.mem_places_of_at? hi)).1
  have hends : (⟨some c, e.map .word⟩ : Address) ∈ chart.ends ↔ e ∈ entries c := by
    rw [hh.entryEnds]
    constructor
    · rintro ⟨-, e', he', heq⟩
      rwa [(List.map_inj_right fun _ _ => Slot.word.inj).mp heq]
    · exact fun he => ⟨hused, e, he, rfl⟩
  rw [h.trie.ending hi, ← hends]
  split
  next hmem => exact iff_of_true rfl hmem
  next hmem => exact iff_of_false (by simp) hmem

/-- Every beginning of a row is reached by whatever fills it. -/
theorem Realizes.exists_leads (h : g.Realizes chart) (hh : chart.Holds entries laid ended used)
    {i : NodeId} {p : List Slot} {ws : List String} (hp : Fills (fun c e => e ∈ entries c) p ws)
    (hi : chart.at? i = some ⟨none, p⟩) :
    ∃ b, chart.Leads entries ws b ∧ g.trie.HandsOn b i ∧
      ((∃ q c, p = q ++ [.category c]) → (g.trie.node b.node).ending = .entry) := by
  by_cases hlast : ∃ q c, p = q ++ [.category c]
  · obtain ⟨q, c, rfl⟩ := hlast
    obtain ⟨us, e, rfl, hq, he, hne⟩ := Fills.concat_category_iff.mp hp
    -- a row asks for the category, so the subtree is there and holds the entry
    have hroot : .root c ∈ chart.places := h.trie.category (a := ⟨none, q⟩) (Chart.mem_places_of_at? hi)
    have hused : used c := ((hh.subtrees c []).mp hroot).1
    obtain ⟨k, hk⟩ := Chart.mem_places_iff.mp
      ((hh.subtrees c (e.map .word)).mpr ⟨hused, .inr ⟨e, he, List.prefix_rfl⟩⟩)
    have hentry := (h.ending_eq_entry_iff hh hk).mpr he
    exact ⟨⟨k, some i⟩, .entry hq hne hk hi, .inr ⟨rfl, hentry⟩, fun _ => hentry⟩
  · refine ⟨⟨i, none⟩, .row hp (fun q c heq => hlast ⟨q, c, heq⟩) hi, .inl rfl, ?_⟩
    exact fun hcat => absurd hcat hlast

/-- The next word from where words have led. -/
theorem Realizes.leads_of_mem_step (h : g.Realizes chart)
    (hh : chart.Holds entries laid ended used) {ws : List String} {b d : Cursor} {id : WordId}
    {w : String} (hb : chart.Leads entries ws b) (hw : g.lexicon.word? id = some w)
    (hd : d ∈ g.trie.step b id) : chart.Leads entries (ws ++ [w]) d := by
  -- what goes on from a node of the rows
  have hrow : ∀ {i p ws d}, Fills (fun c e => e ∈ entries c) p ws → chart.at? i = some ⟨none, p⟩ →
      d ∈ g.trie.branches i id → chart.Leads entries (ws ++ [w]) d := by
    intro i p ws d hp hi hd
    obtain ⟨node, resume⟩ := d
    rcases (h.mem_branches_iff hi hw).mp hd with ⟨hnode, rfl⟩ | ⟨c, r, hnode, rfl, hr⟩
    · refine .row (Fills.concat_word_iff.mpr ⟨ws, rfl, hp⟩) ?_ hnode
      intro q c heq
      cases (List.append_inj' heq rfl).2
    · exact .entry hp (by simp) hnode hr
  rw [Trie.mem_step, Trie.mem_handOver] at hd
  cases hb with
  | row hp hlast hi =>
    -- no category waits to be resumed
    rcases hd with ⟨x, hx, rfl⟩ | ⟨r, hr, -⟩
    · rw [Option.or_none]
      exact hrow hp hi hx
    · cases hr
  | @entry p c us e i r hp hne hi hr =>
    -- the entry goes on, or it is complete and the row goes on after it
    rcases hd with ⟨x, hx, rfl⟩ | ⟨r', hr', hentry, hx⟩
    · obtain ⟨hnode, hresume⟩ := (h.mem_branches_entry_iff hh hi hw).mp hx
      rw [hresume, Option.none_or, List.append_assoc]
      refine .entry hp (by simp) ?_ hr
      rw [hnode, List.map_append, List.map_singleton]
    · obtain rfl := Option.some.inj hr'
      have he := (h.ending_eq_entry_iff hh hi).mp hentry
      exact hrow (Fills.concat_category_iff.mpr ⟨us, e, rfl, hp, he, hne⟩) hr hx

/-- Where words have led, the last of them has led from where those before it had. -/
theorem Realizes.exists_mem_step (h : g.Realizes chart)
    (hh : chart.Holds entries laid ended used) {ws : List String} {d : Cursor} {id : WordId}
    {w : String} (hd : chart.Leads entries (ws ++ [w]) d) (hw : g.lexicon.word? id = some w) :
    ∃ b, chart.Leads entries ws b ∧ d ∈ g.trie.step b id := by
  generalize hvs : ws ++ [w] = vs at hd
  cases hd with
  | @row p _ i hp hlast hi =>
    rcases List.eq_nil_or_concat' p with rfl | ⟨q, x, rfl⟩
    · obtain rfl := Fills.nil_iff.mp hp
      simp at hvs
    · cases x with
      | category c => exact absurd rfl (hlast q c)
      | word v =>
        obtain ⟨us, rfl, hq⟩ := Fills.concat_word_iff.mp hp
        obtain ⟨rfl, hwv⟩ := List.append_inj' hvs rfl
        obtain rfl := List.singleton_inj.mp hwv
        obtain ⟨j, -, hj⟩ := h.trie.exists_parent hi
        obtain ⟨b, hb, hpass, -⟩ := h.exists_leads hh hq hj
        exact ⟨b, hb, hpass.mem_step ((h.mem_branches_iff hj hw).mpr (.inl ⟨hi, rfl⟩))⟩
  | @entry p c us e i r hp hne hi hr =>
    rcases List.eq_nil_or_concat' e with rfl | ⟨e', v, rfl⟩
    · exact absurd rfl hne
    · rw [← List.append_assoc] at hvs
      obtain ⟨rfl, hwv⟩ := List.append_inj' hvs rfl
      obtain rfl := List.singleton_inj.mp hwv
      rw [List.map_append, List.map_singleton] at hi
      by_cases he : e' = []
      · -- the first word of the entry, from the node before its category
        subst he
        obtain ⟨j, -, hj⟩ := h.trie.exists_parent hr
        obtain ⟨b, hb, hpass, -⟩ := h.exists_leads hh hp hj
        rw [List.append_nil]
        exact ⟨b, hb, hpass.mem_step ((h.mem_branches_iff hj hw).mpr (.inr ⟨c, r, hi, rfl, hr⟩))⟩
      · obtain ⟨j, -, hj⟩ := h.trie.exists_parent hi
        refine ⟨⟨j, some r⟩, .entry hp he hj hr, Trie.mem_step.mpr (.inl ⟨⟨i, none⟩, ?_, rfl⟩)⟩
        exact (h.mem_branches_entry_iff hh hj hw).mpr ⟨hi, rfl⟩

theorem Realizes.exists_word_of_mem_step (h : g.Realizes chart) {b d : Cursor} {id : WordId}
    (hd : d ∈ g.trie.step b id) : ∃ w, g.lexicon.word? id = some w := by
  have hbranch : ∀ {i : NodeId} {x}, x ∈ g.trie.branches i id →
      ∃ w, g.lexicon.word? id = some w := by
    intro i x hx
    rcases Trie.mem_branches.mp hx with ⟨hchild, -⟩ | ⟨e, -, hchild, -⟩
    · exact h.trie.named (h.base_le _) hchild
    · exact h.trie.named (h.base_le _) hchild
  rw [Trie.mem_step, Trie.mem_handOver] at hd
  rcases hd with ⟨x, hx, -⟩ | ⟨r, -, -, hx⟩
  · exact hbranch hx
  · exact hbranch hx

theorem Realizes.leads_nil_iff (h : g.Realizes chart) {d : Cursor} :
    chart.Leads entries [] d ↔ d = g.start := by
  constructor
  · intro hd
    generalize hvs : ([] : List String) = vs at hd
    cases hd with
    | @row p _ i hp _ hi =>
      have hnil : p = [] := Classical.by_contradiction fun hne => hp.ne_nil hne hvs.symm
      subst hnil
      rw [Chart.at?_inj h.trie.nodup hi h.root]
      rfl
    | entry _ hne =>
      exact absurd (List.append_eq_nil_iff.mp hvs.symm).2 hne
  · rintro rfl
    exact .row .nil (by simp) h.root

/-- Words lead from the start to the cursors at which they have filled slots, and nowhere else. -/
theorem Realizes.walks_iff (h : g.Realizes chart) (hh : chart.Holds entries laid ended used)
    {ids : List WordId} {d : Cursor} :
    g.trie.Walks g.start ids d ↔
      ∃ ws, ids.map g.lexicon.word? = ws.map some ∧ chart.Leads entries ws d := by
  -- by the last word: a step is known from where the words before it lead
  induction ids using List.reverseRecOn generalizing d with
  | nil =>
    constructor
    · rintro rfl
      exact ⟨[], rfl, h.leads_nil_iff.mpr rfl⟩
    · rintro ⟨ws, hws, hd⟩
      obtain rfl : ws = [] := List.map_eq_nil_iff.mp hws.symm
      exact h.leads_nil_iff.mp hd
  | append_singleton ids id ih =>
    rw [Trie.walks_concat]
    constructor
    · rintro ⟨b, hb, hd⟩
      obtain ⟨ws, hws, hlead⟩ := ih.mp hb
      obtain ⟨w, hw⟩ := h.exists_word_of_mem_step hd
      exact ⟨ws ++ [w], by simp [hws, hw], h.leads_of_mem_step hh hlead hw hd⟩
    · rintro ⟨vs, hvs, hd⟩
      rcases List.eq_nil_or_concat' vs with rfl | ⟨ws, w, rfl⟩
      · simp at hvs
      · rw [List.map_append, List.map_append] at hvs
        obtain ⟨hws, hw⟩ := List.append_inj' hvs rfl
        obtain ⟨b, hb, hstep⟩ := h.exists_mem_step hh hd (List.singleton_inj.mp hw)
        exact ⟨b, ih.mpr ⟨ws, hws, hb⟩, hstep⟩

/-- A match may stop where its words have led. -/
theorem Realizes.isMatch_iff (h : g.Realizes chart) {rows : List Slot → Prop}
    (hh : chart.Holds entries rows rows used) {ws : List String} {isLast : Bool} :
    (∃ d, chart.Leads entries ws d ∧ g.trie.completes isLast d = true) ↔
      IsMatch rows (fun c e => e ∈ entries c) (isLast = true) ws := by
  constructor
  · rintro ⟨d, hd, hstop⟩
    cases hd with
    | @row p _ i hp _ hi =>
      refine .inl ⟨p, ?_, hp⟩
      rw [← h.ending_eq_template_iff hh hi]
      rw [Trie.completes] at hstop
      split at hstop
      next hend => exact hend
      next hend => exact absurd hend (h.trie.ending_ne_entry hi)
      next => cases hstop
    | @entry p c us e i r hp hne hi hr =>
      rw [Trie.completes] at hstop
      -- the category stands in some row, which the phrase may break off there
      have hplace := (hh.rows _).mp (Chart.mem_places_of_at? hr)
      obtain ⟨row, hrow, rest, rfl⟩ := hplace.resolve_left (by simp)
      split at hstop
      next hend => exact absurd hend (h.trie.ending_ne_template hi)
      next hend =>
        have he := (h.ending_eq_entry_iff hh hi).mp hend
        have hfill := Fills.concat_category_iff.mpr ⟨us, e, rfl, hp, he, hne⟩
        rcases Bool.or_eq_true_iff.mp hstop with hlast | hresume
        · rw [List.append_assoc] at hrow
          exact .inr ⟨hlast, p, c, rest, hrow, hfill⟩
        · exact .inl ⟨_, (h.ending_eq_template_iff hh hr).mp (by simpa using hresume), hfill⟩
      next => cases hstop
  · rintro (⟨row, hrow, hfill⟩ | ⟨hlast, p, c, rest, hrow, hfill⟩)
    · obtain ⟨i, hi⟩ := Chart.mem_places_iff.mp ((hh.rows row).mpr (.inr ⟨row, hrow, List.prefix_rfl⟩))
      have htemplate := (h.ending_eq_template_iff hh hi).mpr hrow
      obtain ⟨b, hb, rfl | ⟨hresume, hentry⟩, -⟩ := h.exists_leads hh hfill hi
      · exact ⟨_, hb, by simp [Trie.completes, htemplate]⟩
      · exact ⟨_, hb, by simp [Trie.completes, htemplate, hentry, hresume]⟩
    · obtain ⟨i, hi⟩ := Chart.mem_places_iff.mp
        ((hh.rows (p ++ [.category c])).mpr (.inr ⟨_, hrow, rest, by simp⟩))
      obtain ⟨b, hb, -, hentry⟩ := h.exists_leads hh hfill hi
      exact ⟨b, hb, by simp [Trie.completes, hentry ⟨p, c, rfl⟩, hlast]⟩

end Grammar

end Headword
