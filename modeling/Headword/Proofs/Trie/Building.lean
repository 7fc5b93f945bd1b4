import Mathlib.Data.List.Induction
import Headword.Proofs.Trie.Chart

/-!
# Building a trie that realizes a chart

Each operation on tries is one on charts: a word or a category edge visits one address, and an end marks
one.  So what a trie consists of can be read off its chart.
-/

namespace Headword

namespace Trie

theorem node_of_size_le {t : Trie} {i : NodeId} (h : t.size ≤ i.index) : t.node i = {} := by
  rw [node, Array.getElem?_eq_none h, Option.getD_none]

/-- A new node and a change of an older one: the new node has no edges yet. -/
theorem node_modify_alloc {t : Trie} {p : NodeId} (hp : p.index < t.size) (f : Node → Node)
    (i : NodeId) : (t.alloc.2.modify p f).node i = if i = p then f (t.node p) else t.node i := by
  have hlt : p.index < t.alloc.2.size := by
    rw [size_alloc]
    omega
  simp only [node_modify, node_alloc, hlt, and_true]

/-- What a change keeps at its own node it keeps everywhere. -/
theorem modify_keeps {P : Node → Node → Prop} {t : Trie} {p : NodeId} {f : Node → Node}
    (hf : P (t.node p) (f (t.node p))) (hsame : ∀ n, P n n) (i : NodeId) :
    P (t.node i) ((t.modify p f).node i) := by
  rw [node_modify]
  split
  next h =>
    rw [h.1]
    exact hf
  next => exact hsame _

theorem modify_alloc_keeps {P : Node → Node → Prop} {t : Trie} {p : NodeId} {f : Node → Node}
    (hf : P (t.node p) (f (t.node p))) (hsame : ∀ n, P n n) (i : NodeId) :
    P (t.node i) ((t.alloc.2.modify p f).node i) := by
  rw [← node_alloc t p] at hf
  rw [← node_alloc t i]
  exact modify_keeps hf hsame i

theorem wordChild_of_eq_some {t : Trie} {p j : NodeId} {w : WordId}
    (h : (t.node p).child? w = some j) : t.wordChild p w = (j, t) := by
  rw [wordChild, h]

theorem wordChild_of_eq_none {t : Trie} {p : NodeId} {w : WordId}
    (h : (t.node p).child? w = none) :
    t.wordChild p w = (⟨t.size⟩, t.alloc.2.modify p (·.addWordEdge w ⟨t.size⟩)) := by
  rw [wordChild, h]
  rfl

theorem categoryChild_of_eq_some {t : Trie} {p r : NodeId} {c : Category} {e : CategoryEdge}
    (h : (t.node p).categoryEdge? c = some e) : t.categoryChild p c r = (e, t) := by
  rw [categoryChild, h]

theorem categoryChild_of_eq_none {t : Trie} {p r : NodeId} {c : Category}
    (h : (t.node p).categoryEdge? c = none) :
    t.categoryChild p c r =
      (⟨c, r, ⟨t.size⟩⟩, t.alloc.2.modify p (·.addCategoryEdge ⟨c, r, ⟨t.size⟩⟩)) := by
  rw [categoryChild, h]
  rfl

end Trie

namespace WordTrie

def next? (s : WordTrie) (i : NodeId) : Slot → Option NodeId
  | .word w => (s.lexicon.id? w).bind (s.trie.node i).child?
  | .category c => ((s.trie.node i).categoryEdge? c).map CategoryEdge.resume

/-- The trie consists of the nodes of a chart, the edges between neighbours and the ends.  What comes
before the base of the chart is left open. -/
structure Realizes (s : WordTrie) (chart : Chart) : Prop where
  size_eq : s.trie.size = chart.size
  nodup : chart.places.Nodup
  parent : ∀ {i : NodeId} {a : Address} {x}, chart.at? i = some (a.next x) →
    ∃ j, j.index < i.index ∧ chart.at? j = some a
  category : ∀ {a : Address} {c}, a.next (.category c) ∈ chart.places → .root c ∈ chart.places
  next : ∀ {i x j}, chart.base ≤ i.index →
    (s.next? i x = some j ↔ ∃ a, chart.at? i = some a ∧ chart.at? j = some (a.next x))
  rooted : ∀ {i e}, chart.base ≤ i.index → e ∈ (s.trie.node i).categoryEdges →
    chart.at? e.root = some (.root e.category)
  named : ∀ {i id j}, chart.base ≤ i.index → (s.trie.node i).child? id = some j →
    ∃ w, s.lexicon.word? id = some w
  ordered : ∀ {i}, chart.base ≤ i.index → (s.trie.node i).Ordered
  ending : ∀ {i a}, chart.at? i = some a →
    (s.trie.node i).ending = if a ∈ chart.ends then a.ending else .nothing
  ends_subset : chart.ends ⊆ chart.places
  labelled : ∀ w ∈ s.lexicon.words, w ∈ chart.given ∨ ∃ a : Address, a.next (.word w) ∈ chart.places

theorem next?_word {s : WordTrie} {id : WordId} {w : String} (h : s.lexicon.word? id = some w)
    (i : NodeId) : s.next? i (.word w) = (s.trie.node i).child? id := by
  rw [next?, Lexicon.id?_eq_some_iff.mpr h, Option.bind_some]

theorem next?_word_eq_some_iff {s : WordTrie} {i j : NodeId} {w : String} :
    s.next? i (.word w) = some j ↔
      ∃ id, s.lexicon.word? id = some w ∧ (s.trie.node i).child? id = some j := by
  simp only [next?, Option.bind_eq_some_iff, Lexicon.id?_eq_some_iff]

theorem next?_addWordEdge {s : WordTrie} {i : NodeId} {id : WordId} {w : String}
    (hi : i.index < s.trie.size) (hch : (s.trie.node i).child? id = none)
    (hw : s.lexicon.word? id = some w) (k : NodeId) (x : Slot) :
    ({ s with trie := s.trie.alloc.2.modify i (·.addWordEdge id ⟨s.trie.size⟩) } : WordTrie).next?
      k x = if k = i ∧ x = .word w then some ⟨s.trie.size⟩ else s.next? k x := by
  have hnode := Trie.node_modify_alloc hi (·.addWordEdge id ⟨s.trie.size⟩)
  cases x with
  | category c =>
    have hne : ¬(k = i ∧ Slot.category c = .word w) := fun h => Slot.noConfusion h.2
    rw [if_neg hne, next?, next?, hnode]
    split
    next hk => rw [hk]; rfl
    next => rfl
  | word v =>
    simp only [next?, hnode, Slot.word.injEq]
    by_cases hk : k = i
    · subst hk
      cases hv : s.lexicon.id? v with
      | none =>
        have hne : v ≠ w := by
          rintro rfl
          rw [Lexicon.id?_eq_some_iff.mpr hw] at hv
          cases hv
        simp [hne]
      | some id' =>
        -- the number of a word tells it from the others
        have hid : id' = id ↔ v = w := by
          rw [Lexicon.id?_eq_some_iff] at hv
          constructor
          · rintro rfl
            exact Option.some.inj (hv.symm.trans hw)
          · rintro rfl
            rw [← Lexicon.id?_eq_some_iff] at hv hw
            exact Option.some.inj (hv.symm.trans hw)
        simp [Node.child?_addWordEdge hch, hid]
    · simp [hk]

theorem next?_addCategoryEdge {s : WordTrie} {i r : NodeId} {c : Category}
    (hi : i.index < s.trie.size) (hch : (s.trie.node i).categoryEdge? c = none) (k : NodeId)
    (x : Slot) :
    ({ s with trie := s.trie.alloc.2.modify i (·.addCategoryEdge ⟨c, r, ⟨s.trie.size⟩⟩) } :
      WordTrie).next? k x = if k = i ∧ x = .category c then some ⟨s.trie.size⟩ else s.next? k x := by
  have hnode := Trie.node_modify_alloc hi (·.addCategoryEdge ⟨c, r, ⟨s.trie.size⟩⟩)
  cases x with
  | word w =>
    have hne : ¬(k = i ∧ Slot.word w = .category c) := fun h => Slot.noConfusion h.2
    rw [if_neg hne, next?, next?, hnode]
    split
    next hk => rw [hk]; rfl
    next => rfl
  | category d =>
    simp only [next?, hnode, Slot.category.injEq]
    by_cases hk : k = i
    · subst hk
      have he : (s.trie.node k).categoryEdge?
          (⟨c, r, ⟨s.trie.size⟩⟩ : CategoryEdge).category = none := hch
      rw [if_pos rfl, Node.categoryEdge?_addCategoryEdge he]
      by_cases hd : d = c <;> simp [hd]
    · simp [hk]

/-- The chart of the nodes beyond those of a trie, as long as there are none. -/
def beyond (s : WordTrie) : Chart where
  base := s.trie.size
  given := s.lexicon.words
  places := []

theorem next?_of_size_le {s : WordTrie} {i : NodeId} (h : s.trie.size ≤ i.index) (x : Slot) :
    s.next? i x = none := by
  have hnode : s.trie.node i = {} := Trie.node_of_size_le h
  cases x with
  | word w =>
    rw [next?, hnode]
    cases s.lexicon.id? w with
    | none => rfl
    | some id => rfl
  | category c =>
    rw [next?, hnode]
    rfl

theorem at?_beyond (s : WordTrie) (i : NodeId) : s.beyond.at? i = none := by
  show (if i.index < s.trie.size then none else ([] : List Address)[i.index - s.trie.size]?) = none
  rw [List.getElem?_nil, ite_self]

/-- Whatever a trie holds, nothing lies beyond it. -/
theorem realizes_beyond (s : WordTrie) : s.Realizes s.beyond := by
  have hnode : ∀ {i : NodeId}, s.beyond.base ≤ i.index → s.trie.node i = {} :=
    fun hi => Trie.node_of_size_le hi
  constructor
  case size_eq => rfl
  case nodup => exact List.nodup_nil
  case parent =>
    intro i a x hi
    rw [at?_beyond] at hi
    cases hi
  case category =>
    intro a c hmem
    cases hmem
  case next =>
    intro i x j hbase
    rw [next?_of_size_le hbase]
    apply iff_of_false
    · simp
    · rintro ⟨a, hi, -⟩
      rw [at?_beyond] at hi
      cases hi
  case rooted =>
    intro i e hbase he
    rw [hnode hbase] at he
    cases he
  case named =>
    intro i id j hbase hj
    rw [hnode hbase] at hj
    cases hj
  case ordered =>
    intro i hbase
    rw [hnode hbase]
    exact Node.ordered_default
  case ending =>
    intro i a hi
    rw [at?_beyond] at hi
    cases hi
  case ends_subset => exact List.nil_subset _
  case labelled => exact fun w hw => .inl hw

namespace Realizes

variable {s s' : WordTrie} {chart : Chart}

theorem index_lt (h : s.Realizes chart) {i : NodeId} {a : Address} (hi : chart.at? i = some a) :
    i.index < s.trie.size := by
  rw [h.size_eq]
  exact (Chart.le_and_lt_of_at?_eq_some hi).2

-- the node before another one in its tree
theorem exists_parent (h : s.Realizes chart) {i : NodeId} {home : Option Category} {p : List Slot}
    {x : Slot} (hi : chart.at? i = some ⟨home, p ++ [x]⟩) :
    ∃ j, j.index < i.index ∧ chart.at? j = some ⟨home, p⟩ :=
  h.parent (a := ⟨home, p⟩) hi

-- a tree is there from its root on
theorem root_mem_places (h : s.Realizes chart) {i : NodeId} {home : Option Category} {p : List Slot}
    (hi : chart.at? i = some ⟨home, p⟩) : (⟨home, []⟩ : Address) ∈ chart.places := by
  induction p using List.reverseRecOn generalizing i with
  | nil => exact Chart.mem_places_of_at? hi
  | append_singleton p x ih =>
    obtain ⟨j, -, hj⟩ := h.exists_parent hi
    exact ih hj

theorem ending_ne_entry (h : s.Realizes chart) {i : NodeId} {p : List Slot}
    (hi : chart.at? i = some ⟨none, p⟩) : (s.trie.node i).ending ≠ .entry := by
  rw [h.ending hi]
  split <;> simp [Address.ending]

theorem ending_ne_template (h : s.Realizes chart) {i : NodeId} {c : Category} {p : List Slot}
    (hi : chart.at? i = some ⟨some c, p⟩) : (s.trie.node i).ending ≠ .template := by
  rw [h.ending hi]
  split <;> simp [Address.ending]

/-- A new node takes the next number.  Its address is new as well, so no edge leads on from it. -/
theorem push (h : s.Realizes chart) {b : Address} (hb : b ∉ chart.places)
    (hparent : ∀ {a : Address} {x}, b = a.next x → a ∈ chart.places)
    (hcategory : ∀ {a : Address} {c}, b = a.next (.category c) → .root c ∈ chart.places)
    (hsize : s'.trie.size = s.trie.size + 1) (hlexicon : s'.lexicon = s.lexicon)
    (hending : ∀ i, (s'.trie.node i).ending = (s.trie.node i).ending)
    (hnext : ∀ {i x j}, s'.next? i x = some j ↔
      s.next? i x = some j ∨ ∃ a, chart.at? i = some a ∧ b = a.next x ∧ j = ⟨s.trie.size⟩)
    (hrooted : ∀ {i e}, e ∈ (s'.trie.node i).categoryEdges →
      e ∈ (s.trie.node i).categoryEdges ∨ chart.at? e.root = some (.root e.category))
    (hnamed : ∀ {i id j}, (s'.trie.node i).child? id = some j →
      (s.trie.node i).child? id = some j ∨ ∃ w, s.lexicon.word? id = some w)
    (hordered : ∀ {i}, (s.trie.node i).Ordered → (s'.trie.node i).Ordered) :
    s'.Realizes (chart.push b) := by
  have hsz : s.trie.size = chart.size := h.size_eq
  have hkeep : ∀ {i : NodeId} {a}, chart.at? i = some a → (chart.push b).at? i = some a :=
    fun hi => Chart.at?_push_of_eq_some hi b
  have hcases : ∀ {i : NodeId} {a}, (chart.push b).at? i = some a →
      (i = ⟨s.trie.size⟩ ∧ a = b) ∨ chart.at? i = some a := by
    intro i a hi
    rw [Chart.at?_push] at hi
    split at hi
    next hn => exact .inl ⟨by rw [hsz, ← hn], (Option.some.inj hi).symm⟩
    next => exact .inr hi
  -- an address beyond `b` would have needed `b` before
  have hleaf : ∀ {j : NodeId} {x}, chart.at? j ≠ some (b.next x) := by
    intro j x hj
    obtain ⟨k, -, hk⟩ := h.parent hj
    exact hb (Chart.mem_places_of_at? hk)
  constructor
  case size_eq =>
    rw [hsize, hsz]
    simp only [Chart.push, Chart.size, List.length_append, List.length_singleton]
    omega
  case nodup =>
    exact List.nodup_append.mpr ⟨h.nodup, by simp, by grind⟩
  case parent =>
    intro i a x hi
    rcases hcases hi with ⟨rfl, heq⟩ | hi
    · obtain ⟨j, hj⟩ := Chart.mem_places_iff.mp (hparent heq.symm)
      exact ⟨j, by rw [hsz]; exact (Chart.le_and_lt_of_at?_eq_some hj).2, hkeep hj⟩
    · obtain ⟨j, hlt, hj⟩ := h.parent hi
      exact ⟨j, hlt, hkeep hj⟩
  case category =>
    intro a c hmem
    refine List.mem_append_left _ ?_
    rcases List.mem_append.mp hmem with hmem | hmem
    · exact h.category hmem
    · exact hcategory (List.mem_singleton.mp hmem).symm
  case next =>
    intro i x j hbase
    rw [hnext, h.next hbase]
    -- the only edge that is new leads to `b`
    constructor
    · rintro (⟨a, hi, hj⟩ | ⟨a, hi, rfl, rfl⟩)
      · exact ⟨a, hkeep hi, hkeep hj⟩
      · exact ⟨a, hkeep hi, by rw [hsz]; exact Chart.at?_push_size ..⟩
    · rintro ⟨a, hi, hj⟩
      rcases hcases hi with ⟨-, rfl⟩ | hi
      · rcases hcases hj with ⟨-, heq⟩ | hj
        · exact absurd heq (Address.next_ne_self _ _)
        · exact absurd hj hleaf
      · rcases hcases hj with ⟨rfl, heq⟩ | hj
        · exact .inr ⟨a, hi, heq.symm, rfl⟩
        · exact .inl ⟨a, hi, hj⟩
  case rooted =>
    intro i e hbase he
    rcases hrooted he with he | he
    · exact hkeep (h.rooted hbase he)
    · exact hkeep he
  case named =>
    intro i id j hbase hj
    rw [hlexicon]
    exact (hnamed hj).elim (h.named hbase) fun hw => hw
  case ordered =>
    exact fun hbase => hordered (h.ordered hbase)
  case ending =>
    intro i a hi
    rw [hending]
    rcases hcases hi with ⟨rfl, rfl⟩ | hi
    · have hnot : a ∉ chart.ends := fun ha => hb (h.ends_subset ha)
      have hfresh : s.trie.node ⟨s.trie.size⟩ = {} := Trie.node_of_size_le (Nat.le_refl _)
      rw [hfresh]
      exact (if_neg hnot).symm
    · exact h.ending hi
  case ends_subset =>
    exact fun a ha => List.mem_append_left _ (h.ends_subset ha)
  case labelled =>
    intro w hw
    rw [hlexicon] at hw
    apply (h.labelled w hw).imp id
    rintro ⟨a, ha⟩
    exact ⟨a, List.mem_append_left _ ha⟩

/-- A node at the top of a tree has no edges to it. -/
theorem alloc (h : s.Realizes chart) {home : Option Category} (hnew : ⟨home, []⟩ ∉ chart.places) :
    s.alloc.2.Realizes (chart.push ⟨home, []⟩) := by
  have hnode : ∀ i, s.alloc.2.trie.node i = s.trie.node i := Trie.node_alloc s.trie
  have hnext : ∀ i x, s.alloc.2.next? i x = s.next? i x := by
    intro i x
    cases x with
    | word w => rw [next?, next?, hnode]; rfl
    | category c => rw [next?, next?, hnode]
  refine h.push hnew (fun heq => absurd heq.symm (Address.next_ne_top _ _ _))
    (fun heq => absurd heq.symm (Address.next_ne_top _ _ _)) (Trie.size_alloc s.trie) rfl
    (fun i => by rw [hnode]) ?_ ?_ ?_ ?_
  · intro i x j
    rw [hnext]
    refine ⟨.inl, fun hj => hj.elim (fun hj => hj) ?_⟩
    rintro ⟨a, -, heq, -⟩
    exact absurd heq.symm (Address.next_ne_top _ _ _)
  · intro i e he
    exact .inl (hnode i ▸ he)
  · intro i id j hj
    exact .inl (hnode i ▸ hj)
  · intro i hi
    exact hnode i ▸ hi

/-- Marking changes what is complete at one address and nothing else. -/
theorem mark (h : s.Realizes chart) {i : NodeId} {a : Address} (hi : chart.at? i = some a)
    {f : Node → Node} (hwords : ∀ n, (f n).wordEdges = n.wordEdges)
    (hcategories : ∀ n, (f n).categoryEdges = n.categoryEdges)
    (hending : ∀ n : Node, n.ending = .nothing ∨ n.ending = a.ending → (f n).ending = a.ending) :
    ({ s with trie := s.trie.modify i f } : WordTrie).Realizes (chart.mark a) := by
  have hlt := h.index_lt hi
  have hnode : ∀ k, (s.trie.modify i f).node k = if k = i then f (s.trie.node i) else
      s.trie.node k := by
    intro k
    rw [Trie.node_modify]
    simp only [hlt, and_true]
  have hwe : ∀ k, ((s.trie.modify i f).node k).wordEdges = (s.trie.node k).wordEdges :=
    Trie.modify_keeps (P := fun n m => m.wordEdges = n.wordEdges) (hwords _) fun _ => rfl
  have hce : ∀ k, ((s.trie.modify i f).node k).categoryEdges = (s.trie.node k).categoryEdges :=
    Trie.modify_keeps (P := fun n m => m.categoryEdges = n.categoryEdges) (hcategories _) fun _ => rfl
  constructor
  case size_eq =>
    rw [Trie.size_modify, h.size_eq]
    rfl
  case nodup =>
    exact h.nodup
  case parent =>
    exact h.parent
  case category =>
    exact h.category
  case next =>
    intro k x j hbase
    refine Iff.trans (Eq.to_iff ?_) (h.next hbase)
    cases x with
    | word w => rw [next?, next?, Node.child?_congr (hwe k)]
    | category c => rw [next?, next?, Node.categoryEdge?, Node.categoryEdge?, hce]
  case rooted =>
    intro k e hbase he
    exact h.rooted hbase (hce k ▸ he)
  case named =>
    intro k id j hbase hj
    rw [Node.child?_congr (hwe k)] at hj
    exact h.named hbase hj
  case ordered =>
    intro k hbase
    have hord := h.ordered hbase
    exact ⟨(hwe k).symm ▸ hord.words, (hce k).symm ▸ hord.categories⟩
  case ending =>
    intro k b hk
    rw [hnode]
    rw [Chart.at?_mark] at hk
    by_cases hki : k = i
    · -- before, nothing was complete here or what may be
      subst hki
      obtain rfl : a = b := Option.some.inj (hi.symm.trans hk)
      have hmem : a ∈ (chart.mark a).ends := List.mem_cons_self ..
      rw [if_pos rfl, if_pos hmem]
      apply hending
      rw [h.ending hk]
      split
      · exact .inr rfl
      · exact .inl rfl
    · -- the marked address has no other node
      have hne : b ≠ a := fun hba => hki (Chart.at?_inj h.nodup hk (hba ▸ hi))
      rw [if_neg hki, h.ending hk]
      simp only [Chart.mark, List.mem_cons, hne, false_or]
  case ends_subset =>
    exact List.cons_subset.mpr ⟨Chart.mem_places_of_at? hi, h.ends_subset⟩
  case labelled =>
    exact h.labelled

/-- A new node that is reached by one new edge. -/
theorem grow (h : s.Realizes chart) {i : NodeId} {a : Address} (hi : chart.at? i = some a)
    {x : Slot} (hnew : a.next x ∉ chart.places)
    (hcategory : ∀ c, x = .category c → .root c ∈ chart.places)
    (hsize : s'.trie.size = s.trie.size + 1) (hlexicon : s'.lexicon = s.lexicon)
    (hending : ∀ k, (s'.trie.node k).ending = (s.trie.node k).ending)
    (hnext : ∀ k y, s'.next? k y = if k = i ∧ y = x then some ⟨s.trie.size⟩ else s.next? k y)
    (hrooted : ∀ {k e}, e ∈ (s'.trie.node k).categoryEdges →
      e ∈ (s.trie.node k).categoryEdges ∨ chart.at? e.root = some (.root e.category))
    (hnamed : ∀ {k id j}, (s'.trie.node k).child? id = some j →
      (s.trie.node k).child? id = some j ∨ ∃ w, s.lexicon.word? id = some w)
    (hordered : ∀ {k}, (s.trie.node k).Ordered → (s'.trie.node k).Ordered) :
    s'.Realizes (chart.push (a.next x)) ∧
      (chart.push (a.next x)).at? ⟨s.trie.size⟩ = some (a.next x) := by
  have hmem := Chart.mem_places_of_at? hi
  refine ⟨h.push hnew ?_ ?_ hsize hlexicon hending ?_ hrooted hnamed hordered, ?_⟩
  · exact fun heq => (Address.next_inj.mp heq).1 ▸ hmem
  · exact fun heq => hcategory _ (Address.next_inj.mp heq).2
  · intro k y j
    rw [hnext]
    by_cases hk : k = i ∧ y = x
    · obtain ⟨rfl, rfl⟩ := hk
      -- the new edge takes the place of no other one
      have hnone : s.next? k y ≠ some j := by
        intro hj
        obtain ⟨b, hb, hj⟩ := (h.next (Chart.le_and_lt_of_at?_eq_some hi).1).mp hj
        obtain rfl : a = b := Option.some.inj (hi.symm.trans hb)
        exact hnew (Chart.mem_places_of_at? hj)
      rw [if_pos ⟨rfl, rfl⟩, or_iff_right hnone, Option.some.injEq]
      constructor
      · exact fun hj => ⟨a, hi, rfl, hj.symm⟩
      · rintro ⟨_, _, _, hj⟩
        exact hj.symm
    · rw [if_neg hk]
      refine ⟨.inl, fun hj => hj.elim (fun hj => hj) ?_⟩
      rintro ⟨b, hb, heq, -⟩
      obtain ⟨rfl, rfl⟩ := Address.next_inj.mp heq
      exact absurd ⟨Chart.at?_inj h.nodup hb hi, rfl⟩ hk
  · rw [h.size_eq]
    exact Chart.at?_push_size ..

/-- The neighbour of a node is where the next address is. -/
theorem next?_eq_none_iff (h : s.Realizes chart) {i : NodeId} {a : Address}
    (hi : chart.at? i = some a) {x : Slot} : s.next? i x = none ↔ a.next x ∉ chart.places := by
  have hbase := (Chart.le_and_lt_of_at?_eq_some hi).1
  constructor
  · intro hnone hmem
    obtain ⟨j, hj⟩ := Chart.mem_places_iff.mp hmem
    rw [(h.next hbase).mpr ⟨a, hi, hj⟩] at hnone
    cases hnone
  · intro hnew
    cases hsome : s.next? i x with
    | none => rfl
    | some j =>
      obtain ⟨b, hb, hj⟩ := (h.next hbase).mp hsome
      obtain rfl : a = b := Option.some.inj (hi.symm.trans hb)
      exact absurd (Chart.mem_places_of_at? hj) hnew

theorem at?_of_next?_eq_some (h : s.Realizes chart) {i j : NodeId} {a : Address}
    (hi : chart.at? i = some a) {x : Slot} (hj : s.next? i x = some j) :
    chart.at? j = some (a.next x) := by
  obtain ⟨b, hb, hj⟩ := (h.next (Chart.le_and_lt_of_at?_eq_some hi).1).mp hj
  obtain rfl : a = b := Option.some.inj (hi.symm.trans hb)
  exact hj

/-- The child for a word visits the address after the word. -/
theorem wordChild (h : s.Realizes chart) {i : NodeId} {a : Address} (hi : chart.at? i = some a)
    {id : WordId} {w : String} (hw : s.lexicon.word? id = some w) :
    ({ s with trie := (s.trie.wordChild i id).2 } : WordTrie).Realizes
        (chart.visit (a.next (.word w))) ∧
      (chart.visit (a.next (.word w))).at? (s.trie.wordChild i id).1 = some (a.next (.word w)) := by
  cases hch : (s.trie.node i).child? id with
  | some j =>
    -- a child that is there has been visited
    have hj := h.at?_of_next?_eq_some hi ((next?_word hw i).trans hch)
    rw [Trie.wordChild_of_eq_some hch, Chart.visit, if_pos (Chart.mem_places_of_at? hj)]
    exact ⟨h, hj⟩
  | none =>
    have hnew := (h.next?_eq_none_iff hi).mp ((next?_word hw i).trans hch)
    rw [Trie.wordChild_of_eq_none hch, Chart.visit, if_neg hnew]
    refine h.grow hi hnew (by simp) (by rw [Trie.size_modify, Trie.size_alloc]) rfl ?_ ?_ ?_ ?_ ?_
    · exact Trie.modify_alloc_keeps (P := fun n m => m.ending = n.ending) rfl fun _ => rfl
    · exact next?_addWordEdge (h.index_lt hi) hch hw
    · intro k e he
      exact .inl (Trie.modify_alloc_keeps (P := fun n m => e ∈ m.categoryEdges → e ∈ n.categoryEdges)
        (fun he => he) (fun _ he => he) k he)
    · intro k id' j
      apply Trie.modify_alloc_keeps (P := fun n m => m.child? id' = some j →
        n.child? id' = some j ∨ ∃ w, s.lexicon.word? id' = some w)
      · intro hj
        rw [Node.child?_addWordEdge hch] at hj
        split at hj
        next hid' => exact .inr ⟨w, hid' ▸ hw⟩
        next => exact .inl hj
      · exact fun _ hj => .inl hj
    · intro k
      apply Trie.modify_alloc_keeps (P := fun n m => n.Ordered → m.Ordered)
      · exact fun hord => hord.addWordEdge hch _
      · exact fun _ hord => hord

/-- The edge for a category visits the address after the category. -/
theorem categoryChild (h : s.Realizes chart) {i r : NodeId} {a : Address}
    (hi : chart.at? i = some a) {c : Category} (hr : chart.at? r = some (.root c)) :
    ({ s with trie := (s.trie.categoryChild i c r).2 } : WordTrie).Realizes
        (chart.visit (a.next (.category c))) ∧
      (chart.visit (a.next (.category c))).at? (s.trie.categoryChild i c r).1.resume =
        some (a.next (.category c)) := by
  cases hch : (s.trie.node i).categoryEdge? c with
  | some e =>
    -- the root of the subtree is the same for every edge, so the old edge will do
    have hnext : s.next? i (.category c) = some e.resume := by rw [next?, hch]; rfl
    have hj := h.at?_of_next?_eq_some hi hnext
    rw [Trie.categoryChild_of_eq_some hch, Chart.visit, if_pos (Chart.mem_places_of_at? hj)]
    exact ⟨h, hj⟩
  | none =>
    have hnext : s.next? i (.category c) = none := by rw [next?, hch]; rfl
    have hnew := (h.next?_eq_none_iff hi).mp hnext
    rw [Trie.categoryChild_of_eq_none hch, Chart.visit, if_neg hnew]
    refine h.grow hi hnew ?_ (by rw [Trie.size_modify, Trie.size_alloc]) rfl ?_ ?_ ?_ ?_ ?_
    · rintro d heq
      cases heq
      exact Chart.mem_places_of_at? hr
    · exact Trie.modify_alloc_keeps (P := fun n m => m.ending = n.ending) rfl fun _ => rfl
    · exact next?_addCategoryEdge (h.index_lt hi) hch
    · intro k e
      apply Trie.modify_alloc_keeps (P := fun n m => e ∈ m.categoryEdges →
        e ∈ n.categoryEdges ∨ chart.at? e.root = some (.root e.category))
      · intro he
        rcases Node.mem_insertCategoryEdge.mp he with rfl | he
        · exact .inr hr
        · exact .inl he
      · exact fun _ he => .inl he
    · intro k id j hj
      exact .inl (Trie.modify_alloc_keeps (P := fun n m => m.child? id = some j → n.child? id = some j)
        (fun hj => hj) (fun _ hj => hj) k hj)
    · intro k
      apply Trie.modify_alloc_keeps (P := fun n m => n.Ordered → m.Ordered)
      · exact fun hord => hord.addCategoryEdge hch
      · exact fun _ hord => hord

end Realizes

end WordTrie

end Headword
