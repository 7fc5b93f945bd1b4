import Headword.Proofs.Trie.Laying

/-!
# Tries that are extended

A category is laid in nodes of its own: its root is new, and a path that starts there goes on through
nodes that were made after it.  The nodes and the numbers of words from before stay as they were, whatever
they are.
-/

namespace Headword

namespace Trie

/-- Nodes have been added, and the nodes from before have the same edges and endings. -/
structure Extends (t t' : Trie) : Prop where
  size_le : t.size ≤ t'.size
  node_eq : ∀ i, i.index < t.size → t'.node i = t.node i

namespace Extends

variable {t t' : Trie}

theorem refl (t : Trie) : t.Extends t :=
  ⟨Nat.le_refl _, fun _ _ => rfl⟩

theorem alloc (h : t.Extends t') : t.Extends t'.alloc.2 where
  size_le := by
    have hle := h.size_le
    rw [size_alloc]
    omega
  node_eq i hi := by rw [node_alloc, h.node_eq i hi]

/-- A change of a node that was added leaves the others alone. -/
theorem modify (h : t.Extends t') {k : NodeId} (hk : t.size ≤ k.index) (f : Node → Node) :
    t.Extends (t'.modify k f) where
  size_le := by
    rw [size_modify]
    exact h.size_le
  node_eq i hi := by
    have hne : ¬(i = k ∧ k.index < t'.size) := by
      rintro ⟨rfl, -⟩
      omega
    rw [node_modify, if_neg hne, h.node_eq i hi]

theorem wordChild (h : t.Extends t') {k : NodeId} (hk : t.size ≤ k.index) (w : WordId) :
    t.Extends (t'.wordChild k w).2 := by
  cases hch : (t'.node k).child? w with
  | some j =>
    rw [wordChild_of_eq_some hch]
    exact h
  | none =>
    rw [wordChild_of_eq_none hch]
    exact h.alloc.modify hk _

end Extends

end Trie

namespace WordTrie

/-- The trie has been extended, and words have kept their numbers. -/
structure Extends (s s' : WordTrie) : Prop where
  trie : s.trie.Extends s'.trie
  word_ids : ∀ w id, s.lexicon.id? w = some id → s'.lexicon.id? w = some id

namespace Extends

variable {s s' : WordTrie} {chart : Chart}

theorem alloc (s : WordTrie) : s.Extends s.alloc.2 :=
  ⟨(Trie.Extends.refl s.trie).alloc, fun _ _ hw => hw⟩

theorem addWord (h : s.Extends s') {k : NodeId} (hk : s.trie.size ≤ k.index) (w : String) :
    s.Extends (s'.addWord k w).2 where
  trie := h.trie.wordChild hk _
  word_ids v id hv := by
    have hword := Lexicon.id?_eq_some_iff.mp (h.word_ids v id hv)
    exact Lexicon.id?_eq_some_iff.mpr (Lexicon.word?_intern_of_eq_some hword w)

theorem addPath (h : s.Extends s') (hreal : s'.Realizes chart) (hbase : s.trie.size ≤ chart.base)
    {k : NodeId} {a : Address} (hk : chart.at? k = some a) (words : List String) :
    s.Extends (s'.addPath k words).2 := by
  induction words generalizing s' chart k a with
  | nil => exact h
  | cons w rest ih =>
    -- the nodes of the chart are the ones that were added
    have hnew : s.trie.size ≤ k.index := Nat.le_trans hbase (Chart.le_and_lt_of_at?_eq_some hk).1
    obtain ⟨hnext, hat⟩ := hreal.addWord hk w
    rw [← Chart.base_visit chart (a.next (.word w))] at hbase
    exact ih (h.addWord hnew w) hnext hbase hat

theorem addEntry (h : s.Extends s') (hreal : s'.Realizes chart) (hbase : s.trie.size ≤ chart.base)
    {r : NodeId} {c : Category} (hr : chart.at? r = some (.root c)) (words : List String) :
    s.Extends (WordTrie.addEntry r s' words) := by
  obtain ⟨-, hat⟩ := hreal.addPath hr words
  have hlast := (Chart.le_and_lt_of_at?_eq_some hat).1
  rw [Chart.base_visitAll] at hlast
  have hpath := h.addPath hreal hbase hr words
  exact ⟨hpath.trie.modify (Nat.le_trans hbase hlast) _, hpath.word_ids⟩

theorem foldl_addEntry (h : s.Extends s') (hreal : s'.Realizes chart)
    (hbase : s.trie.size ≤ chart.base) {r : NodeId} {c : Category}
    (hr : chart.at? r = some (.root c)) (entries : List (List String)) :
    s.Extends (entries.foldl (WordTrie.addEntry r) s') := by
  induction entries generalizing s' chart with
  | nil => exact h
  | cons e es ih =>
    -- each entry leaves the base and the root where they are
    have hkeep : s.trie.size ≤ (chart.addEntry c e).base :=
      Nat.le_trans hbase (Nat.le_of_eq (Chart.base_visitAll chart _).symm)
    exact ih (h.addEntry hreal hbase hr e) (hreal.addEntry hr e) hkeep
      (Chart.at?_addEntry_of_eq_some hr c e)

end Extends

/-- The root of a category lies beyond the trie, and so does all that is laid from there. -/
theorem Extends.addCategory (s : WordTrie) (entries : List (List String)) :
    s.Extends (s.addCategory entries).2 := by
  have hreal : s.alloc.2.Realizes (s.beyond.push (.root .article)) :=
    s.realizes_beyond.alloc List.not_mem_nil
  have hroot : (s.beyond.push (.root .article)).at? s.alloc.1 = some (.root .article) :=
    Chart.at?_push_size s.beyond _
  exact (Extends.alloc s).foldl_addEntry hreal (Nat.le_refl _) hroot entries

end WordTrie

end Headword
