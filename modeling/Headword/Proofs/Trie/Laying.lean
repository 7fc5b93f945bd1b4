import Headword.Proofs.Trie.Building

/-!
# Laying words, entries and categories

Laying a path of words visits the addresses along it, and laying a category visits those of its entries.
-/

namespace Headword

namespace WordTrie.Realizes

variable {s : WordTrie} {chart : Chart}

/-- A word that is numbered without an edge for it is one of the given words. -/
theorem intern (h : s.Realizes chart) (w : String) :
    ({ s with lexicon := (s.lexicon.intern w).2 } : WordTrie).Realizes
      { chart with given := w :: chart.given } := by
  have hkeep : ∀ {id v}, s.lexicon.word? id = some v → (s.lexicon.intern w).2.word? id = some v :=
    fun hv => Lexicon.word?_intern_of_eq_some hv w
  refine { h with next := ?next, named := ?named, labelled := ?labelled }
  case next =>
    intro i x j hbase
    refine Iff.trans ?_ (h.next hbase)
    cases x with
    | category c => exact Iff.rfl
    | word v =>
      rw [next?_word_eq_some_iff, next?_word_eq_some_iff]
      constructor
      · rintro ⟨id, hv, hj⟩
        -- the edge had a word before, and numbers keep their words
        obtain ⟨u, hu⟩ := h.named hbase hj
        obtain rfl : v = u := Option.some.inj (hv.symm.trans (hkeep hu))
        exact ⟨id, hu, hj⟩
      · rintro ⟨id, hv, hj⟩
        exact ⟨id, hkeep hv, hj⟩
  case named =>
    intro i id j hbase hj
    obtain ⟨u, hu⟩ := h.named hbase hj
    exact ⟨u, hkeep hu⟩
  case labelled =>
    intro v hv
    have hold : v = w ∨ v ∈ s.lexicon.words := by
      cases hw : s.lexicon.id? w with
      | some id =>
        rw [Lexicon.intern_of_id?_eq_some hw] at hv
        exact .inr hv
      | none =>
        rw [(Lexicon.words_intern_of_id?_eq_none hw).2] at hv
        exact (List.mem_append.mp hv).symm.imp List.mem_singleton.mp fun h => h
    rcases hold with rfl | hv
    · exact .inl (List.mem_cons_self ..)
    · exact (h.labelled v hv).imp (List.mem_cons_of_mem _) fun h => h

/-- A given word that labels an edge need not be given. -/
theorem forget {w : String} (h : s.Realizes { chart with given := w :: chart.given })
    (hw : ∃ a : Address, a.next (.word w) ∈ chart.places) : s.Realizes chart := by
  refine { h with labelled := ?_ }
  intro v hv
  rcases h.labelled v hv with hmem | ha
  · rcases List.mem_cons.mp hmem with rfl | hmem
    · exact .inr hw
    · exact .inl hmem
  · exact .inr ha

theorem addWord (h : s.Realizes chart) {i : NodeId} {a : Address} (hi : chart.at? i = some a)
    (w : String) :
    (s.addWord i w).2.Realizes (chart.visit (a.next (.word w))) ∧
      (chart.visit (a.next (.word w))).at? (s.addWord i w).1 = some (a.next (.word w)) := by
  have hgiven : ∀ b, ({ chart with given := w :: chart.given } : Chart).visit b =
      { chart.visit b with given := w :: (chart.visit b).given } := by
    intro b
    by_cases hb : b ∈ chart.places
    · simp only [Chart.visit, if_pos hb]
    · simp only [Chart.visit, if_neg hb, Chart.push]
  -- the word is given until its child has been visited
  obtain ⟨hreal, hat⟩ := (h.intern w).wordChild hi (Lexicon.word?_intern s.lexicon w)
  rw [hgiven] at hreal hat
  exact ⟨hreal.forget ⟨a, Chart.mem_places_visit.mpr (.inr rfl)⟩, hat⟩

theorem addPath (h : s.Realizes chart) {i : NodeId} {a : Address} (hi : chart.at? i = some a)
    (words : List String) :
    (s.addPath i words).2.Realizes (chart.visitAll (a.trail (words.map .word))) ∧
      (chart.visitAll (a.trail (words.map .word))).at? (s.addPath i words).1 =
        some (a.along (words.map .word)) := by
  induction words generalizing s chart i a with
  | nil => exact ⟨h, by rw [List.map_nil, Address.along_nil]; exact hi⟩
  | cons w rest ih =>
    obtain ⟨hreal, hat⟩ := h.addWord hi w
    rw [List.map_cons, ← Address.along_next]
    exact ih hreal hat

theorem markEntry (h : s.Realizes chart) {i : NodeId} {c : Category} {slots : List Slot}
    (hi : chart.at? i = some ⟨some c, slots⟩) :
    ({ s with trie := s.trie.markEntry i } : WordTrie).Realizes (chart.mark ⟨some c, slots⟩) := by
  refine h.mark hi Node.wordEdges_markEntry Node.categoryEdges_markEntry ?_
  intro n hn
  change n.ending = .nothing ∨ n.ending = .entry at hn
  -- no template ends in a subtree, so nothing keeps the mark away
  show n.markEntry.ending = .entry
  rcases hn with hn | hn <;> simp [Node.markEntry, hn]

theorem markTemplate (h : s.Realizes chart) {i : NodeId} {slots : List Slot}
    (hi : chart.at? i = some ⟨none, slots⟩) :
    ({ s with trie := s.trie.markTemplate i } : WordTrie).Realizes (chart.mark ⟨none, slots⟩) :=
  h.mark hi (fun _ => rfl) (fun _ => rfl) fun _ _ => rfl

theorem addEntry (h : s.Realizes chart) {r : NodeId} {c : Category}
    (hr : chart.at? r = some (.root c)) (words : List String) :
    (WordTrie.addEntry r s words).Realizes (chart.addEntry c words) := by
  obtain ⟨hreal, hat⟩ := h.addPath hr words
  exact hreal.markEntry hat

theorem foldl_addEntry (h : s.Realizes chart) {r : NodeId} {c : Category}
    (hr : chart.at? r = some (.root c)) (entries : List (List String)) :
    (entries.foldl (WordTrie.addEntry r) s).Realizes (entries.foldl (Chart.addEntry c) chart) := by
  induction entries generalizing s chart with
  | nil => exact h
  | cons e es ih => exact ih (h.addEntry hr e) (Chart.at?_addEntry_of_eq_some hr c e)

/-- A category is laid at its own root, and all its entries below it. -/
theorem addCategory (h : s.Realizes chart) {c : Category} (hc : .root c ∉ chart.places)
    (entries : List (List String)) :
    (s.addCategory entries).2.Realizes (entries.foldl (Chart.addEntry c) (chart.push (.root c))) ∧
      (entries.foldl (Chart.addEntry c) (chart.push (.root c))).at? (s.addCategory entries).1 =
        some (.root c) := by
  have hat : (chart.push (.root c)).at? s.alloc.1 = some (.root c) := by
    show (chart.push (.root c)).at? ⟨s.trie.size⟩ = some (.root c)
    rw [h.size_eq]
    exact Chart.at?_push_size ..
  exact ⟨(h.alloc hc).foldl_addEntry hat entries, Chart.at?_foldl_addEntry_of_eq_some hat c entries⟩

end WordTrie.Realizes

end Headword
