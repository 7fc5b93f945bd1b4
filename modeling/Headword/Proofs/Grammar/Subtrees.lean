import Headword.Proofs.Grammar.Paths
import Headword.Proofs.Trie.Extending

/-!
# Subtrees of categories

A category can be laid next to anything that a trie and its lexicon hold.  Its tree spells the entries on
offer, has a node for each of their beginnings and no other, and leaves everything else alone.
-/

namespace Headword

/-- The second trie is the first one with a new tree for lists of words at `root`. -/
structure WordTrie.AddsTree (s : WordTrie) (root : NodeId) (s' : WordTrie)
    (language : List String → Prop) : Prop where
  /-- What was there before is as it was. -/
  frame : s.Extends s'
  root_eq : root = ⟨s.trie.size⟩
  /-- The paths from the root to the ends of entries spell the language. -/
  paths : s'.Recognizes root .entry fun p => ∃ ws, language ws ∧ p = ws.map .word
  /-- Every other new node lies on such a path. -/
  on_path : ∀ i, s.trie.size ≤ i.index → i.index < s'.trie.size → i ≠ root →
    ∃ ws ∈ beginnings language, s'.Path root (ws.map .word) i
  no_category : ∀ i, s.trie.size ≤ i.index → (s'.trie.node i).categoryEdges = []
  size_eq : (s'.trie.size : ℕ∞) = s.trie.size + 1 + (beginnings language).encard

/-- The chart holds one tree of words and nothing else. -/
structure Chart.IsTree (chart : Chart) (c : Category) (language : List String → Prop) : Prop where
  places_iff : ∀ home p, (⟨home, p⟩ : Address) ∈ chart.places ↔
    home = some c ∧ (p = [] ∨ ∃ ws, language ws ∧ p <+: ws.map .word)
  ends_iff : ∀ p, (⟨some c, p⟩ : Address) ∈ chart.ends ↔ ∃ ws, language ws ∧ p = ws.map .word

namespace Chart.IsTree

variable {chart : Chart} {c : Category} {language : List String → Prop}

theorem below_eq_empty (h : chart.IsTree c language) {home : Option Category}
    (hne : home ≠ some c) : chart.below home = ∅ := by
  apply Set.eq_empty_of_forall_notMem
  intro p hp
  exact hne ((h.places_iff home p).mp hp).1

theorem length_places (h : chart.IsTree c language) (hnd : chart.places.Nodup) :
    (chart.places.length : ℕ∞) = 1 + (beginnings language).encard := by
  have hbelow : (chart.below (some c)).encard = 1 + (beginnings language).encard :=
    encard_below_of_words fun p => (h.places_iff (some c) p).trans (and_iff_right rfl)
  have hothers : ∀ d ∈ Finset.univ, d ≠ c → (chart.below (some d)).encard = 0 := by
    intro d _ hd
    rw [h.below_eq_empty fun heq => hd (Option.some.inj heq), Set.encard_empty]
  rw [length_places_eq hnd, h.below_eq_empty (by simp), Set.encard_empty, zero_add,
    Finset.sum_eq_single c hothers fun hc => absurd (Finset.mem_univ c) hc, hbelow]

theorem category_not_mem_places (h : chart.IsTree c language) (a : Address) (d : Category) :
    a.next (.category d) ∉ chart.places := by
  intro hmem
  obtain ⟨-, hp⟩ := (h.places_iff a.home (a.slots ++ [Slot.category d])).mp hmem
  obtain ⟨ws, -, hpre⟩ := hp.resolve_left (by simp)
  exact Address.not_prefix_of_category hpre

end Chart.IsTree

namespace WordTrie

theorem isTree_foldl_addEntry (s : WordTrie) (c : Category) (rows : List (List String)) :
    (rows.foldl (Chart.addEntry c) (s.beyond.push (.root c))).IsTree c (· ∈ rows) where
  places_iff home p := by
    have hroot : ∀ b, b ∈ (s.beyond.push (.root c)).places ↔ b = .root c :=
      fun _ => List.mem_singleton
    rw [Chart.mem_places_foldl_addEntry, hroot]
    simp only [Address.root, Address.mk.injEq]
    grind
  ends_iff p := by
    rw [Chart.mem_ends_foldl_addEntry]
    simp [Chart.push, beyond]

/-- A tree that a chart holds on its own is an addition. -/
theorem Realizes.addsTree {s s' : WordTrie} {chart : Chart} (h : s'.Realizes chart)
    (hbase : chart.base = s.trie.size) (hframe : s.Extends s') {c : Category}
    {language : List String → Prop} (htree : chart.IsTree c language)
    (hroot : chart.at? ⟨s.trie.size⟩ = some (.root c)) :
    s.AddsTree ⟨s.trie.size⟩ s' language where
  frame := hframe
  root_eq := rfl
  paths := h.recognizes hroot htree.ends_iff
  on_path i hle hlt hne := by
    rw [← hbase] at hle
    rw [h.size_eq] at hlt
    obtain ⟨⟨home, p⟩, ha⟩ := Chart.exists_at?_eq_some hle hlt
    obtain ⟨rfl, hp⟩ := (htree.places_iff home p).mp (Chart.mem_places_of_at? ha)
    have hnil : p ≠ [] := by
      rintro rfl
      exact hne (Chart.at?_inj h.nodup ha hroot)
    obtain ⟨ws, hws, hpre⟩ := hp.resolve_left hnil
    -- what begins a list of words is a list of words
    obtain ⟨vs, hvs, rfl⟩ := List.prefix_map_iff.mp hpre
    have hvs' : vs ≠ [] := fun heq => hnil (heq ▸ rfl)
    exact ⟨vs, ⟨hvs', ws, hws, hvs⟩, (h.path_iff hroot).mpr ha⟩
  no_category i hle := by
    rw [← hbase] at hle
    apply List.eq_nil_iff_forall_not_mem.mpr
    intro e he
    have hedge : s'.trie.HasEdge i (.category e.category) e.resume := ⟨e, he, rfl, rfl⟩
    obtain ⟨a, x, hx, -, hj⟩ := (h.hasEdge_iff hle).mp hedge
    obtain rfl : x = .category e.category := hx
    exact htree.category_not_mem_places a _ (Chart.mem_places_of_at? hj)
  size_eq := by
    rw [h.size_eq, Chart.size, hbase, Nat.cast_add, htree.length_places h.nodup, add_assoc]

theorem addsTree_addCategory (s : WordTrie) (rows : List (List String)) :
    s.AddsTree (s.addCategory rows).1 (s.addCategory rows).2 (· ∈ rows) := by
  -- a chart needs a category for each of its trees, and any will do
  obtain ⟨hreal, hroot⟩ := s.realizes_beyond.addCategory (c := .article) List.not_mem_nil rows
  exact hreal.addsTree (Chart.base_foldl_addEntry ..) (.addCategory s rows)
    (s.isTree_foldl_addEntry .article rows) hroot

/-- Whatever nodes and words there are, laying a category adds a tree for its entries without ignored
words, in walking order, and nothing else. -/
theorem category_laid_alone (s : WordTrie) (entries : List Entry) (direction : Direction)
    (ignored : WordSet) :
    s.AddsTree (s.addCategory (walkedEntries entries direction ignored)).1
      (s.addCategory (walkedEntries entries direction ignored)).2
      fun ws => ∃ entry ∈ entries, (∀ w ∈ entry, w ∉ ignored) ∧ ws = direction.orient entry := by
  have hlanguage : (fun ws => ∃ entry ∈ entries, (∀ w ∈ entry, w ∉ ignored) ∧
      ws = direction.orient entry) = (· ∈ walkedEntries entries direction ignored) := by
    funext ws
    simp only [walkedEntries, List.mem_map, List.mem_filter, Entry.avoids_iff, and_assoc,
      eq_comm (a := ws)]
  rw [hlanguage]
  exact s.addsTree_addCategory _

/-- Next to one node and one word that were there, `in` and `in front` share a node below the new root. -/
example : ((WordTrie.addCategory ⟨⟨#[{}]⟩, (Lexicon.empty.intern "in").2⟩
    (walkedEntries [["in", "front"], [], ["in"], ["inside"]] .forward (.ofList ["inside"]))).2.trie.size,
    (WordTrie.addCategory ⟨⟨#[{}]⟩, (Lexicon.empty.intern "in").2⟩
    (walkedEntries [["in", "front"], [], ["in"], ["inside"]] .forward (.ofList ["inside"]))).1) =
      (4, ⟨1⟩) := by
  decide +kernel

end WordTrie

end Headword
