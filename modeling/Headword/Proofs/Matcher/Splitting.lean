import Headword.Proofs.Grammar.Cursors
import Headword.Proofs.Matcher.Matches
import Headword.Proofs.Text.Terminal

/-!
# Splitting phrases

A split takes the words of a phrase apart at one place.  Whatever is found and left can be put together
again to the normal form of the phrase.
-/

namespace Headword

namespace Phrase

/-- The words from position `start` up to position `stop`, or `none` when these are no positions of the
phrase. -/
def slice? (p : Phrase) (start stop : Nat) : Option (List String) :=
  if start ≤ stop ∧ stop ≤ p.words.length then some ((p.words.drop start).take (stop - start))
  else none

theorem slice?_take (p : Phrase) {n : Nat} (h : n ≤ p.words.length) :
    p.slice? 0 n = some (p.words.take n) := by
  unfold slice?
  rw [if_pos ⟨Nat.zero_le n, h⟩, List.drop_zero, Nat.sub_zero]

theorem slice?_drop (p : Phrase) {n : Nat} (h : n ≤ p.words.length) :
    p.slice? n p.words.length = some (p.words.drop n) := by
  unfold slice?
  rw [if_pos ⟨h, Nat.le_refl _⟩, List.take_of_length_le]
  rw [List.length_drop]

/-- Nothing is set aside from a text without terminal punctuation. -/
theorem Reads.trailing_eq_empty {declared : String → Bool} {ws : List String} {p : Phrase}
    (h : Reads declared ws p) (hrun : ∀ w ∈ ws, Text.terminalRun w = "") (hword : ∀ w ∈ ws, w ≠ "") :
    p.trailing = "" := by
  cases h with
  | whole => rfl
  | @stem us last => exact hrun last (by simp)
  | @alone us last _ hstem =>
    -- a word has more than the empty run
    have hmem : last ∈ us ++ [last] := List.mem_append_right us (List.mem_singleton_self last)
    have hsame := Text.terminalRun_of_stem_eq_empty hstem
    rw [hrun last hmem] at hsame
    exact absurd hsame.symm (hword last hmem)

end Phrase

namespace Matcher

variable {m : Matcher} {text f r : String}

theorem exists_of_split_eq_some (h : m.split text = ⟨some f, r⟩) :
    ∃ n, m.matchLength? (m.phrase text) = some n ∧
      f = Text.join (m.parts (m.phrase text) n).1 ∧
      r = (m.phrase text).attach (m.parts (m.phrase text) n).2 := by
  cases hn : m.matchLength? (m.phrase text) with
  | none =>
    rw [split_of_eq_none hn] at h
    cases h
  | some n =>
    rw [split_of_eq_some hn] at h
    cases h
    exact ⟨n, rfl, rfl, rfl⟩

theorem eq_normalize_of_split_eq_none (h : m.split text = ⟨none, r⟩) : r = Text.normalize text := by
  cases hn : m.matchLength? (m.phrase text) with
  | none =>
    rw [split_of_eq_none hn] at h
    cases h
    exact (normalize_eq_text m text).symm
  | some n =>
    rw [split_of_eq_some hn] at h
    cases h

/-- The match is made up of words that stand together at the matcher's end of the phrase, and the rest
of the other words with the punctuation that was set aside. -/
structure Divides (m : Matcher) (p : Phrase) (found left : List String) (f r : String) : Prop where
  found_ne_nil : found ≠ []
  forward : m.direction = .forward → p.words = found ++ left
  backward : m.direction = .backward → p.words = left ++ found
  found_eq : f = Text.join found
  left_eq : r = if left = [] then "" else Text.join left ++ p.trailing

theorem exists_divides (h : m.split text = ⟨some f, r⟩) :
    ∃ found left, m.Divides (m.phrase text) found left f r := by
  obtain ⟨n, hn, hf, hr⟩ := exists_of_split_eq_some h
  obtain ⟨hpos, hle⟩ := le_length_of_matchLength?_eq_some hn
  refine ⟨(m.parts (m.phrase text) n).1, (m.parts (m.phrase text) n).2, ?_, ?_, ?_, hf, ?_⟩
  · apply List.ne_nil_of_length_pos
    cases hm : m.direction with
    | forward =>
      rw [parts_forward hm, List.length_take]
      omega
    | backward =>
      rw [parts_backward hm, List.length_drop]
      omega
  · intro hm
    rw [parts_forward hm, List.take_append_drop]
  · intro hm
    rw [parts_backward hm, List.take_append_drop]
  · rw [hr, Phrase.attach]
    simp only [List.isEmpty_iff]

namespace Divides

variable {found left : List String}

theorem mem_words (h : m.Divides (m.phrase text) found left f r) {w : String}
    (hw : w ∈ found ∨ w ∈ left) : w ∈ (m.phrase text).words := by
  cases hm : m.direction with
  | forward =>
    rw [h.forward hm]
    exact List.mem_append.mpr hw
  | backward =>
    rw [h.backward hm]
    exact List.mem_append.mpr hw.symm

theorem found_ne_empty (h : m.Divides (m.phrase text) found left f r) : f ≠ "" := by
  rw [h.found_eq]
  exact Text.join_ne_empty (fun w hw => isWord_of_mem_phrase w (h.mem_words (.inl hw))) h.found_ne_nil

theorem left_eq_empty_iff (h : m.Divides (m.phrase text) found left f r) : r = "" ↔ left = [] := by
  rw [h.left_eq]
  split
  next hnil => exact iff_of_true rfl hnil
  next hne =>
    apply iff_of_false _ hne
    intro hempty
    have hword : ∀ w ∈ left, Text.IsWord w.toList := fun w hw =>
      isWord_of_mem_phrase w (h.mem_words (.inr hw))
    exact Text.join_ne_empty hword hne (String.append_eq_empty_iff.mp hempty).1

theorem normalize_forward (h : m.Divides (m.phrase text) found left f r)
    (hm : m.direction = .forward) (hr : r ≠ "") : Text.normalize text = f ++ " " ++ r := by
  have hleft : left ≠ [] := fun hnil => hr (h.left_eq_empty_iff.mpr hnil)
  rw [normalize_eq_text m, Phrase.text, h.forward hm, Text.join_append h.found_ne_nil hleft,
    h.found_eq, h.left_eq, if_neg hleft, String.append_assoc]

/-- When no punctuation is set aside, the match and the rest make up the phrase. -/
theorem normalize_eq (h : m.Divides (m.phrase text) found left f r)
    (hplain : (m.phrase text).trailing = "") :
    (m.direction = .forward → Text.normalize text = if r = "" then f else f ++ " " ++ r) ∧
      (m.direction = .backward → Text.normalize text = if r = "" then f else r ++ " " ++ f) := by
  have htext : Text.normalize text = Text.join (m.phrase text).words := by
    rw [normalize_eq_text m, Phrase.text, hplain, String.append_empty]
  have hleft := h.left_eq
  rw [hplain, String.append_empty] at hleft
  rw [htext]
  by_cases hnil : left = []
  · have hr := h.left_eq_empty_iff.mpr hnil
    rw [if_pos hr, if_pos hr, h.found_eq]
    constructor
    · intro hm
      rw [h.forward hm, hnil, List.append_nil]
    · intro hm
      rw [h.backward hm, hnil, List.nil_append]
  · have hr : ¬r = "" := fun hempty => hnil (h.left_eq_empty_iff.mp hempty)
    rw [if_neg hnil] at hleft
    rw [if_neg hr, if_neg hr, h.found_eq, hleft]
    constructor
    · intro hm
      rw [h.forward hm, Text.join_append h.found_ne_nil hnil]
    · intro hm
      rw [h.backward hm, Text.join_append hnil h.found_ne_nil]

end Divides

theorem trailing_eq_empty (h : ∀ c ∈ text.toList, Text.isTerminal c = false) :
    (m.phrase text).trailing = "" := by
  apply (reads_phrase m text).trailing_eq_empty
  · intro w hw
    exact Text.terminalRun_eq_empty fun c hc => Text.isTerminal_of_mem_normalWords h hw hc
  · rintro w hw rfl
    exact (Text.isNormal_of_mem_normalWords hw).1.1 rfl

/-- Wherever a split cuts the phrase for a match of `n` words, the phrase has such a place. -/
structure CutsWithin (m : Matcher) (p : Phrase) (n : Nat) : Prop where
  pos : 1 ≤ n
  le : n ≤ p.words.length
  forward : m.direction = .forward →
    p.slice? 0 n = some (m.parts p n).1 ∧
      p.remainder? n p.words.length = some (p.attach (m.parts p n).2)
  backward : m.direction = .backward →
    p.slice? (p.words.length - n) p.words.length = some (m.parts p n).1 ∧
      p.remainder? 0 (p.words.length - n) = some (p.attach (m.parts p n).2)

theorem cutsWithin {p : Phrase} {n : Nat} (hn : m.matchLength? p = some n) : m.CutsWithin p n := by
  obtain ⟨hpos, hle⟩ := le_length_of_matchLength?_eq_some hn
  have hsub := Nat.sub_le p.words.length n
  refine ⟨hpos, hle, fun hm => ?_, fun hm => ?_⟩
  · rw [parts_forward hm]
    exact ⟨p.slice?_take hle, p.remainder?_drop n⟩
  · rw [parts_backward hm]
    exact ⟨p.slice?_drop hsub, p.remainder?_take hsub⟩

/-- What is found and what is left make up the phrase, and they are its words when nothing is found. -/
theorem split_reassembles (m : Matcher) (text : String) :
    Text.normalize text = Text.join (m.phrase text).words ++ (m.phrase text).trailing ∧
    ((∀ c ∈ text.toList, Text.isTerminal c = false) → (m.phrase text).trailing = "") ∧
    (∀ r, m.split text = ⟨none, r⟩ → r = Text.normalize text) ∧
    ∀ f r, m.split text = ⟨some f, r⟩ →
      f ≠ "" ∧ (∃ found left, m.Divides (m.phrase text) found left f r) ∧
        (m.direction = .forward → r ≠ "" → Text.normalize text = f ++ " " ++ r) ∧
        ((m.phrase text).trailing = "" →
          (m.direction = .forward → Text.normalize text = if r = "" then f else f ++ " " ++ r) ∧
          (m.direction = .backward → Text.normalize text = if r = "" then f else r ++ " " ++ f)) := by
  refine ⟨normalize_eq_text m text, trailing_eq_empty, fun r => eq_normalize_of_split_eq_none, ?_⟩
  intro f r hsplit
  obtain ⟨found, left, hdivides⟩ := exists_divides hsplit
  exact ⟨hdivides.found_ne_empty, ⟨found, left, hdivides⟩, hdivides.normalize_forward,
    hdivides.normalize_eq⟩

theorem split_look_at_the :
    ∃ m, build ⟨none, [⟨[.category .preposition, .category .article]⟩]⟩
        ((Vocabulary.empty.extend .preposition ["at"]).extend .article ["", "the"]) .backward [] = .ok m ∧
      m.split "Look  at THE" = ⟨some "at the", "look"⟩ ∧
      Text.normalize "Look  at THE" = if "look" = "" then "at the" else "look" ++ " " ++ "at the" := by
  have h : ∃ m, build ⟨none, [⟨[.category .preposition, .category .article]⟩]⟩
      ((Vocabulary.empty.extend .preposition ["at"]).extend .article ["", "the"]) .backward [] = .ok m ∧
      m.split "Look  at THE" = ⟨some "at the", "look"⟩ := ⟨_, rfl, by decide +kernel⟩
  obtain ⟨m, hm, hsplit⟩ := h
  obtain ⟨-, hplain, -, hfound⟩ := split_reassembles m "Look  at THE"
  have htrailing := hplain (by simp [Text.isTerminal])
  exact ⟨m, hm, hsplit, ((hfound _ _ hsplit).2.2.2 htrailing).2 (direction_of_build_eq_ok hm)⟩

end Matcher

/-- A query runs into nothing: a search stays among nodes that exist and never waits to resume twice, and
a match is no longer than the phrase. -/
theorem queries_in_range :
    (∀ catalog vocabulary direction ignored g tokens,
      Grammar.compile catalog vocabulary direction ignored = .ok g →
        (∀ c, g.trie.Visits tokens g.start c →
          g.trie.Safe c ∧ (c.resume ≠ none ↔ ∃ k, g.IsEntryNode k c.node)) ∧
        g.trie.checkedLongest tokens g.start = .ok (g.longestMatch? tokens)) ∧
    ∀ m p n, Matcher.matchLength? m p = some n → m.CutsWithin p n := by
  refine ⟨?_, fun m p n hn => Matcher.cutsWithin hn⟩
  intro catalog vocabulary direction ignored g tokens h
  have hg : g.WellFormed := by
    rw [Grammar.eq_ofRows_of_compile_eq_ok h]
    exact Grammar.wellFormed_ofRows _ _ (catalog.nil_not_mem_rows vocabulary direction ignored)
  refine ⟨?_, hg.checkedLongest_eq_ok tokens⟩
  intro c hc
  have hlocated := hg.located_of_visits (Grammar.WellFormed.located_start g) hc
  exact ⟨hg.safe hlocated, hg.resume_ne_none_iff hlocated⟩

/-- The phrase `give up the!`, with `give up` an entry of its category. -/
theorem queries_in_range_give_up :
    ∃ m, Matcher.build ⟨none, [⟨[.category .verb, .category .article]⟩]⟩
        ((Vocabulary.empty.extend .verb ["give", "give up"]).extend .article ["the"]) .forward [] =
          .ok m ∧
      (∀ c, m.grammar.trie.Visits (m.tokens (m.phrase "give up the!")) m.grammar.start c →
        m.grammar.trie.Safe c ∧ (c.resume ≠ none ↔ ∃ k, m.grammar.IsEntryNode k c.node)) ∧
      m.matchLength? (m.phrase "give up the!") = some 3 ∧ m.CutsWithin (m.phrase "give up the!") 3 := by
  have h : ∃ m, Matcher.build ⟨none, [⟨[.category .verb, .category .article]⟩]⟩
      ((Vocabulary.empty.extend .verb ["give", "give up"]).extend .article ["the"]) .forward [] =
        .ok m ∧ m.matchLength? (m.phrase "give up the!") = some 3 := ⟨_, rfl, by decide +kernel⟩
  obtain ⟨m, hm, hn⟩ := h
  have hcompile := Matcher.compile_of_build_eq_ok hm
  exact ⟨m, hm, (queries_in_range.1 _ _ _ _ _ _ hcompile).1, hn, queries_in_range.2 _ _ _ hn⟩

end Headword
