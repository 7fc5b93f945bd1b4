import Headword.Matcher
import Headword.Proofs.First
import Headword.Proofs.Grammar.Compiling
import Headword.Proofs.Grammar.Knows
import Headword.Proofs.Phrase

/-!
# Matches of phrases

The longest match of a grammar stated for the words of a phrase in walking order, and for the parts into
which the matcher splits the phrase.
-/

namespace Headword

namespace Matcher

variable {catalog : Catalog} {vocabulary : Vocabulary} {direction : Direction}
  {ignored : List String} {m : Matcher}

theorem compile_of_build_eq_ok (h : build catalog vocabulary direction ignored = .ok m) :
    Grammar.compile catalog vocabulary direction (ignoredWords ignored) = .ok m.grammar := by
  rw [build, map_eq_ok_iff] at h
  obtain ⟨g, hg, rfl⟩ := h
  exact hg

/-- Success does not depend on the direction or on the ignored words. -/
theorem exists_build_eq_ok_iff :
    (∃ m, build catalog vocabulary direction ignored = .ok m) ↔ vocabulary.Supplies catalog := by
  have hcompile : (∃ g, Grammar.compile catalog vocabulary direction (ignoredWords ignored) = .ok g) ↔
      vocabulary.Supplies catalog := Grammar.exists_compile_eq_ok_iff
  rw [← hcompile]
  constructor
  · rintro ⟨m, hm⟩
    exact ⟨m.grammar, compile_of_build_eq_ok hm⟩
  · rintro ⟨g, hg⟩
    exact ⟨⟨g⟩, map_eq_ok_iff.mpr ⟨g, hg, rfl⟩⟩

/-- The match of a phrase is the longest one among its words in walking order. -/
theorem isLongest_matchLength? (h : build catalog vocabulary direction ignored = .ok m)
    (p : Phrase) :
    IsLongest (MatchesWords (catalog.StandsFor vocabulary direction (ignoredWords ignored))
      (vocabulary.Offers direction (ignoredWords ignored)) (direction.orient p.words))
      (m.matchLength? p) := by
  rw [matchLength?, tokens, direction_of_build_eq_ok h, Direction.orient_map]
  exact Grammar.isLongest_longestMatch?_map_id? (compile_of_build_eq_ok h) _

theorem length_tokens (m : Matcher) (p : Phrase) : (m.tokens p).length = p.words.length := by
  rw [tokens, Direction.length_orient, List.length_map]

theorem le_length_of_matchLength?_eq_some {p : Phrase} {n : Nat} (hn : m.matchLength? p = some n) :
    1 ≤ n ∧ n ≤ p.words.length := by
  rw [← length_tokens m p]
  exact Trie.le_length_of_longestFrom_eq_some hn

/-- Words that fill a row are part of the match when the phrase starts with them in walking order. -/
theorem exists_matchLength? (h : build catalog vocabulary direction ignored = .ok m) {p : Phrase}
    {row : List Slot} {us vs : List String} (hp : direction.orient p.words = us ++ vs)
    (hrow : catalog.StandsFor vocabulary direction (ignoredWords ignored) row)
    (hfill : Fills (vocabulary.Offers direction (ignoredWords ignored)) row us) :
    ∃ n, m.matchLength? p = some n ∧ us.length ≤ n := by
  have hlongest := isLongest_matchLength? h p
  have hmatch : MatchesWords (catalog.StandsFor vocabulary direction (ignoredWords ignored))
      (vocabulary.Offers direction (ignoredWords ignored)) (direction.orient p.words) us.length := by
    rw [hp]
    refine ⟨List.length_pos_iff.mpr (hfill.ne_nil hrow.ne_nil), by simp, .inl ⟨row, hrow, ?_⟩⟩
    rwa [List.take_left]
  cases hn : m.matchLength? p with
  -- there is a match, so the longest one is no shorter
  | none => exact absurd hmatch (hlongest.eq_none_iff.mp hn _)
  | some n => exact ⟨n, rfl, (hlongest.eq_some_iff.mp hn).2 hmatch⟩

theorem reads_phrase (m : Matcher) (text : String) :
    Phrase.Reads m.knows (Text.normalWords text) (m.phrase text) :=
  Phrase.reads_ofWords m.knows _

theorem isNormal_of_mem_phrase {text : String} : ∀ w ∈ (m.phrase text).words, Text.IsNormal w :=
  (reads_phrase m text).isNormal fun _ hw => Text.isNormal_of_mem_normalWords hw

theorem isWord_of_mem_phrase {text : String} : ∀ w ∈ (m.phrase text).words, Text.IsWord w.toList :=
  fun w hw => (isNormal_of_mem_phrase w hw).1

theorem normalize_eq_text (m : Matcher) (text : String) :
    Text.normalize text = (m.phrase text).text :=
  (reads_phrase m text).text_eq.symm

theorem parts_forward (hm : m.direction = .forward) (p : Phrase) (n : Nat) :
    m.parts p n = (p.words.take n, p.words.drop n) := by
  rw [parts, hm]

theorem parts_backward (hm : m.direction = .backward) (p : Phrase) (n : Nat) :
    m.parts p n = (p.words.drop (p.words.length - n), p.words.take (p.words.length - n)) := by
  rw [parts, hm]

theorem split_of_eq_none {text : String} (h : m.matchLength? (m.phrase text) = none) :
    m.split text = ⟨none, (m.phrase text).text⟩ := by
  rw [split, h]

theorem split_of_eq_some {text : String} {n : Nat} (h : m.matchLength? (m.phrase text) = some n) :
    m.split text = ⟨some (Text.join (m.parts (m.phrase text) n).1),
      (m.phrase text).attach (m.parts (m.phrase text) n).2⟩ := by
  rw [split, h]

theorem remove_of_eq_none {text : String} (h : m.matchLength? (m.phrase text) = none) :
    m.remove text = Text.normalize text := by
  rw [remove, split_of_eq_none h]
  exact (normalize_eq_text m text).symm

theorem exists_of_find_eq_some {text f : String} (hf : m.find text = some f) :
    ∃ n, m.matchLength? (m.phrase text) = some n ∧ f = Text.join (m.parts (m.phrase text) n).1 := by
  cases hn : m.matchLength? (m.phrase text) with
  | none =>
    rw [find, split_of_eq_none hn] at hf
    cases hf
  | some n =>
    rw [find, split_of_eq_some hn] at hf
    exact ⟨n, rfl, (Option.some.inj hf).symm⟩

theorem remove_of_find_eq_none {text : String} (h : m.find text = none) :
    m.remove text = Text.normalize text := by
  cases hn : m.matchLength? (m.phrase text) with
  | none => exact remove_of_eq_none hn
  | some n =>
    rw [find, split_of_eq_some hn] at h
    cases h

/-- A match of all words leaves nothing. -/
theorem lt_length_of_remove_ne_empty {text : String} {n : Nat}
    (hn : m.matchLength? (m.phrase text) = some n) (hne : m.remove text ≠ "") :
    n < (m.phrase text).words.length := by
  apply Nat.lt_of_not_le
  intro hle
  apply hne
  rw [remove, split_of_eq_some hn]
  cases hm : m.direction with
  | forward =>
    rw [parts_forward hm, List.drop_eq_nil_of_le hle]
    rfl
  | backward =>
    rw [parts_backward hm, Nat.sub_eq_zero_of_le hle]
    rfl

/-- What a forward matcher leaves behind ends the normal form of the text as it was. -/
theorem remove_of_direction_eq_forward (hm : m.direction = .forward) {text : String} {n : Nat}
    (hn : m.matchLength? (m.phrase text) = some n) (hlt : n < (m.phrase text).words.length) :
    m.remove text = Text.join ((Text.normalWords text).drop n) := by
  have hleft : (m.phrase text).words.drop n ≠ [] := by
    rw [ne_eq, List.drop_eq_nil_iff]
    omega
  rw [remove, split_of_eq_some hn, parts_forward hm]
  dsimp only
  rw [Phrase.attach_of_ne_nil _ hleft]
  exact (reads_phrase m text).join_drop_append_trailing hlt

/-- What a backward matcher leaves behind are the first words of the text as they were, and the
punctuation. -/
theorem remove_of_direction_eq_backward (hm : m.direction = .backward) {text : String} {n : Nat}
    (hn : m.matchLength? (m.phrase text) = some n) (hlt : n < (m.phrase text).words.length) :
    m.remove text = Text.join ((Text.normalWords text).take ((m.phrase text).words.length - n)) ++
      (m.phrase text).trailing := by
  obtain ⟨hpos, -⟩ := le_length_of_matchLength?_eq_some hn
  have hleft : (m.phrase text).words.take ((m.phrase text).words.length - n) ≠ [] := by
    apply List.ne_nil_of_length_pos
    rw [List.length_take]
    omega
  rw [remove, split_of_eq_some hn, parts_backward hm]
  dsimp only
  rw [Phrase.attach_of_ne_nil _ hleft, (reads_phrase m text).take_words (by omega)]

theorem perm_parts (m : Matcher) (p : Phrase) (n : Nat) :
    p.words.Perm ((m.parts p n).1 ++ (m.parts p n).2) := by
  cases hm : m.direction with
  | forward =>
    rw [parts_forward hm, List.take_append_drop]
  | backward =>
    rw [parts_backward hm]
    have hcomm : (p.words.take (p.words.length - n) ++ p.words.drop (p.words.length - n)).Perm
        (p.words.drop (p.words.length - n) ++ p.words.take (p.words.length - n)) :=
      List.perm_append_comm
    rwa [List.take_append_drop] at hcomm

theorem mem_words_of_mem_parts {p : Phrase} {n : Nat} {w : String}
    (hw : w ∈ (m.parts p n).1 ∨ w ∈ (m.parts p n).2) : w ∈ p.words :=
  (perm_parts m p n).symm.subset (List.mem_append.mpr hw)

theorem length_parts {p : Phrase} {n : Nat} (h : n ≤ p.words.length) :
    (m.parts p n).1.length = n ∧ (m.parts p n).2.length = p.words.length - n := by
  cases hm : m.direction with
  | forward =>
    rw [parts_forward hm, List.length_take, List.length_drop]
    exact ⟨Nat.min_eq_left h, rfl⟩
  | backward =>
    rw [parts_backward hm, List.length_drop, List.length_take]
    constructor
    · show p.words.length - (p.words.length - n) = n
      omega
    · show min (p.words.length - n) p.words.length = p.words.length - n
      omega

end Matcher

end Headword
