import Headword.Proofs.Matcher.Matches
import Headword.Proofs.Template.Reading

/-!
# Whole templates are found

Words that stand for a whole template are found at the matcher's end of every phrase, whatever the rest
of the phrase is.  They are known to the grammar, so the last of them keeps its punctuation.
-/

namespace Headword

/-- The lists of a vocabulary, added one after another. -/
def Vocabulary.ofLists (lists : List (Category × List String)) : Vocabulary :=
  lists.foldl (fun v list => v.extend list.1 list.2) .empty

theorem Vocabulary.isNormal_of_mem_entries {lists : List (Category × List String)} {c : Category}
    {e : Entry} (he : e ∈ (ofLists lists).entries c) {w : String} (hw : w ∈ e) : Text.IsNormal w := by
  -- by the lists, over any vocabulary of normal words that they are added to
  have hstep : ∀ (lists : List (Category × List String)) (v : Vocabulary),
      (∀ d, ∀ e ∈ v.entries d, ∀ w ∈ e, Text.IsNormal w) →
      ∀ d, ∀ e ∈ (lists.foldl (fun v list => v.extend list.1 list.2) v).entries d,
        ∀ w ∈ e, Text.IsNormal w := by
    intro lists
    induction lists with
    | nil => exact fun v hv => hv
    | cons list lists ih =>
      intro v hv
      apply ih
      intro d e he w hw
      by_cases hd : d = list.1
      · rw [hd, entries, entries?_extend_self, Option.getD_some, List.mem_append] at he
        rcases he with he | he
        · exact hv _ e he w hw
        · obtain ⟨text, -, rfl⟩ := List.mem_map.mp he
          exact Text.isNormal_of_mem_normalWords hw
      · rw [entries, entries?_extend_of_ne v hd] at he
        exact hv d e he w hw
  apply hstep lists .empty _ c e he w hw
  intro d e he
  rw [entries, entries?, empty, Category.Table.get_replicate] at he
  cases he

/-- Words that stand for a row of slots: a word for itself, and for a category an entry without ignored
words, or nothing when the category is optional. -/
inductive Renders (vocabulary : Vocabulary) (ignored : WordSet) : List Slot → List String → Prop
  | nil : Renders vocabulary ignored [] []
  | word {w row ws} : Renders vocabulary ignored row ws →
      Renders vocabulary ignored (.word w :: row) (w :: ws)
  | category {c e row ws} : e ∈ vocabulary.entries c → (∀ w ∈ e, w ∉ ignored) →
      Renders vocabulary ignored row ws → Renders vocabulary ignored (.category c :: row) (e ++ ws)
  | skip {c row ws} : [] ∈ vocabulary.entries c → Renders vocabulary ignored row ws →
      Renders vocabulary ignored (.category c :: row) ws

/-- Leaving a category out and choosing the empty entry come to the same. -/
theorem Renders.exists_fills {vocabulary : Vocabulary} {ignored : WordSet} {row : List Slot}
    {ws : List String} (h : Renders vocabulary ignored row ws) :
    ∃ kept, Thins (fun c => [] ∈ vocabulary.entries c) row kept ∧
      Fills (vocabulary.Offers .forward ignored) kept ws := by
  induction h with
  | nil => exact ⟨[], .nil, .nil⟩
  | word _ ih =>
    obtain ⟨kept, hthin, hfill⟩ := ih
    exact ⟨_, .keep hthin, .word hfill⟩
  | @category c e _ _ he havoid _ ih =>
    obtain ⟨kept, hthin, hfill⟩ := ih
    -- an entry without words is what makes the category optional
    by_cases hne : e = []
    · subst hne
      exact ⟨kept, .skip he hthin, hfill⟩
    · exact ⟨_, .keep hthin, .category ⟨e, he, havoid, rfl⟩ hne hfill⟩
  | skip hskip _ ih =>
    obtain ⟨kept, hthin, hfill⟩ := ih
    exact ⟨kept, .skip hskip hthin, hfill⟩

theorem Fills.reverse {offers offers' : Category → List String → Prop} {row : List Slot}
    {ws : List String} (hoffers : ∀ c e, offers c e → offers' c e.reverse) (h : Fills offers row ws) :
    Fills offers' row.reverse ws.reverse := by
  induction h with
  | nil => exact .nil
  | word _ ih =>
    rw [List.reverse_cons, List.reverse_cons]
    exact Fills.concat_word_iff.mpr ⟨_, rfl, ih⟩
  | category hc hne _ ih =>
    rw [List.reverse_cons, List.reverse_append]
    exact Fills.concat_category_iff.mpr
      ⟨_, _, rfl, ih, hoffers _ _ hc, fun hnil => hne (List.reverse_eq_nil_iff.mp hnil)⟩

/-- Slots filled in reading order are filled in walking order. -/
theorem Fills.orient {vocabulary : Vocabulary} {ignored : WordSet} {row : List Slot}
    {ws : List String} (h : Fills (vocabulary.Offers .forward ignored) row ws) (direction : Direction) :
    Fills (vocabulary.Offers direction ignored) (direction.orient row) (direction.orient ws) := by
  cases direction with
  | forward => exact h
  | backward =>
    rw [Direction.orient_backward, Direction.orient_backward]
    apply h.reverse
    rintro c e ⟨entry, hentry, havoid, heq⟩
    rw [heq]
    exact ⟨entry, hentry, havoid, rfl⟩

namespace Matcher

variable {catalog : Catalog} {lists : List (Category × List String)} {direction : Direction}
  {ignored : List String} {m : Matcher} {t : Template} {r : List String}

/-- What a rendering gives: words in normal form that the matcher knows and that fill a row. -/
structure Rendered (m : Matcher) (catalog : Catalog) (vocabulary : Vocabulary)
    (direction : Direction) (ignored : WordSet) (r : List String) : Prop where
  ne_nil : r ≠ []
  normal : ∀ w ∈ r, Text.IsNormal w
  known : ∀ w ∈ r, m.knows w = true
  fills : ∃ row, catalog.StandsFor vocabulary direction ignored row ∧
    Fills (vocabulary.Offers direction ignored) row (direction.orient r)

theorem rendered (hparse : ∀ t ∈ catalog.templates, ∃ text, Template.parse text = .ok t)
    (hbuild : build catalog (.ofLists lists) direction ignored = .ok m) (ht : t ∈ catalog.templates)
    (hkeep : ∀ w, .word w ∈ t.slots → w ∉ ignoredWords ignored)
    (hr : Renders (.ofLists lists) (ignoredWords ignored) t.slots r) (hne : r ≠ []) :
    m.Rendered catalog (.ofLists lists) direction (ignoredWords ignored) r := by
  obtain ⟨kept, hthin, hfill⟩ := hr.exists_fills
  have hkept : kept ≠ [] := by
    rintro rfl
    exact hne (Fills.nil_iff.mp hfill)
  have hrow : catalog.StandsFor (.ofLists lists) direction (ignoredWords ignored)
      (direction.orient kept) := ⟨t, ht, hkeep, kept, hthin, hkept, rfl⟩
  have horient := hfill.orient direction
  refine ⟨hne, ?_, ?_, _, hrow, horient⟩
  · -- templates and entries are read as words in normal form
    intro w hw
    rcases hfill.exists_slot hw with hmem | ⟨c, -, e, ⟨entry, hentry, -, rfl⟩, hmem⟩
    · obtain ⟨text, htext⟩ := hparse t ht
      exact Template.isNormal_of_parse htext (hthin.subset hmem)
    · exact Vocabulary.isNormal_of_mem_entries hentry hmem
  · intro w hw
    rw [knows, Grammar.knows_eq_true_iff,
      Grammar.mem_words_iff_of_compile_eq_ok (compile_of_build_eq_ok hbuild)]
    exact ⟨_, hrow, horient.exists_slot (Direction.mem_orient.mpr hw)⟩

theorem Rendered.phrase_join {vocabulary : Vocabulary} {ignored : WordSet}
    (h : m.Rendered catalog vocabulary direction ignored r) : m.phrase (Text.join r) = ⟨r, ""⟩ := by
  rcases List.eq_nil_or_concat' r with rfl | ⟨us, last, rfl⟩
  · exact absurd rfl h.ne_nil
  · rw [phrase, Phrase.parse, Text.normalWords_join h.normal]
    exact Phrase.ofWords_of_keeps (.inr (h.known last (by simp)))

theorem Rendered.phrase_join_append {vocabulary : Vocabulary} {ignored : WordSet}
    (h : m.Rendered catalog vocabulary direction ignored r) (x : String) :
    ∃ ys, (m.phrase (Text.join r ++ " " ++ x)).words = r ++ ys := by
  rw [phrase, Phrase.parse, Text.normalWords_append_space, Text.normalWords_join h.normal]
  -- the last word may lose its punctuation, so it matters whether it is one of the rendered words
  by_cases hx : Text.normalWords x = []
  · have hsame := h.phrase_join
    rw [phrase, Phrase.parse, Text.normalWords_join h.normal] at hsame
    rw [hx, List.append_nil, hsame]
    exact ⟨[], (List.append_nil r).symm⟩
  · exact (Phrase.reads_ofWords m.knows _).exists_append hx

theorem Rendered.phrase_append_join {vocabulary : Vocabulary} {ignored : WordSet}
    (h : m.Rendered catalog vocabulary direction ignored r) (x : String) :
    (m.phrase (x ++ " " ++ Text.join r)).words = Text.normalWords x ++ r := by
  rw [phrase, Phrase.parse, Text.normalWords_append_space, Text.normalWords_join h.normal]
  rcases List.eq_nil_or_concat' r with rfl | ⟨us, last, rfl⟩
  · exact absurd rfl h.ne_nil
  · rw [← List.append_assoc, Phrase.ofWords_of_keeps (.inr (h.known last (by simp)))]

variable {vocabulary : Vocabulary}

theorem Rendered.find_forward (h : m.Rendered catalog vocabulary .forward (ignoredWords ignored) r)
    (hbuild : build catalog vocabulary .forward ignored = .ok m) {text : String} {ys : List String}
    (htext : (m.phrase text).words = r ++ ys) :
    ∃ f, m.find text = some f ∧ r <+: Text.words f := by
  obtain ⟨row, hrow, hfill⟩ := h.fills
  obtain ⟨n, hn, hle⟩ := exists_matchLength? hbuild (p := m.phrase text) htext hrow hfill
  have hparts := parts_forward (direction_of_build_eq_ok hbuild) (m.phrase text) n
  refine ⟨_, by rw [find, split_of_eq_some hn, hparts], ?_⟩
  rw [Text.words_join fun w hw => isWord_of_mem_phrase w (List.mem_of_mem_take hw), htext]
  -- the match takes all of the rendered words and perhaps more
  rw [List.take_append, List.take_of_length_le hle]
  exact List.prefix_append ..

theorem Rendered.find_backward (h : m.Rendered catalog vocabulary .backward (ignoredWords ignored) r)
    (hbuild : build catalog vocabulary .backward ignored = .ok m) {text : String} {xs : List String}
    (htext : (m.phrase text).words = xs ++ r) :
    ∃ f, m.find text = some f ∧ r <:+ Text.words f := by
  obtain ⟨row, hrow, hfill⟩ := h.fills
  have horient : Direction.backward.orient (m.phrase text).words = r.reverse ++ xs.reverse := by
    rw [htext, Direction.orient_backward, List.reverse_append]
  obtain ⟨n, hn, hle⟩ := exists_matchLength? hbuild (p := m.phrase text) horient hrow hfill
  rw [List.length_reverse] at hle
  have hparts := parts_backward (direction_of_build_eq_ok hbuild) (m.phrase text) n
  refine ⟨_, by rw [find, split_of_eq_some hn, hparts], ?_⟩
  rw [Text.words_join fun w hw => isWord_of_mem_phrase w (List.mem_of_mem_drop hw), htext]
  have hdrop : (xs ++ r).length - n ≤ xs.length := by
    rw [List.length_append]
    omega
  rw [List.drop_append_of_le_length hdrop]
  exact List.suffix_append ..

theorem Rendered.split_join (h : m.Rendered catalog vocabulary direction (ignoredWords ignored) r)
    (hbuild : build catalog vocabulary direction ignored = .ok m) :
    m.split (Text.join r) = ⟨some (Text.join r), ""⟩ := by
  obtain ⟨row, hrow, hfill⟩ := h.fills
  have hphrase := h.phrase_join
  have horient : direction.orient (m.phrase (Text.join r)).words = direction.orient r ++ [] := by
    rw [hphrase, List.append_nil]
  obtain ⟨n, hn, hle⟩ := exists_matchLength? hbuild horient hrow hfill
  -- the match takes all of the phrase
  have hup := (le_length_of_matchLength?_eq_some hn).2
  rw [Direction.length_orient] at hle
  rw [hphrase] at hup
  obtain rfl : n = r.length := Nat.le_antisymm hup hle
  rw [split_of_eq_some hn, hphrase]
  cases hm : m.direction with
  | forward =>
    rw [parts_forward hm, List.take_length, List.drop_length]
    rfl
  | backward =>
    rw [parts_backward hm, Nat.sub_self, List.drop_zero, List.take_zero]
    rfl

/-- Words that stand for a whole template are found at the matcher's end of a phrase and, alone, leave
nothing behind. -/
theorem find_of_renders (hparse : ∀ t ∈ catalog.templates, ∃ text, Template.parse text = .ok t)
    (hbuild : build catalog (.ofLists lists) direction ignored = .ok m) (ht : t ∈ catalog.templates)
    (hkeep : ∀ w, .word w ∈ t.slots → w ∉ ignoredWords ignored)
    (hr : Renders (.ofLists lists) (ignoredWords ignored) t.slots r) (hne : r ≠ []) :
    (direction = .forward →
      (∃ f, m.find (Text.join r) = some f ∧ r <+: Text.words f) ∧
        ∀ x, ∃ f, m.find (Text.join r ++ " " ++ x) = some f ∧ r <+: Text.words f) ∧
    (direction = .backward →
      ∀ x, ∃ f, m.find (x ++ " " ++ Text.join r) = some f ∧ r <:+ Text.words f) ∧
    m.split (Text.join r) = ⟨some (Text.join r), ""⟩ := by
  have h := rendered hparse hbuild ht hkeep hr hne
  refine ⟨?_, ?_, h.split_join hbuild⟩
  · rintro rfl
    constructor
    · have hwords : (m.phrase (Text.join r)).words = r ++ [] := by
        rw [h.phrase_join, List.append_nil]
      exact h.find_forward hbuild hwords
    · intro x
      obtain ⟨ys, hys⟩ := h.phrase_join_append x
      exact h.find_forward hbuild hys
  · rintro rfl x
    exact h.find_backward hbuild (h.phrase_append_join x)

/-- The words `look at sth.`, of which the last one ends in punctuation. -/
theorem find_look_at_sth :
    ∃ m, build ⟨none, [⟨[.word "look", .category .preposition, .word "sth."]⟩]⟩
        (.ofLists [(.preposition, ["", "at", "up"])]) .backward ["Up"] = .ok m ∧
      m.split (Text.join ["look", "at", "sth."]) = ⟨some (Text.join ["look", "at", "sth."]), ""⟩ ∧
      ∀ x, ∃ f, m.find (x ++ " " ++ Text.join ["look", "at", "sth."]) = some f ∧
        ["look", "at", "sth."] <:+ Text.words f := by
  have hparse : Template.parse "look \x7bprep\x7d sth." =
      .ok ⟨[.word "look", .category .preposition, .word "sth."]⟩ := by decide +kernel
  have hkeep : "look" ∉ ignoredWords ["Up"] ∧ "sth." ∉ ignoredWords ["Up"] ∧
      "at" ∉ ignoredWords ["Up"] := by decide +kernel
  have hentry : ["at"] ∈ (Vocabulary.ofLists [(.preposition, ["", "at", "up"])]).entries .preposition := by
    decide +kernel
  have hbuild : ∃ m, build ⟨none, [⟨[.word "look", .category .preposition, .word "sth."]⟩]⟩
      (.ofLists [(.preposition, ["", "at", "up"])]) .backward ["Up"] = .ok m := ⟨_, rfl⟩
  obtain ⟨m, hm⟩ := hbuild
  have hr : Renders (.ofLists [(.preposition, ["", "at", "up"])]) (ignoredWords ["Up"])
      [.word "look", .category .preposition, .word "sth."] ["look", "at", "sth."] :=
    .word (.category (e := ["at"]) hentry (by simpa using hkeep.2.2) (.word .nil))
  have h := find_of_renders (by simpa using ⟨_, hparse⟩) hm (List.mem_singleton_self _)
    (by simpa using ⟨hkeep.1, hkeep.2.1⟩) hr (by simp)
  exact ⟨m, hm, h.2.2, h.2.1 rfl⟩

end Matcher

end Headword
