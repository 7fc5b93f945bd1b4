import Headword.Proofs.Matcher.Matches
import Headword.Proofs.Text.Reducing

/-!
# What matchers leave

A match and what it leaves behind are made of words in normal form, and together they have no more words
than the phrase: the punctuation that is attached again is a word only where it was one before.
-/

namespace Headword

theorem Text.join_concat_append (us : List String) (w s : String) :
    join (us ++ [w]) ++ s = join (us ++ [w ++ s]) := by
  by_cases hus : us = []
  · rw [hus, List.nil_append, List.nil_append, join_singleton, join_singleton]
  · rw [join_append hus (List.cons_ne_nil _ _), join_append hus (List.cons_ne_nil _ _), join_singleton,
      join_singleton, String.append_assoc]

namespace Phrase.Reads

variable {declared : String → Bool} {ws us : List String} {p : Phrase}

/-- Some words of the phrase and the punctuation make up words in normal form again, and one more at
most: the last word of the phrase when it is all punctuation. -/
theorem exists_attach_eq (h : Reads declared ws p) (hws : ∀ w ∈ ws, Text.IsNormal w)
    (hus : us ⊆ p.words) :
    ∃ vs, p.attach us = Text.join vs ∧ (∀ v ∈ vs, Text.IsNormal v) ∧
      vs.length + p.words.length ≤ us.length + ws.length := by
  have hlen := h.length_words_le
  have hnormal : ∀ u ∈ us, Text.IsNormal u := fun u hu => h.isNormal hws u (hus hu)
  by_cases hnil : us = []
  · refine ⟨[], ?_, fun v hv => absurd hv List.not_mem_nil, ?_⟩
    · rw [hnil, attach_nil, Text.join_nil]
    · rw [hnil]
      show 0 + p.words.length ≤ 0 + ws.length
      omega
  · rw [attach_of_ne_nil p hnil]
    cases h with
    | whole =>
      exact ⟨us, String.append_empty, hnormal, Nat.le_refl _⟩
    | @stem rest last haside hstem =>
      -- the punctuation joins the last of the words
      obtain ⟨front, u, rfl⟩ := (List.eq_nil_or_concat' us).resolve_left hnil
      obtain ⟨hfront, hlast⟩ := List.forall_mem_append.mp hnormal
      have hended : Text.IsNormal (u ++ Text.terminalRun last) :=
        (List.forall_mem_singleton.mp hlast).append_terminal (Text.sheds_stem last).terminal
      refine ⟨front ++ [u ++ Text.terminalRun last], Text.join_concat_append front u _,
        List.forall_mem_append.mpr ⟨hfront, List.forall_mem_singleton.mpr hended⟩, ?_⟩
      simp only [List.length_append, List.length_singleton]
      omega
    | @alone rest last haside hstem =>
      -- the last word of the phrase comes back as it was
      have hrest : rest ≠ [] := by
        intro hempty
        rw [hempty] at hus
        exact hnil (List.subset_nil.mp hus)
      have hlast : Text.IsNormal last :=
        hws last (List.mem_append_right rest (List.mem_singleton_self last))
      refine ⟨us ++ [last], ?_,
        List.forall_mem_append.mpr ⟨hnormal, List.forall_mem_singleton.mpr hlast⟩, ?_⟩
      · show Text.join us ++ (if rest = [] then _ else _) = _
        rw [if_neg hrest, Text.terminalRun_of_stem_eq_empty hstem,
          Text.join_append hnil (List.cons_ne_nil _ _), Text.join_singleton, String.append_assoc]
      · simp only [List.length_append, List.length_singleton]
        omega

end Phrase.Reads

namespace Matcher

variable {m : Matcher} {text f : String} {p : Phrase} {n : Nat}

/-- A match takes its own words away and leaves no other ones behind. -/
theorem exists_remove_eq_join (hn : m.matchLength? (m.phrase text) = some n) :
    ∃ vs, m.remove text = Text.join vs ∧ (∀ v ∈ vs, Text.IsNormal v) ∧
      vs.length + n ≤ (Text.normalWords text).length := by
  have hle := (le_length_of_matchLength?_eq_some hn).2
  have hleft : (m.parts (m.phrase text) n).2 ⊆ (m.phrase text).words := fun w hw =>
    mem_words_of_mem_parts (.inr hw)
  obtain ⟨vs, hattach, hvs, hlen⟩ := (reads_phrase m text).exists_attach_eq
    (fun _ hw => Text.isNormal_of_mem_normalWords hw) hleft
  refine ⟨vs, ?_, hvs, ?_⟩
  · rw [remove, split_of_eq_some hn]
    exact hattach
  · rw [(length_parts hle).2] at hlen
    omega

theorem isNormal_of_mem_found : ∀ w ∈ (m.parts (m.phrase text) n).1, Text.IsNormal w := fun w hw =>
  isNormal_of_mem_phrase w (mem_words_of_mem_parts (.inl hw))

theorem normalize_find (hf : m.find text = some f) : Text.normalize f = f := by
  obtain ⟨n, -, rfl⟩ := exists_of_find_eq_some hf
  exact Text.normalize_join isNormal_of_mem_found

/-- A match has words, and what it leaves has fewer by that many. -/
theorem wordCount_remove (hf : m.find text = some f) :
    0 < (Text.words f).length ∧
      Text.wordCount (m.remove text) + (Text.words f).length ≤ Text.wordCount text := by
  obtain ⟨n, hn, rfl⟩ := exists_of_find_eq_some hf
  obtain ⟨vs, hremove, hvs, hlen⟩ := exists_remove_eq_join hn
  obtain ⟨hpos, hle⟩ := le_length_of_matchLength?_eq_some hn
  have hwords : (Text.words (Text.join (m.parts (m.phrase text) n).1)).length = n := by
    rw [Text.words_join fun w hw => (isNormal_of_mem_found w hw).1, (length_parts hle).1]
  rw [hwords, hremove, Text.wordCount_join hvs, Text.wordCount_eq]
  exact ⟨hpos, hlen⟩

/-- Stripping a match takes words away and leaves normal form. -/
theorem reduces_remove (m : Matcher) : Text.Reduces m.remove := by
  constructor
  · intro text
    cases hn : m.matchLength? (m.phrase text) with
    | none => rw [remove_of_eq_none hn, Text.normalize_normalize]
    | some n =>
      obtain ⟨vs, hremove, hvs, -⟩ := exists_remove_eq_join hn
      rw [hremove, Text.normalize_join hvs]
  · intro text
    cases hf : m.find text with
    | none => exact .inl (remove_of_find_eq_none hf)
    | some f =>
      obtain ⟨hpos, hle⟩ := wordCount_remove hf
      exact .inr (by omega)

end Matcher

end Headword
