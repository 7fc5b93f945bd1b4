import Headword.Proofs.Matcher.Remainders
import Headword.Proofs.Trimmer.Content

/-!
# Stripping again and again

What matchers and trimmers give out is in normal form, so it can be stripped again.  Attached punctuation
may turn the last word into one that is known, and a remainder may match where the phrase did not; but
each match takes a word away, and so stripping comes to an end.
-/

namespace Headword

namespace Trimmer

theorem reduces_strip (t : Trimmer) : Text.Reduces t.strip :=
  (Matcher.reduces_remove t.trailing).comp (Matcher.reduces_remove t.leading)

theorem reduces_trim (t : Trimmer) : Text.Reduces t.trim := by
  constructor
  · intro text
    by_cases hstrip : t.strip text = ""
    · rw [trim_of_strip_eq_empty hstrip, Text.normalize_normalize]
    · rw [trim_of_strip_ne_empty hstrip]
      exact t.reduces_strip.normal text
  · intro text
    by_cases hstrip : t.strip text = ""
    · exact .inl (trim_of_strip_eq_empty hstrip)
    · rw [trim_of_strip_ne_empty hstrip]
      exact t.reduces_strip.eq_or_lt text

end Trimmer

/-- Matches, what they leave and the content of phrases are in normal form, and so is a normal form. -/
theorem outputs_in_normal_form :
    (∀ text, Text.normalize (Text.normalize text) = Text.normalize text) ∧
    (∀ (m : Matcher) text, Text.normalize (m.remove text) = m.remove text) ∧
    (∀ (m : Matcher) text f, m.find text = some f → Text.normalize f = f) ∧
    ∀ (t : Trimmer) text, Text.normalize (t.trim text) = t.trim text :=
  ⟨Text.normalize_normalize, fun m => m.reduces_remove.normal, fun _ _ _ hf => Matcher.normalize_find hf,
    fun t => t.reduces_trim.normal⟩

/-- The last word is found without its punctuation, which the word before it takes over. -/
theorem outputs_in_normal_form_odos :
    ∃ m, Matcher.build ⟨none, [⟨[.category .article]⟩]⟩ (Vocabulary.empty.extend .article ["the"])
        .backward [] = .ok m ∧ m.find "ΟΔΟΣ  The…" = some "the" ∧ m.remove "ΟΔΟΣ  The…" = "οδος…" ∧
      Text.normalize "the" = "the" ∧ Text.normalize (m.remove "ΟΔΟΣ  The…") = m.remove "ΟΔΟΣ  The…" := by
  have h : ∃ m, Matcher.build ⟨none, [⟨[.category .article]⟩]⟩
      (Vocabulary.empty.extend .article ["the"]) .backward [] = .ok m ∧
      m.find "ΟΔΟΣ  The…" = some "the" ∧ m.remove "ΟΔΟΣ  The…" = "οδος…" :=
    ⟨_, rfl, by decide +kernel, by decide +kernel⟩
  obtain ⟨m, hm, hfind, hremove⟩ := h
  exact ⟨m, hm, hfind, hremove, outputs_in_normal_form.2.2.1 m _ _ hfind,
    outputs_in_normal_form.2.1 m _⟩

/-- Values are listed up to the first one that does not change. -/
theorem length_successive_le {f : String → String} {n : Nat} {x : String} (h : f (f^[n] x) = f^[n] x)
    (limit : Nat) : (successive f limit x).length ≤ n + 1 := by
  induction n generalizing x limit with
  | zero =>
    cases limit with
    | zero => exact Nat.le_refl 1
    | succ limit =>
      have hfixed : f x = x := h
      rw [successive, if_pos hfixed]
      exact Nat.le_refl 1
  | succ n ih =>
    cases limit with
    | zero =>
      show 1 ≤ n + 1 + 1
      omega
    | succ limit =>
      rw [successive]
      split
      · show 1 ≤ n + 1 + 1
        omega
      · rw [Function.iterate_succ_apply] at h
        have hrest := ih h limit
        rw [List.length_cons]
        omega

/-- Applied again and again to any text, the operation no longer changes it after one application
more than the text has words. -/
def Settles (f : String → String) : Prop :=
  ∀ text, f (f^[Text.wordCount text + 1] text) = f^[Text.wordCount text + 1] text ∧
    ∀ limit, (successive f limit text).length ≤ Text.wordCount text + 2

theorem Text.Reduces.settles {f : String → String} (hf : Reduces f) : Settles f := by
  intro text
  have hfixed := hf.iterate_fixed text
  exact ⟨hfixed, length_successive_le hfixed⟩

/-- Stripping takes the words of a match away wherever something is found, and stops. -/
theorem stripping_stops :
    (∀ (m : Matcher) text f, m.find text = some f →
      0 < (Text.words f).length ∧
        Text.wordCount (m.remove text) + (Text.words f).length ≤ Text.wordCount text) ∧
    (∀ (m : Matcher) text, m.find text = none → m.remove text = Text.normalize text) ∧
    (∀ (t : Trimmer) text, t.trim text = Text.normalize text ∨
      Text.wordCount (t.trim text) < Text.wordCount text) ∧
    (∀ m : Matcher, Settles m.remove) ∧
    ∀ t : Trimmer, Settles t.leading.remove ∧ Settles t.trailing.remove ∧ Settles t.trim := by
  refine ⟨fun m text f => Matcher.wordCount_remove, fun m text => Matcher.remove_of_find_eq_none,
    fun t => t.reduces_trim.eq_or_lt, fun m => m.reduces_remove.settles, fun t => ?_⟩
  exact ⟨t.leading.reduces_remove.settles, t.trailing.reduces_remove.settles, t.reduces_trim.settles⟩

/-- With the mark attached, `sth` becomes a word that is known, and the next match takes it away. -/
theorem stripping_stops_take_sth :
    ∃ m, Matcher.build ⟨none, [⟨[.category .pronoun]⟩]⟩ (Vocabulary.empty.extend .pronoun ["it", "sth."])
        .backward [] = .ok m ∧ m.find "take sth it." = some "it" ∧
      successive m.remove 9 "take sth it." = ["take sth it.", "take sth.", "take"] ∧
      Text.wordCount (m.remove "take sth it.") + (Text.words "it").length ≤
        Text.wordCount "take sth it." ∧
      m.remove (m.remove^[Text.wordCount "take sth it." + 1] "take sth it.") =
        m.remove^[Text.wordCount "take sth it." + 1] "take sth it." := by
  have h : ∃ m, Matcher.build ⟨none, [⟨[.category .pronoun]⟩]⟩
      (Vocabulary.empty.extend .pronoun ["it", "sth."]) .backward [] = .ok m ∧
      m.find "take sth it." = some "it" ∧
      successive m.remove 9 "take sth it." = ["take sth it.", "take sth.", "take"] :=
    ⟨_, rfl, by decide +kernel, by decide +kernel⟩
  obtain ⟨m, hm, hfind, hchain⟩ := h
  exact ⟨m, hm, hfind, hchain, (stripping_stops.1 m _ _ hfind).2, (stripping_stops.2.2.2.1 m _).1⟩

end Headword
