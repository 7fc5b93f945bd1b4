import Headword.Proofs.Phrase
import Headword.Proofs.Text.Punctuated

/-!
# Reading phrases

Reading a text as a phrase loses nothing of its normal form.  All that can change is the last word: the
terminal punctuation at its end is set aside, all of it or none.
-/

namespace Headword.Phrase

/-- The last word stays as it is, for want of punctuation or because it is declared with it. -/
def KeepsLast (declared : String → Bool) (ws : List String) : Prop :=
  ws = [] ∨ ∃ last, ws.getLast? = some last ∧ (¬Text.EndsTerminal last ∨ declared last = true)

/-- The phrase holds the normal form of the text, with no more set aside than the terminal punctuation
of the last word. -/
structure FaithfulTo (p : Phrase) (declared : String → Bool) (text : String) : Prop where
  text_eq : Text.join p.words ++ p.trailing = Text.normalize text
  isWord : ∀ w ∈ p.words, Text.IsWord w.toList
  trailing_eq_empty_iff : p.trailing = "" ↔ KeepsLast declared (Text.words (Text.normalize text))
  words_eq : KeepsLast declared (Text.words (Text.normalize text)) →
    p.words = Text.words (Text.normalize text)
  /-- The last word is shortened, or given up when nothing of it is left. -/
  exists_sheds : ¬KeepsLast declared (Text.words (Text.normalize text)) →
    ∃ us last left run, Text.words (Text.normalize text) = us ++ [last] ∧ Text.Sheds last left run ∧
      p.trailing = (if left = "" ∧ us ≠ [] then " " ++ run else run) ∧
      p.words = if left = "" then us else us ++ [left]
  dropLast_isPrefix : (Text.words (Text.normalize text)).dropLast <+: p.words
  remainder_eq : p.words ≠ [] → p.remainder? 0 p.words.length = some (Text.normalize text)

variable {declared : String → Bool} {ws : List String}

theorem setAside_eq_empty_iff : setAside declared ws = "" ↔ KeepsLast declared ws := by
  cases hlast : ws.getLast? with
  | none =>
    rw [setAside, hlast]
    exact iff_of_true rfl (.inl (List.getLast?_eq_none_iff.mp hlast))
  | some last =>
    have hne : ws ≠ [] := by
      intro hnil
      rw [hnil] at hlast
      cases hlast
    have hkeeps : KeepsLast declared ws ↔ ¬Text.EndsTerminal last ∨ declared last = true := by
      unfold KeepsLast
      rw [or_iff_right hne, hlast]
      simp only [Option.some.injEq, exists_eq_left']
    rw [hkeeps, setAside, hlast, ← Text.terminalRun_eq_empty_iff]
    show (if declared last = true then "" else Text.terminalRun last) = "" ↔ _
    split
    next hdeclared => exact iff_of_true rfl (.inr hdeclared)
    next hdeclared => rw [or_iff_left hdeclared]

theorem ofWords_of_keepsLast (h : KeepsLast declared ws) : ofWords declared ws = ⟨ws, ""⟩ := by
  cases List.eq_nil_or_concat' ws with
  | inl hnil =>
    rw [hnil]
    rfl
  | inr hconcat =>
    obtain ⟨us, last, rfl⟩ := hconcat
    apply ofWords_of_keeps
    rw [← setAside_eq_empty_iff, setAside_concat] at h
    by_cases hdeclared : declared last = true
    · exact .inr hdeclared
    · rw [if_neg hdeclared] at h
      exact .inl h

/-- Punctuation comes off a word that is not declared with it, and the space before it as well when
nothing is left of the word. -/
theorem ofWords_of_sheds {us : List String} {last left run : String} (hsheds : Text.Sheds last left run)
    (hrun : run ≠ "") (hdeclared : declared last = false) :
    ofWords declared (us ++ [last]) =
      ⟨if left = "" then us else us ++ [left], if left = "" ∧ us ≠ [] then " " ++ run else run⟩ := by
  obtain ⟨hstem, hterminal⟩ := hsheds.eq
  have hlose : ¬(run = "" || declared last) = true := by simp [hrun, hdeclared]
  rw [ofWords, List.getLast?_concat]
  dsimp only
  rw [hstem, hterminal, List.dropLast_concat, if_neg hlose]
  by_cases hleft : left = ""
  · rw [if_neg (not_not_intro hleft), if_pos hleft]
    by_cases hus : us = []
    · rw [if_pos hus, if_neg fun hand => hand.2 hus, hus]
    · rw [if_neg hus, if_pos ⟨hleft, hus⟩]
  · rw [if_pos hleft, if_neg hleft, if_neg fun hand => hleft hand.1]

theorem ofWords_of_not_keepsLast (h : ¬KeepsLast declared ws) :
    ∃ us last left run, ws = us ++ [last] ∧ Text.Sheds last left run ∧ run ≠ "" ∧
      ofWords declared ws =
        ⟨if left = "" then us else us ++ [left], if left = "" ∧ us ≠ [] then " " ++ run else run⟩ := by
  cases List.eq_nil_or_concat' ws with
  | inl hnil => exact absurd (.inl hnil) h
  | inr hconcat =>
    obtain ⟨us, last, rfl⟩ := hconcat
    rw [← setAside_eq_empty_iff, setAside_concat] at h
    have hdeclared : ¬declared last = true := by
      intro hdeclared
      rw [if_pos hdeclared] at h
      exact h rfl
    rw [if_neg hdeclared] at h
    have hsheds := Text.sheds_stem last
    exact ⟨us, last, _, _, rfl, hsheds, h, ofWords_of_sheds hsheds h (Bool.eq_false_iff.mpr hdeclared)⟩

theorem parse_eq_ofWords (declared : String → Bool) (text : String) :
    parse declared text = ofWords declared (Text.words (Text.normalize text)) := by
  rw [parse, Text.words_normalize]

/-- What is left of a phrase by all of its words is the whole of it. -/
theorem remainder?_all {p : Phrase} (hne : p.words ≠ []) :
    p.remainder? 0 p.words.length = some (Text.join p.words ++ p.trailing) := by
  have hall := p.remainder?_drop 0
  rw [List.drop_zero, attach_of_ne_nil p hne] at hall
  exact hall

/-- Reading keeps the normal form of a text, and takes apart no more than its last word. -/
theorem parse_faithful (declared : String → Bool) (text : String) :
    (parse declared text).FaithfulTo declared text := by
  have hreads : Reads declared (Text.normalWords text) (parse declared text) := reads_ofWords declared _
  have htext : Text.join (parse declared text).words ++ (parse declared text).trailing =
      Text.normalize text := hreads.text_eq
  have hword : ∀ w ∈ (parse declared text).words, Text.IsWord w.toList := fun w hw =>
    (hreads.isNormal (fun v hv => Text.isNormal_of_mem_normalWords hv) w hw).1
  have hall : (parse declared text).words ≠ [] →
      (parse declared text).remainder? 0 (parse declared text).words.length =
        some (Text.normalize text) := fun hne => by rw [remainder?_all hne, htext]
  by_cases hkeeps : KeepsLast declared (Text.words (Text.normalize text))
  · have hparse := ofWords_of_keepsLast hkeeps
    rw [← parse_eq_ofWords] at hparse
    have hwords : (parse declared text).words = Text.words (Text.normalize text) := by rw [hparse]
    have htrailing : (parse declared text).trailing = "" := by rw [hparse]
    have hprefix : (Text.words (Text.normalize text)).dropLast <+: (parse declared text).words := by
      rw [hwords]
      exact List.dropLast_prefix _
    exact ⟨htext, hword, iff_of_true htrailing hkeeps, fun _ => hwords, fun h => absurd hkeeps h, hprefix,
      hall⟩
  · obtain ⟨us, last, left, run, hconcat, hsheds, hrun, hparse⟩ := ofWords_of_not_keepsLast hkeeps
    rw [← parse_eq_ofWords] at hparse
    have hwords : (parse declared text).words = if left = "" then us else us ++ [left] := by rw [hparse]
    have htrailing : (parse declared text).trailing =
        if left = "" ∧ us ≠ [] then " " ++ run else run := by rw [hparse]
    have hprefix : (Text.words (Text.normalize text)).dropLast <+: (parse declared text).words := by
      rw [hconcat, List.dropLast_concat, hwords]
      split
      · exact List.prefix_refl us
      · exact List.prefix_append us [left]
    have hne : (parse declared text).trailing ≠ "" := by
      rw [htrailing]
      split
      · exact fun hempty => hrun (String.append_eq_empty_iff.mp hempty).2
      · exact hrun
    exact ⟨htext, hword, iff_of_false hne hkeeps, fun h => absurd h hkeeps,
      fun _ => ⟨us, last, left, run, hconcat, hsheds, htrailing, hwords⟩, hprefix, hall⟩

/-- The second mark stands alone, so the first one is left where it is. -/
example : parse (fun w => w = "sth.") "Wait a\tMoment. !?" = ⟨["wait", "a", "moment."], " !?"⟩ := by
  decide +kernel

end Headword.Phrase
