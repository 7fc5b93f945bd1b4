import Headword.Proofs.Matcher.Matches
import Headword.Proofs.Phrase.Reading

/-!
# Punctuation is transparent

Terminal punctuation at the end of a phrase makes no difference to what is found, as long as it makes up
no word that the matcher knows.  It is set aside, and it ends whatever is left as it ended the phrase.
-/

namespace Headword

namespace Matcher

variable {m : Matcher} {text text' v q s : String} {ws : List String}

/-- Phrases of the same words are split at the same place, whatever is set aside from their ends. -/
theorem split_eq_of_same_words (h : m.phrase text = ⟨ws, ""⟩) (h' : m.phrase text' = ⟨ws, s⟩) :
    m.split text' = ⟨m.find text,
      if m.find text ≠ none ∧ m.remove text = "" then "" else m.remove text ++ s⟩ := by
  have hlength : m.matchLength? (m.phrase text') = m.matchLength? (m.phrase text) := by
    rw [h, h']
    rfl
  have hparts : ∀ n, m.parts (m.phrase text') n = m.parts (m.phrase text) n := by
    intro n
    rw [h, h']
    rfl
  cases hn : m.matchLength? (m.phrase text) with
  | none =>
    rw [hn] at hlength
    rw [split_of_eq_none hlength, find, remove, split_of_eq_none hn, h, h']
    rw [if_neg fun hand => hand.1 rfl, Phrase.text, Phrase.text, String.append_empty]
  | some n =>
    rw [hn] at hlength
    have hword : ∀ w ∈ (m.parts (m.phrase text) n).2, Text.IsWord w.toList := fun w hw =>
      isWord_of_mem_phrase w (mem_words_of_mem_parts (.inr hw))
    rw [split_of_eq_some hlength, find, remove, split_of_eq_some hn, hparts]
    dsimp only
    -- without words left there is nothing to which the punctuation could be attached
    by_cases hnil : (m.parts (m.phrase text) n).2 = []
    · rw [hnil, Phrase.attach_nil, Phrase.attach_nil, if_pos ⟨Option.some_ne_none _, rfl⟩]
    · rw [Phrase.attach_of_ne_nil _ hnil, Phrase.attach_of_ne_nil _ hnil]
      have hleft : Text.join (m.parts (m.phrase text) n).2 ++ (m.phrase text).trailing =
          Text.join (m.parts (m.phrase text) n).2 := by
        rw [h, String.append_empty]
      rw [hleft, if_neg fun hand => Text.join_ne_empty hword hnil hand.2, h']

/-- Terminal punctuation that makes up no known word does not change what is found, and ends what is
left; it is gone when nothing is left. -/
theorem punctuation_transparent (m : Matcher)
    (hlast : (Text.words (Text.normalize text)).getLast? = some v) (hplain : ¬Text.EndsTerminal v)
    (hne : q ≠ "") (hq : ∀ c ∈ q.toList, Text.isTerminal c = true) :
    (¬Text.EndsBlank text → m.knows (v ++ q) = false →
      m.split (text ++ q) = ⟨m.find text,
        if m.find text ≠ none ∧ m.remove text = "" then "" else m.remove text ++ q⟩) ∧
    (m.knows q = false →
      m.split (text ++ " " ++ q) = ⟨m.find text,
        if m.find text ≠ none ∧ m.remove text = "" then "" else m.remove text ++ " " ++ q⟩) := by
  rw [Text.words_normalize] at hlast
  obtain ⟨us, hus⟩ := List.getLast?_eq_some_iff.mp hlast
  have hv : v ≠ "" := by
    have hmem : v ∈ Text.normalWords text := by
      rw [hus]
      exact List.mem_append_right us (List.mem_singleton_self v)
    exact (Text.isNormal_iff.mp (Text.isNormal_of_mem_normalWords hmem)).1
  have hwords : us ++ [v] ≠ [] := List.append_ne_nil_of_right_ne_nil us (List.cons_ne_nil v [])
  have hphrase : m.phrase text = ⟨us ++ [v], ""⟩ := by
    rw [phrase, Phrase.parse, hus]
    exact Phrase.ofWords_of_keeps (.inl (Text.terminalRun_eq_empty_iff.mpr hplain))
  constructor
  · intro hend hunknown
    have hsheds : Text.Sheds (v ++ q) v q := ⟨rfl, hq, hplain⟩
    have hattached : m.phrase (text ++ q) = ⟨us ++ [v], q⟩ := by
      rw [phrase, Phrase.parse, Text.normalWords_append_terminal hend hq hus,
        Phrase.ofWords_of_sheds hsheds hne hunknown, if_neg hv, if_neg fun hand => hv hand.1]
    exact split_eq_of_same_words hphrase hattached
  · intro hunknown
    have hsheds : Text.Sheds q "" q := ⟨String.empty_append, hq, Bool.false_ne_true⟩
    have hapart : m.phrase (text ++ " " ++ q) = ⟨us ++ [v], " " ++ q⟩ := by
      rw [phrase, Phrase.parse, Text.normalWords_append_space_terminal hne hq, hus,
        Phrase.ofWords_of_sheds hsheds hne hunknown, if_pos rfl, if_pos ⟨rfl, hwords⟩]
    have hspace : m.remove text ++ " " ++ q = m.remove text ++ (" " ++ q) := String.append_assoc
    rw [hspace]
    exact split_eq_of_same_words hphrase hapart

/-- The phrase `Look at the` with marks attached to it, and with a mark apart. -/
theorem punctuation_transparent_look_at_the :
    ∃ m, build ⟨none, [⟨[.category .preposition, .category .article]⟩]⟩
        ((Vocabulary.empty.extend .preposition ["at"]).extend .article ["the"]) .backward [] = .ok m ∧
      m.split ("Look at the" ++ "!?") = ⟨some "at the", "look!?"⟩ ∧
      m.split ("Look at the" ++ " " ++ "…") = ⟨some "at the", "look …"⟩ := by
  have h : ∃ m, build ⟨none, [⟨[.category .preposition, .category .article]⟩]⟩
      ((Vocabulary.empty.extend .preposition ["at"]).extend .article ["the"]) .backward [] = .ok m ∧
      m.split "Look at the" = ⟨some "at the", "look"⟩ ∧ m.knows ("the" ++ "!?") = false ∧
      m.knows "…" = false := ⟨_, rfl, by decide +kernel, by decide +kernel, by decide +kernel⟩
  obtain ⟨m, hm, hsplit, hattached, hapart⟩ := h
  have hfind : m.find "Look at the" = some "at the" := congrArg Split.found hsplit
  have hremove : m.remove "Look at the" = "look" := congrArg Split.rest hsplit
  have hlast : (Text.words (Text.normalize "Look at the")).getLast? = some "the" := by decide +kernel
  have hmarks : ∀ c ∈ "!?".toList, Text.isTerminal c = true := List.all_eq_true.mp (by decide)
  have hmark : ∀ c ∈ "…".toList, Text.isTerminal c = true := List.all_eq_true.mp (by decide)
  have hone := (punctuation_transparent m hlast (by decide) (by decide) hmarks).1 (by decide) hattached
  have htwo := (punctuation_transparent m hlast (by decide) (by decide) hmark).2 hapart
  rw [hfind, hremove] at hone htwo
  exact ⟨m, hm, hone, htwo⟩

end Matcher

end Headword
