import Mathlib.Data.List.Forall2
import Headword.Proofs.Text.Reducing

/-!
# Texts with the same words

What it is for words to be the words of a text is said here without splitting the text: they stand in it
in order, with blanks between them and maybe at the ends (`Spaced`).  Any blanks will do, and by
`spaced_iff` a text is spaced in one way only.
-/

namespace Headword.Text

/-- The characters are the words in order, with at least one blank between neighbours and any number of
blanks at the ends. -/
inductive Spaced : List String → List Char → Prop
  | blanks {b : List Char} : (∀ c ∈ b, isBlank c = true) → Spaced [] b
  | word {b rest : List Char} {w : String} {ws : List String} :
      (∀ c ∈ b, isBlank c = true) → IsWord w.toList → (∀ c ∈ rest.head?, isBlank c = true) →
      Spaced ws rest → Spaced (w :: ws) (b ++ w.toList ++ rest)

theorem splitBlanks_blanks_append {b : List Char} (hb : ∀ c ∈ b, isBlank c = true) (cs : List Char) :
    splitBlanks (b ++ cs) = splitBlanks cs := by
  induction b with
  | nil => rfl
  | cons c b ih =>
    rw [List.cons_append, splitBlanks_cons_of_isBlank (hb c (List.mem_cons_self ..)),
      ih fun d hd => hb d (List.mem_cons_of_mem _ hd)]

theorem splitBlanks_word_append {w rest : List Char} (hw : IsWord w)
    (hend : ∀ c ∈ rest.head?, isBlank c = true) : splitBlanks (w ++ rest) = w :: splitBlanks rest := by
  cases rest with
  | nil => rw [List.append_nil, splitBlanks_word hw, splitBlanks_nil]
  | cons c rest =>
    have hc : isBlank c = true := hend c rfl
    rw [splitBlanks_append_blank hc, splitBlanks_word hw, splitBlanks_cons_of_isBlank hc]
    rfl

namespace Spaced

variable {ws : List String} {cs : List Char} {c : Char}

theorem splitBlanks_eq (h : Spaced ws cs) : splitBlanks cs = ws.map String.toList := by
  induction h with
  | blanks hb =>
    have hsplit := splitBlanks_blanks_append hb []
    rwa [List.append_nil] at hsplit
  | word hb hw hend _ ih =>
    rw [List.append_assoc, splitBlanks_blanks_append hb, splitBlanks_word_append hw hend, ih]
    rfl

theorem cons_blank (hc : isBlank c = true) (h : Spaced ws cs) : Spaced ws (c :: cs) := by
  cases h with
  | blanks hb => exact .blanks (List.forall_mem_cons.mpr ⟨hc, hb⟩)
  | word hb hw hend hrest =>
    rw [List.append_assoc, ← List.cons_append, ← List.append_assoc]
    exact .word (List.forall_mem_cons.mpr ⟨hc, hb⟩) hw hend hrest

/-- A character that is not blank makes the first word longer, or is a word of its own before a
blank. -/
theorem exists_cons (hc : isBlank c = false) (h : Spaced ws cs) : ∃ ws', Spaced ws' (c :: cs) := by
  have hone : IsWord (String.singleton c).toList := by
    rw [String.toList_singleton]
    exact ⟨List.cons_ne_nil _ _, List.forall_mem_singleton.mpr hc⟩
  have hnone : ∀ d ∈ ([] : List Char), isBlank d = true := by
    intro d hd
    cases hd
  have halone : (∀ d ∈ cs.head?, isBlank d = true) → ∃ ws', Spaced ws' (c :: cs) := by
    intro hend
    have hword := Spaced.word hnone hone hend h
    rw [String.toList_singleton] at hword
    exact ⟨_, hword⟩
  cases h with
  | blanks hb => exact halone fun d hd => hb d (List.mem_of_head? hd)
  | @word b rest w ws hb hw hend hrest =>
    cases b with
    | nil =>
      have hlonger : IsWord (String.ofList (c :: w.toList)).toList := by
        rw [String.toList_ofList]
        exact ⟨List.cons_ne_nil _ _, List.forall_mem_cons.mpr ⟨hc, hw.2⟩⟩
      have hword := Spaced.word hnone hlonger hend hrest
      rw [String.toList_ofList] at hword
      exact ⟨_, hword⟩
    | cons d b =>
      refine halone fun e he => hb e ?_
      obtain rfl : d = e := Option.mem_some_iff.mp he
      exact List.mem_cons_self ..

end Spaced

theorem exists_spaced (cs : List Char) : ∃ ws, Spaced ws cs := by
  induction cs with
  | nil => exact ⟨[], .blanks fun c hc => by cases hc⟩
  | cons c cs ih =>
    obtain ⟨ws, hws⟩ := ih
    cases hc : isBlank c with
    | true => exact ⟨ws, hws.cons_blank hc⟩
    | false => exact hws.exists_cons hc

/-- The words of a text are the only ones that, spaced somehow, are the text. -/
theorem spaced_iff {ws : List String} {text : String} : Spaced ws text.toList ↔ words text = ws := by
  have hsound : ∀ {us}, Spaced us text.toList → words text = us := by
    intro us h
    have hid : String.ofList ∘ String.toList = id := funext fun _ => String.ofList_toList
    rw [words, h.splitBlanks_eq, List.map_map, hid, List.map_id]
  constructor
  · exact hsound
  · rintro rfl
    obtain ⟨ws, hws⟩ := exists_spaced text.toList
    rwa [hsound hws]

/-- The texts are words, spaced one way or another, that are equal in lowercase one by one. -/
def SameWords (s t : String) : Prop :=
  ∃ us vs, Spaced us s.toList ∧ Spaced vs t.toList ∧
    List.Forall₂ (fun u v => lowercase u = lowercase v) us vs

theorem sameWords_iff {s t : String} : SameWords s t ↔ normalWords s = normalWords t := by
  have hforall : normalWords s = normalWords t ↔
      List.Forall₂ (fun u v => lowercase u = lowercase v) (words s) (words t) := by
    rw [normalWords, normalWords, ← List.forall₂_eq_eq_eq, List.forall₂_map_left_iff,
      List.forall₂_map_right_iff]
  rw [hforall]
  constructor
  · rintro ⟨us, vs, hus, hvs, h⟩
    rwa [spaced_iff.mp hus, spaced_iff.mp hvs]
  · exact fun h => ⟨_, _, spaced_iff.mpr rfl, spaced_iff.mpr rfl, h⟩

instance (s t : String) : Decidable (SameWords s t) :=
  decidable_of_iff _ sameWords_iff.symm

theorem sameWords_iff_normalize_eq {s t : String} : SameWords s t ↔ normalize s = normalize t := by
  rw [sameWords_iff]
  constructor
  · exact normalize_congr
  · intro h
    rw [← words_normalize, h, words_normalize]

theorem sameWords_normalize (text : String) : SameWords (normalize text) text :=
  sameWords_iff_normalize_eq.mpr (normalize_normalize text)

/-- An em space and a no-break space separate words like any other blanks. -/
example : SameWords "\u2003Have\u00A0 A\tLOOK\n" "have a look" := by
  decide +kernel

end Headword.Text
