import Headword.Text.Blank

/-!
# Words of a text

A word is a maximal run of characters that are not blank.  All that is known about words follows from
`splitBlanks_append_blank`: words split at a blank.  `words_join` reads words back from their joined
form, and `isWord_of_mem_words` says what a word looks like.
-/

namespace Headword.Text

/-- A word that can stand in a text: it is not empty and holds no blank. -/
def IsWord (w : List Char) : Prop :=
  w ≠ [] ∧ ∀ c ∈ w, isBlank c = false

/-- Puts a word in front of others, unless it is empty. -/
def consWord (w : List Char) (ws : List (List Char)) : List (List Char) :=
  if w.isEmpty then ws else w :: ws

/-- The run of characters up to the first blank, and the words after it. -/
def splitFirst : List Char → List Char × List (List Char)
  | [] => ([], [])
  | c :: rest =>
    let (run, ws) := splitFirst rest
    if isBlank c then ([], consWord run ws) else (c :: run, ws)

/-- The words of a list of characters, in order. -/
def splitBlanks (cs : List Char) : List (List Char) :=
  consWord (splitFirst cs).1 (splitFirst cs).2

@[simp] theorem splitBlanks_nil : splitBlanks [] = [] := rfl

theorem consWord_append (w : List Char) (us vs : List (List Char)) :
    consWord w (us ++ vs) = consWord w us ++ vs := by
  unfold consWord
  split <;> simp

theorem splitBlanks_append_blank {b : Char} (hb : isBlank b = true) (x y : List Char) :
    splitBlanks (x ++ b :: y) = splitBlanks x ++ splitBlanks y := by
  have key : splitFirst (x ++ b :: y) =
      ((splitFirst x).1, (splitFirst x).2 ++ splitBlanks y) := by
    induction x with
    | nil => simp [splitFirst, hb, splitBlanks]
    | cons c x ih =>
      -- a blank ends the run before the words that come later, whatever they are
      simp only [List.cons_append, splitFirst, ih]
      split
      · rw [consWord_append]
      · rfl
  rw [splitBlanks, key]
  exact consWord_append _ _ _

theorem splitBlanks_cons_of_isBlank {b : Char} (hb : isBlank b = true) (cs : List Char) :
    splitBlanks (b :: cs) = splitBlanks cs :=
  splitBlanks_append_blank hb [] cs

theorem splitBlanks_word {w : List Char} (hw : IsWord w) : splitBlanks w = [w] := by
  have key : ∀ v : List Char, (∀ c ∈ v, isBlank c = false) → splitFirst v = (v, []) := by
    intro v hv
    induction v with
    | nil => rfl
    | cons c v ih =>
      have hc := hv c (List.mem_cons_self ..)
      simp [splitFirst, hc, ih fun d hd => hv d (List.mem_cons_of_mem _ hd)]
  simp [splitBlanks, key w hw.2, consWord, hw.1]

theorem isWord_of_mem_splitBlanks {w cs : List Char} (h : w ∈ splitBlanks cs) : IsWord w := by
  -- a run has no blank in it, and becomes a word when it ends without being empty
  have key : ∀ cs : List Char, (∀ c ∈ (splitFirst cs).1, isBlank c = false) ∧
      ∀ w ∈ (splitFirst cs).2, IsWord w := by
    intro cs
    induction cs with
    | nil => simp [splitFirst]
    | cons c cs ih =>
      by_cases hc : isBlank c = true
      · simp only [splitFirst, hc, if_true]
        refine ⟨by simp, fun w hw => ?_⟩
        simp only [consWord] at hw
        split at hw
        · exact ih.2 w hw
        · rcases List.mem_cons.mp hw with rfl | hw
          · exact ⟨by simp_all, ih.1⟩
          · exact ih.2 w hw
      · simp only [splitFirst, hc]
        simp only [Bool.not_eq_true] at hc
        exact ⟨by simpa [hc] using ih.1, ih.2⟩
  simp only [splitBlanks, consWord] at h
  split at h
  · exact (key cs).2 w h
  · rcases List.mem_cons.mp h with rfl | h
    · exact ⟨by simp_all, (key cs).1⟩
    · exact (key cs).2 w h

theorem splitBlanks_intercalate {ws : List (List Char)} (hws : ∀ w ∈ ws, IsWord w) :
    splitBlanks ([' '].intercalate ws) = ws := by
  induction ws with
  | nil => rfl
  | cons w ws ih =>
    have hw := hws w (List.mem_cons_self ..)
    cases ws with
    | nil => simpa [List.intercalate] using splitBlanks_word hw
    | cons v ws =>
      have hrest := ih fun u hu => hws u (List.mem_cons_of_mem _ hu)
      have hsplit : [' '].intercalate (w :: v :: ws) = w ++ ' ' :: [' '].intercalate (v :: ws) := by
        simp [List.intercalate]
      rw [hsplit, splitBlanks_append_blank isBlank_space, splitBlanks_word hw, hrest]
      rfl

/-- The words of a text, in order. -/
def words (text : String) : List String :=
  (splitBlanks text.toList).map String.ofList

/-- Words in one text, with a single space between neighbours. -/
def join (ws : List String) : String :=
  " ".intercalate ws

theorem isWord_of_mem_words {text w : String} (h : w ∈ words text) : IsWord w.toList := by
  obtain ⟨cs, hcs, rfl⟩ := List.mem_map.mp h
  simpa using isWord_of_mem_splitBlanks hcs

/-- Joined words read back unchanged. -/
theorem words_join {ws : List String} (hws : ∀ w ∈ ws, IsWord w.toList) : words (join ws) = ws := by
  have hmem : ∀ w ∈ ws.map String.toList, IsWord w := by simpa using hws
  rw [words, join, String.toList_intercalate, show " ".toList = [' '] from rfl,
    splitBlanks_intercalate hmem]
  simp [Function.comp_def]

theorem words_append_space (s t : String) : words (s ++ " " ++ t) = words s ++ words t := by
  simp only [words, String.toList_append, show " ".toList = [' '] from rfl, List.append_assoc,
    List.singleton_append, splitBlanks_append_blank isBlank_space, List.map_append]

/-- Drops the blanks at both ends. -/
def trim (text : String) : String :=
  String.ofList ((text.toList.dropWhile isBlank).reverse.dropWhile isBlank).reverse

end Headword.Text
