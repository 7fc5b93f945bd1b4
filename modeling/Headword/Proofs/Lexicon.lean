import Mathlib.Data.Finset.Card
import Headword.Lexicon

/-!
# Lexicons in use

Whatever a new lexicon is asked, it numbers the words that it is told to number in the order in which
they first come, and what it has once answered about a word stays true.  The same answers are given by two
tables, one from numbers to words and one back, so two such tables never disagree.
-/

namespace Headword

namespace Lexicon

/-! ## Calls -/

/-- What a lexicon can be told or asked. -/
inductive Call
  | intern (w : String)
  | id? (w : String)
  | contains (w : String)
  | word? (id : WordId)
  | size
  deriving DecidableEq

/-- What a call comes back with. -/
inductive Answer
  | id (id : WordId)
  | id? (id : Option WordId)
  | contains (known : Bool)
  | word? (w : Option String)
  | size (n : Nat)
  deriving DecidableEq

/-- The word that a call gives a number to. -/
def Call.interned? : Call → Option String
  | .intern w => some w
  | _ => none

/-- The words that calls give numbers to, each as often as it comes. -/
def interned (calls : List Call) : List String :=
  calls.filterMap Call.interned?

/-- The answers to calls that are made one after another. -/
def answers {σ : Type} (call : σ → Call → Answer × σ) (s : σ) : List Call → List Answer
  | [] => []
  | c :: calls => (call s c).1 :: answers call (call s c).2 calls

def call (l : Lexicon) : Call → Answer × Lexicon
  | .intern w => (.id (l.intern w).1, (l.intern w).2)
  | .id? w => (.id? (l.id? w), l)
  | .contains w => (.contains (l.contains w), l)
  | .word? id => (.word? (l.word? id), l)
  | .size => (.size l.size, l)

/-- A lexicon after calls. -/
def after (l : Lexicon) (calls : List Call) : Lexicon :=
  calls.foldl (fun l c => (l.call c).2) l

theorem after_append (l : Lexicon) (calls more : List Call) :
    l.after (calls ++ more) = (l.after calls).after more :=
  List.foldl_append

theorem interned_cons (c : Call) (calls : List Call) :
    interned (c :: calls) = c.interned?.toList ++ interned calls := by
  rw [interned, List.filterMap_cons]
  cases c.interned? <;> rfl

theorem mem_interned_iff {calls : List Call} {w : String} :
    w ∈ interned calls ↔ .intern w ∈ calls := by
  have hcall : ∀ c : Call, c.interned? = some w ↔ c = .intern w := by
    intro c
    cases c <;> simp [Call.interned?]
  simp only [interned, List.mem_filterMap, hcall, exists_eq_right]

variable {l : Lexicon} {ws : List String} {v w : String} {id : WordId}

/-! ## Numbers in order -/

/-- The numbers of a lexicon are the first ones. -/
theorem exists_word?_iff : (∃ w, l.word? id = some w) ↔ id.index < l.size := by
  rw [← Option.isSome_iff_exists, word?, isSome_getElem?]
  rfl

theorem word?_lt (h : l.word? id = some w) : id.index < l.size :=
  exists_word?_iff.mp ⟨w, h⟩

/-- A new word takes the next number, and the other words keep theirs. -/
theorem id?_intern (hw : l.id? w = none) (v : String) :
    (l.intern w).2.id? v = if v = w then some ⟨l.size⟩ else l.id? v := by
  split
  next hv =>
    rw [hv, id?_eq_some_iff, ← (words_intern_of_id?_eq_none hw).1]
    exact word?_intern l w
  next hv =>
    apply Option.ext
    intro id
    rw [id?_eq_some_iff, id?_eq_some_iff, word?, (words_intern_of_id?_eq_none hw).2,
      List.getElem?_append]
    split
    next => rfl
    next hge =>
      -- beyond the old words there is only the new one
      apply iff_of_false
      · intro hlast
        exact hv (List.mem_singleton.mp (List.mem_of_getElem? hlast))
      · intro hold
        exact hge (word?_lt hold)

/-- The lexicon has the words of a list, and numbers them in the order in which they first come there. -/
structure Numbers (l : Lexicon) (ws : List String) : Prop where
  contains_iff : ∀ w, l.contains w = true ↔ w ∈ ws
  lt_iff : ∀ v w i j, l.id? v = some i → l.id? w = some j →
    (i.index < j.index ↔ ws.idxOf v < ws.idxOf w)

namespace Numbers

theorem empty : Lexicon.empty.Numbers [] :=
  ⟨fun _ => by rw [Lexicon.contains_iff]; rfl, fun _ _ _ _ hv => nomatch hv⟩

theorem mem_of_id? (h : l.Numbers ws) (hw : l.id? w = some id) : w ∈ ws := by
  rw [← h.contains_iff, contains, hw]
  rfl

theorem intern (h : l.Numbers ws) (w : String) : (l.intern w).2.Numbers (ws ++ [w]) := by
  cases hw : l.id? w with
  | some id =>
    -- the word comes again, and no word comes first here
    have hmem := h.mem_of_id? hw
    rw [intern_of_id?_eq_some hw]
    constructor
    · intro v
      rw [h.contains_iff, List.mem_append, List.mem_singleton]
      exact ⟨.inl, fun hv => hv.elim (fun hv => hv) fun hv => hv ▸ hmem⟩
    · intro u v i j hu hv
      rw [h.lt_iff u v i j hu hv, List.idxOf_append_of_mem (h.mem_of_id? hu),
        List.idxOf_append_of_mem (h.mem_of_id? hv)]
  | none =>
    have hnew : w ∉ ws := by
      rw [← h.contains_iff, contains, hw]
      exact Bool.false_ne_true
    have hlast : (ws ++ [w]).idxOf w = ws.length := by
      rw [List.idxOf_append_of_notMem hnew, List.idxOf_cons_self, Nat.add_zero]
    -- an older word has a smaller number and a smaller place
    have hold : ∀ {v i}, l.id? v = some i →
        i.index < l.size ∧ (ws ++ [w]).idxOf v = ws.idxOf v ∧ ws.idxOf v < ws.length := by
      intro v i hv
      have hmem := h.mem_of_id? hv
      exact ⟨word?_lt (id?_eq_some_iff.mp hv), List.idxOf_append_of_mem hmem,
        List.idxOf_lt_length_iff.mpr hmem⟩
    constructor
    · intro v
      rw [Lexicon.contains_iff, (words_intern_of_id?_eq_none hw).2, List.mem_append, List.mem_append,
        ← Lexicon.contains_iff, h.contains_iff]
    · intro u v i j hu hv
      rw [id?_intern hw] at hu hv
      split at hu <;> split at hv
      next huw hvw =>
        cases hu
        cases hv
        rw [huw, hvw]
        exact iff_of_false (Nat.lt_irrefl _) (Nat.lt_irrefl _)
      next huw hvw =>
        cases hu
        obtain ⟨hlt, hplace, hbefore⟩ := hold hv
        rw [huw, hlast, hplace]
        exact iff_of_false (Nat.lt_asymm hlt) (Nat.lt_asymm hbefore)
      next huw hvw =>
        cases hv
        obtain ⟨hlt, hplace, hbefore⟩ := hold hu
        rw [hvw, hlast, hplace]
        exact iff_of_true hlt hbefore
      next => rw [h.lt_iff u v i j hu hv, (hold hu).2.1, (hold hv).2.1]

theorem call (h : l.Numbers ws) (c : Call) : (l.call c).2.Numbers (ws ++ c.interned?.toList) := by
  cases c with
  | intern w => exact h.intern w
  | id? | contains | word? | size =>
    show l.Numbers (ws ++ [])
    rw [List.append_nil]
    exact h

theorem after (h : l.Numbers ws) (calls : List Call) :
    (l.after calls).Numbers (ws ++ interned calls) := by
  induction calls generalizing l ws with
  | nil =>
    rw [interned, List.filterMap_nil, List.append_nil]
    exact h
  | cons c calls ih =>
    rw [interned_cons, ← List.append_assoc]
    exact ih (h.call c)

/-- As many words are different from each other as there are numbers. -/
theorem size_eq (h : l.Numbers ws) : l.size = ws.toFinset.card := by
  have hwords : l.words.toFinset = ws.toFinset := by
    ext w
    rw [List.mem_toFinset, List.mem_toFinset, ← Lexicon.contains_iff, h.contains_iff]
  rw [← hwords, List.toFinset_card_of_nodup l.nodup]
  rfl

end Numbers

/-! ## Numbers for good -/

theorem word?_call (h : l.word? id = some w) (c : Call) : (l.call c).2.word? id = some w := by
  cases c with
  | intern v => exact word?_intern_of_eq_some h v
  | id? | contains | word? | size => exact h

/-- No call takes a number from its word. -/
theorem word?_after (h : l.word? id = some w) (calls : List Call) :
    (l.after calls).word? id = some w := by
  induction calls generalizing l with
  | nil => exact h
  | cons c calls ih => exact ih (word?_call h c)

theorem id?_after (h : l.id? w = some id) (calls : List Call) : (l.after calls).id? w = some id :=
  id?_eq_some_iff.mpr (word?_after (id?_eq_some_iff.mp h) calls)

/-! ## Two tables -/

/-- A lexicon kept as two tables, one for the words by number and one for the numbers by word. -/
structure Tables where
  words : Array String
  ids : Std.HashMap String WordId

namespace Tables

def empty : Tables :=
  ⟨#[], ∅⟩

/-- The number of a word.  A new word goes into both tables. -/
def intern (t : Tables) (w : String) : WordId × Tables :=
  match t.ids[w]? with
  | some id => (id, t)
  | none => (⟨t.words.size⟩, ⟨t.words.push w, t.ids.insert w ⟨t.words.size⟩⟩)

def call (t : Tables) : Call → Answer × Tables
  | .intern w => (.id (t.intern w).1, (t.intern w).2)
  | .id? w => (.id? t.ids[w]?, t)
  | .contains w => (.contains (t.ids.contains w), t)
  | .word? id => (.word? t.words[id.index]?, t)
  | .size => (.size t.words.size, t)

/-- The tables hold the words of a lexicon and their numbers. -/
structure Holds (t : Tables) (l : Lexicon) : Prop where
  words_eq : t.words.toList = l.words
  ids_eq : ∀ w, t.ids[w]? = l.id? w

namespace Holds

variable {t : Tables}

theorem empty : Tables.empty.Holds Lexicon.empty :=
  ⟨rfl, fun _ => Std.HashMap.getElem?_empty⟩

theorem size_eq (h : t.Holds l) : t.words.size = l.size := by
  rw [← Array.length_toList, h.words_eq]
  rfl

theorem word?_eq (h : t.Holds l) (id : WordId) : t.words[id.index]? = l.word? id := by
  rw [← Array.getElem?_toList, h.words_eq]
  rfl

theorem intern (h : t.Holds l) (w : String) :
    (t.intern w).1 = (l.intern w).1 ∧ (t.intern w).2.Holds (l.intern w).2 := by
  unfold Tables.intern
  rw [h.ids_eq]
  cases hw : l.id? w with
  | some id =>
    rw [intern_of_id?_eq_some hw]
    exact ⟨rfl, h⟩
  | none =>
    obtain ⟨hid, hwords⟩ := words_intern_of_id?_eq_none hw
    rw [hid, h.size_eq]
    refine ⟨rfl, ?_, fun v => ?_⟩
    · rw [Array.toList_push, h.words_eq, hwords]
    · -- both have the new word under the new number and leave the others alone
      show (t.ids.insert w ⟨l.size⟩)[v]? = (l.intern w).2.id? v
      rw [Std.HashMap.getElem?_insert, h.ids_eq, id?_intern hw]
      exact if_congr (beq_iff_eq.trans eq_comm) rfl rfl

/-- Whatever the call, it is answered alike and leaves the tables in step. -/
theorem call (h : t.Holds l) (c : Call) :
    (t.call c).1 = (l.call c).1 ∧ (t.call c).2.Holds (l.call c).2 := by
  cases c with
  | intern w =>
    obtain ⟨hid, hholds⟩ := h.intern w
    exact ⟨congrArg Answer.id hid, hholds⟩
  | id? w => exact ⟨congrArg Answer.id? (h.ids_eq w), h⟩
  | contains w =>
    have hknown : t.ids.contains w = l.contains w := by
      rw [Std.HashMap.contains_eq_isSome_getElem?, h.ids_eq]
      rfl
    exact ⟨congrArg Answer.contains hknown, h⟩
  | word? id => exact ⟨congrArg Answer.word? (h.word?_eq id), h⟩
  | size => exact ⟨congrArg Answer.size h.size_eq, h⟩

theorem answers_eq (h : t.Holds l) (calls : List Call) :
    answers Tables.call t calls = answers Lexicon.call l calls := by
  induction calls generalizing t l with
  | nil => rfl
  | cons c calls ih =>
    obtain ⟨hanswer, hholds⟩ := h.call c
    rw [answers, answers, hanswer, ih hholds]

end Holds

end Tables

/-- Whatever calls are made of a new lexicon, a word and its number determine each other, the numbers
given are the first ones, in the order in which the words first came, and no later call takes them back.
Two tables answer the calls in the same way. -/
theorem words_numbered_for_good (calls : List Call) :
    (∀ w id, (empty.after calls).id? w = some id ↔ (empty.after calls).word? id = some w) ∧
    (∀ id, (∃ w, (empty.after calls).word? id = some w) ↔ id.index < (empty.after calls).size) ∧
    (∀ v w i j, (empty.after calls).id? v = some i → (empty.after calls).id? w = some j →
      (i.index < j.index ↔ (interned calls).idxOf v < (interned calls).idxOf w)) ∧
    (empty.after calls).size = (interned calls).toFinset.card ∧
    (∀ w, (empty.after calls).contains w = true ↔ .intern w ∈ calls) ∧
    (∀ w more, (empty.after (calls ++ .intern w :: more)).id? w =
      some ((empty.after calls).intern w).1) ∧
    (∀ w id more, (empty.after calls).id? w = some id →
      (empty.after (calls ++ more)).id? w = some id ∧
        (empty.after (calls ++ more)).word? id = some w) ∧
    answers Tables.call .empty calls = answers call empty calls := by
  have hnumbers : (empty.after calls).Numbers (interned calls) := Numbers.empty.after calls
  refine ⟨fun _ _ => id?_eq_some_iff, fun _ => exists_word?_iff, hnumbers.lt_iff, hnumbers.size_eq, ?_,
    ?_, ?_, Tables.Holds.empty.answers_eq calls⟩
  · intro w
    rw [hnumbers.contains_iff, mem_interned_iff]
  · intro w more
    rw [after_append]
    exact id?_after (id?_eq_some_iff.mpr (word?_intern _ w)) more
  · intro w id more hw
    rw [after_append, ← id?_eq_some_iff, and_self]
    exact id?_after hw more

/-- `up` is asked for before it has a number, and `give` comes twice. -/
theorem words_numbered_for_good_give_up :
    (empty.after [.intern "give", .id? "up", .intern "up", .intern "give"]).id? "give" = some ⟨0⟩ ∧
    (empty.after [.intern "give", .id? "up", .intern "up", .intern "give"]).id? "up" = some ⟨1⟩ ∧
    (0 < 1 ↔ ["give", "up", "give"].idxOf "give" < ["give", "up", "give"].idxOf "up") ∧
    (empty.after [.intern "give", .id? "up", .intern "up", .intern "give", .intern "in",
      .word? ⟨1⟩]).id? "up" = some ⟨1⟩ := by
  have hgive : (empty.after [.intern "give", .id? "up", .intern "up", .intern "give"]).id? "give" =
      some ⟨0⟩ := by decide
  have hup : (empty.after [.intern "give", .id? "up", .intern "up", .intern "give"]).id? "up" =
      some ⟨1⟩ := by decide
  obtain ⟨-, -, horder, -, -, -, hkeep, -⟩ :=
    words_numbered_for_good [.intern "give", .id? "up", .intern "up", .intern "give"]
  exact ⟨hgive, hup, horder _ _ _ _ hgive hup, (hkeep _ _ [.intern "in", .word? ⟨1⟩] hup).1⟩

end Lexicon

end Headword
