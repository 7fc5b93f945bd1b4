/-!
# Lexicons

A lexicon numbers words in the order in which they are first met.  A word and its number determine each
other (`Lexicon.id?_eq_some_iff`).
-/

namespace Headword

/-- The number of a word in its lexicon.  Numbers do not run out: a lexicon whose numbers have 32 bits would
have to fail on the first word without one, and this one goes on. -/
structure WordId where
  index : Nat
  deriving DecidableEq

/-- A number as it is shown in reports. -/
def WordId.describe (id : WordId) : String :=
  "WordId(" ++ toString id.index ++ ")"

/-- Different words, each numbered by its position. -/
structure Lexicon where
  words : List String
  nodup : words.Nodup
  deriving DecidableEq

namespace Lexicon

def empty : Lexicon :=
  ⟨[], .nil⟩

def size (l : Lexicon) : Nat :=
  l.words.length

def id? (l : Lexicon) (w : String) : Option WordId :=
  (l.words.idxOf? w).map WordId.mk

def word? (l : Lexicon) (id : WordId) : Option String :=
  l.words[id.index]?

def contains (l : Lexicon) (w : String) : Bool :=
  (l.id? w).isSome

theorem id?_eq_none_iff {l : Lexicon} {w : String} : l.id? w = none ↔ w ∉ l.words := by
  simp [id?]

theorem contains_iff {l : Lexicon} {w : String} : l.contains w = true ↔ w ∈ l.words := by
  rw [contains, Option.isSome_iff_ne_none, ne_eq, id?_eq_none_iff, Classical.not_not]

/-- A word and its number determine each other. -/
theorem id?_eq_some_iff {l : Lexicon} {w : String} {id : WordId} :
    l.id? w = some id ↔ l.word? id = some w := by
  obtain ⟨n⟩ := id
  simp only [id?, word?, Option.map_eq_some_iff, WordId.mk.injEq, exists_eq_right,
    List.idxOf?_eq_some_iff, List.getElem?_eq_some_iff]
  constructor
  · rintro ⟨h, hw, -⟩
    exact ⟨h, hw⟩
  · rintro ⟨h, hw⟩
    -- no earlier position has the same word
    refine ⟨h, hw, fun m hm hmw => ?_⟩
    have hnd := List.pairwise_iff_getElem.mp l.nodup m n (by omega) h hm
    exact hnd (hmw.trans hw.symm)

private theorem nodup_concat {ws : List String} {w : String} (hws : ws.Nodup) (hw : w ∉ ws) :
    (ws ++ [w]).Nodup := by
  refine List.nodup_append.mpr ⟨hws, by simp, fun a ha b hb => ?_⟩
  obtain rfl := List.mem_singleton.mp hb
  exact fun heq => hw (heq ▸ ha)

/-- The number of a word, which is added at the end if it is new. -/
def intern (l : Lexicon) (w : String) : WordId × Lexicon :=
  match h : l.id? w with
  | some id => (id, l)
  | none => (⟨l.size⟩, ⟨l.words ++ [w], nodup_concat l.nodup (id?_eq_none_iff.mp h)⟩)

theorem intern_of_id?_eq_some {l : Lexicon} {w : String} {id : WordId} (h : l.id? w = some id) :
    l.intern w = (id, l) := by
  unfold intern
  split
  next id' h' => rw [h] at h'; cases h'; rfl
  next h' => rw [h] at h'; cases h'

theorem words_intern_of_id?_eq_none {l : Lexicon} {w : String} (h : l.id? w = none) :
    (l.intern w).1 = ⟨l.size⟩ ∧ (l.intern w).2.words = l.words ++ [w] := by
  unfold intern
  split
  next id' h' => rw [h] at h'; cases h'
  next h' => exact ⟨rfl, rfl⟩

/-- A word answers to the number that was given to it. -/
theorem word?_intern (l : Lexicon) (w : String) : (l.intern w).2.word? (l.intern w).1 = some w := by
  cases h : l.id? w with
  | some id => rw [intern_of_id?_eq_some h]; exact id?_eq_some_iff.mp h
  | none =>
    obtain ⟨hid, hwords⟩ := words_intern_of_id?_eq_none h
    rw [hid, word?, hwords, size]
    simp

/-- Numbers once given are never changed. -/
theorem word?_intern_of_eq_some {l : Lexicon} {v : String} {id : WordId} (h : l.word? id = some v)
    (w : String) : (l.intern w).2.word? id = some v := by
  cases hw : l.id? w with
  | some id' => rw [intern_of_id?_eq_some hw]; exact h
  | none =>
    rw [word?, (words_intern_of_id?_eq_none hw).2]
    obtain ⟨hlt, hv⟩ := List.getElem?_eq_some_iff.mp h
    rw [List.getElem?_append_left hlt]
    exact h

end Lexicon

end Headword
