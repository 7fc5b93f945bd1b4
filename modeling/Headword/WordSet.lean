/-!
# Sets of words

A finite set of words, kept in increasing order and without repetition, so that two sets with the same
members are equal (`WordSet.ext_mem`).
-/

namespace Headword

/-- Puts a word into its place in an increasing list, unless it is there already. -/
def insertWord (w : String) : List String → List String
  | [] => [w]
  | v :: rest =>
    if w < v then w :: v :: rest
    else if v < w then v :: insertWord w rest
    else v :: rest

private theorem eq_of_not_lt {v w : String} (hwv : ¬w < v) (hvw : ¬v < w) : v = w :=
  String.le_antisymm (String.not_lt.mp hwv) (String.not_lt.mp hvw)

theorem mem_insertWord {x w : String} {ws : List String} :
    x ∈ insertWord w ws ↔ x = w ∨ x ∈ ws := by
  induction ws with
  | nil => simp [insertWord]
  | cons v rest ih =>
    simp only [insertWord]
    split
    · simp
    next hwv =>
      split
      · simp only [List.mem_cons, ih]
        grind
      next hvw =>
        have := eq_of_not_lt hwv hvw
        grind

theorem pairwise_insertWord {w : String} {ws : List String} (h : ws.Pairwise (· < ·)) :
    (insertWord w ws).Pairwise (· < ·) := by
  induction ws with
  | nil => simp [insertWord]
  | cons v rest ih =>
    have hafter : ∀ x ∈ rest, v < x := fun x hx => List.rel_of_pairwise_cons h hx
    simp only [insertWord]
    split
    next hwv =>
      refine .cons (fun x hx => ?_) h
      rcases List.mem_cons.mp hx with rfl | hx
      · exact hwv
      · exact String.lt_trans hwv (hafter x hx)
    next =>
      split
      next hvw =>
        refine .cons (fun x hx => ?_) (ih h.of_cons)
        rcases mem_insertWord.mp hx with rfl | hx
        · exact hvw
        · exact hafter x hx
      next => exact h

/-- A finite set of words. -/
structure WordSet where
  /-- The members, in increasing order. -/
  words : List String
  increasing : words.Pairwise (· < ·)
  deriving DecidableEq

namespace WordSet

instance : Membership String WordSet where
  mem s w := w ∈ s.words

instance (w : String) (s : WordSet) : Decidable (w ∈ s) :=
  inferInstanceAs (Decidable (w ∈ s.words))

def empty : WordSet :=
  ⟨[], .nil⟩

def insert (s : WordSet) (w : String) : WordSet :=
  ⟨insertWord w s.words, pairwise_insertWord s.increasing⟩

def insertAll (s : WordSet) (ws : List String) : WordSet :=
  ws.foldl insert s

def ofList (ws : List String) : WordSet :=
  empty.insertAll ws

@[simp] theorem mem_words {w : String} {s : WordSet} : w ∈ s.words ↔ w ∈ s := .rfl

@[simp] theorem not_mem_empty (w : String) : w ∉ empty := List.not_mem_nil

@[simp] theorem mem_insert {x w : String} {s : WordSet} : x ∈ s.insert w ↔ x = w ∨ x ∈ s :=
  mem_insertWord

@[simp] theorem mem_insertAll {x : String} {s : WordSet} {ws : List String} :
    x ∈ s.insertAll ws ↔ x ∈ s ∨ x ∈ ws := by
  induction ws generalizing s with
  | nil => simp [insertAll]
  | cons w ws ih =>
    have h := ih (s := s.insert w)
    simp only [insertAll, List.foldl_cons] at h ⊢
    rw [h, mem_insert, List.mem_cons]
    grind

@[simp] theorem mem_ofList {x : String} {ws : List String} : x ∈ ofList ws ↔ x ∈ ws := by
  simp [ofList]

theorem ext_mem {s t : WordSet} (h : ∀ w, w ∈ s ↔ w ∈ t) : s = t := by
  obtain ⟨xs, hxs⟩ := s
  obtain ⟨ys, hys⟩ := t
  have hne : ∀ {a b : String}, a < b → a ≠ b := fun hlt heq => String.lt_irrefl _ (heq ▸ hlt)
  have hnodup : ∀ {zs : List String}, zs.Pairwise (· < ·) → zs.Nodup := fun hzs => hzs.imp hne
  have hperm : xs.Perm ys := (List.perm_ext_iff_of_nodup (hnodup hxs) (hnodup hys)).mpr h
  have hasymm : ∀ a b : String, a ∈ xs → b ∈ ys → a < b → b < a → a = b :=
    fun a b _ _ hab hba => absurd (String.lt_trans hab hba) (String.lt_irrefl a)
  have : xs = ys := hperm.eq_of_pairwise hasymm hxs hys
  subst this
  rfl

end WordSet

end Headword
