import Headword.Proofs.Trie.Edges
import Headword.Template

/-!
# Charts of tries

A node is known by its address: the root from which it is reached and the slots passed on the way.  A
chart lists the addresses of the nodes in the order of their numbers, so each address has one node.  A
trie realizes a chart when its edges are exactly those between neighbouring addresses of the chart.
Every step of building visits addresses: it leaves the chart alone when they are in it and otherwise adds
them at the end.
-/

namespace Headword

/-- The way to a node from the root of all rows or from the root of a category's subtree. -/
structure Address where
  /-- The category whose subtree the way starts in, if it does not start at the root of all rows. -/
  home : Option Category
  slots : List Slot
  deriving DecidableEq

namespace Address

def start : Address :=
  ⟨none, []⟩

def root (c : Category) : Address :=
  ⟨some c, []⟩

def next (a : Address) (x : Slot) : Address :=
  ⟨a.home, a.slots ++ [x]⟩

def along (a : Address) (slots : List Slot) : Address :=
  ⟨a.home, a.slots ++ slots⟩

/-- The addresses passed on the way from an address along slots, that address left out. -/
def trail (a : Address) : List Slot → List Address
  | [] => []
  | x :: rest => a.next x :: (a.next x).trail rest

/-- What may be complete at an address. -/
def ending (a : Address) : Ending :=
  match a.home with
  | none => .template
  | some _ => .entry

@[simp] theorem next_inj {a b : Address} {x y : Slot} : a.next x = b.next y ↔ a = b ∧ x = y := by
  obtain ⟨home, slots⟩ := a
  obtain ⟨home', slots'⟩ := b
  simp only [next, mk.injEq]
  constructor
  · rintro ⟨hhome, hslots⟩
    obtain ⟨hinit, hlast⟩ := List.append_inj' hslots rfl
    exact ⟨⟨hhome, hinit⟩, List.singleton_inj.mp hlast⟩
  · rintro ⟨⟨rfl, rfl⟩, rfl⟩
    exact ⟨rfl, rfl⟩

theorem next_ne_self (a : Address) (x : Slot) : a.next x ≠ a := by
  intro h
  have hlen := congrArg (List.length ∘ slots) h
  simp [next] at hlen

theorem next_ne_top (a : Address) (x : Slot) (home : Option Category) : a.next x ≠ ⟨home, []⟩ := by
  simp [next]

@[simp] theorem next_ne_start (a : Address) (x : Slot) : a.next x ≠ start :=
  next_ne_top a x none

@[simp] theorem next_ne_root (a : Address) (x : Slot) (c : Category) : a.next x ≠ root c :=
  next_ne_top a x (some c)

@[simp] theorem along_nil (a : Address) : a.along [] = a := by
  simp [along]

theorem along_next (a : Address) (x : Slot) (slots : List Slot) :
    (a.next x).along slots = a.along (x :: slots) := by
  simp [along, next]

theorem mem_trail {a b : Address} {slots : List Slot} :
    b ∈ a.trail slots ↔ ∃ p, p ≠ [] ∧ p <+: slots ∧ b = a.along p := by
  induction slots generalizing a with
  | nil =>
    simp only [trail, List.not_mem_nil, false_iff]
    rintro ⟨p, hne, hp, -⟩
    exact hne (List.prefix_nil.mp hp)
  | cons x rest ih =>
    rw [trail, List.mem_cons, ih]
    constructor
    · rintro (rfl | ⟨p, -, hp, rfl⟩)
      · exact ⟨[x], by simp, by simp, rfl⟩
      · exact ⟨x :: p, by simp, by simpa using hp, along_next ..⟩
    · rintro ⟨p, hne, hp, rfl⟩
      cases p with
      | nil => exact absurd rfl hne
      | cons y q =>
        obtain ⟨rfl, hq⟩ := List.cons_prefix_cons.mp hp
        cases q with
        | nil => exact .inl rfl
        | cons z q => exact .inr ⟨z :: q, by simp, hq, (along_next ..).symm⟩

-- no category stands in a list of words
theorem not_prefix_of_category {p : List Slot} {c : Category} {ws : List String} :
    ¬p ++ [.category c] <+: ws.map Slot.word := by
  intro hpre
  have hword := hpre.subset (List.mem_append_right p (List.mem_singleton_self _))
  simp at hword

end Address

/-- The addresses of nodes, in the order of their numbers. -/
structure Chart where
  /-- The number of the first node that is charted. -/
  base : Nat := 0
  /-- Words that need no edge. -/
  given : List String := []
  places : List Address
  /-- The addresses at which something is complete. -/
  ends : List Address := []

namespace Chart

def size (chart : Chart) : Nat :=
  chart.base + chart.places.length

def at? (chart : Chart) (i : NodeId) : Option Address :=
  if i.index < chart.base then none else chart.places[i.index - chart.base]?

def push (chart : Chart) (a : Address) : Chart :=
  { chart with places := chart.places ++ [a] }

/-- The chart with a node at the address, which is added if it is new. -/
def visit (chart : Chart) (a : Address) : Chart :=
  if a ∈ chart.places then chart else chart.push a

def visitAll (chart : Chart) (as : List Address) : Chart :=
  as.foldl visit chart

/-- The chart with something complete at one more address. -/
def mark (chart : Chart) (a : Address) : Chart :=
  { chart with ends := a :: chart.ends }

/-- The chart with the way along an entry of a category, and the entry complete at its end. -/
def addEntry (c : Category) (chart : Chart) (words : List String) : Chart :=
  (chart.visitAll ((Address.root c).trail (words.map .word))).mark
    ((Address.root c).along (words.map .word))

theorem at?_push (chart : Chart) (a : Address) (i : NodeId) :
    (chart.push a).at? i = if i.index = chart.size then some a else chart.at? i := by
  show (if i.index < chart.base then none else (chart.places ++ [a])[i.index - chart.base]?) = _
  unfold at? size
  by_cases hb : i.index < chart.base
  · rw [if_pos hb, if_pos hb, if_neg (by omega)]
  · rw [if_neg hb, if_neg hb]
    by_cases h : i.index = chart.base + chart.places.length
    · rw [if_pos h, h, Nat.add_sub_cancel_left, List.getElem?_concat_length]
    · rw [if_neg h, List.getElem?_append]
      split
      · rfl
      · rw [List.getElem?_eq_none (by simp; omega), List.getElem?_eq_none (by omega)]

theorem le_and_lt_of_at?_eq_some {chart : Chart} {i : NodeId} {a : Address}
    (h : chart.at? i = some a) : chart.base ≤ i.index ∧ i.index < chart.size := by
  unfold at? at h
  split at h
  · cases h
  next hb =>
    have hlt := (List.getElem?_eq_some_iff.mp h).1
    unfold size
    omega

theorem mem_places_iff {chart : Chart} {a : Address} :
    a ∈ chart.places ↔ ∃ i, chart.at? i = some a := by
  rw [List.mem_iff_getElem?]
  constructor
  · rintro ⟨n, hn⟩
    refine ⟨⟨chart.base + n⟩, ?_⟩
    rw [at?, if_neg (by simp), Nat.add_sub_cancel_left, hn]
  · rintro ⟨i, hi⟩
    unfold at? at hi
    split at hi
    · cases hi
    · exact ⟨_, hi⟩

theorem mem_places_of_at? {chart : Chart} {i : NodeId} {a : Address} (h : chart.at? i = some a) :
    a ∈ chart.places :=
  mem_places_iff.mpr ⟨i, h⟩

theorem exists_at?_eq_some {chart : Chart} {i : NodeId} (hb : chart.base ≤ i.index)
    (hs : i.index < chart.size) : ∃ a, chart.at? i = some a := by
  unfold size at hs
  rw [at?, if_neg (by omega)]
  exact ⟨_, List.getElem?_eq_getElem (by omega)⟩

theorem at?_inj {chart : Chart} (hnd : chart.places.Nodup) {i j : NodeId} {a : Address}
    (hi : chart.at? i = some a) (hj : chart.at? j = some a) : i = j := by
  have hbi := (le_and_lt_of_at?_eq_some hi).1
  have hbj := (le_and_lt_of_at?_eq_some hj).1
  -- equal addresses stand at one position, because the places are different
  rw [at?, if_neg (by omega)] at hi hj
  obtain ⟨hlt, -⟩ := List.getElem?_eq_some_iff.mp hi
  have heq := (List.getElem?_inj hlt hnd).mp (hi.trans hj.symm)
  obtain ⟨i⟩ := i
  obtain ⟨j⟩ := j
  simp only [NodeId.mk.injEq] at hbi hbj heq ⊢
  omega

theorem at?_push_of_eq_some {chart : Chart} {i : NodeId} {b : Address} (h : chart.at? i = some b)
    (a : Address) : (chart.push a).at? i = some b := by
  have hlt := (le_and_lt_of_at?_eq_some h).2
  rw [at?_push, if_neg (by omega), h]

theorem at?_push_size (chart : Chart) (a : Address) : (chart.push a).at? ⟨chart.size⟩ = some a := by
  rw [at?_push, if_pos rfl]

theorem at?_visit_of_eq_some {chart : Chart} {i : NodeId} {b : Address}
    (h : chart.at? i = some b) (a : Address) : (chart.visit a).at? i = some b := by
  unfold visit
  split
  · exact h
  · exact at?_push_of_eq_some h a

theorem at?_visitAll_of_eq_some {chart : Chart} {i : NodeId} {b : Address}
    (h : chart.at? i = some b) (as : List Address) : (chart.visitAll as).at? i = some b := by
  induction as generalizing chart with
  | nil => exact h
  | cons a as ih => exact ih (at?_visit_of_eq_some h a)

@[simp] theorem at?_mark (chart : Chart) (a : Address) (i : NodeId) :
    (chart.mark a).at? i = chart.at? i := rfl

@[simp] theorem mem_places_visit {chart : Chart} {a b : Address} :
    b ∈ (chart.visit a).places ↔ b ∈ chart.places ∨ b = a := by
  unfold visit
  split
  next h => exact ⟨.inl, fun hb => hb.elim id fun hba => hba ▸ h⟩
  next => simp [push]

@[simp] theorem mem_places_visitAll {chart : Chart} {as : List Address} {b : Address} :
    b ∈ (chart.visitAll as).places ↔ b ∈ chart.places ∨ b ∈ as := by
  induction as generalizing chart with
  | nil => simp [visitAll]
  | cons a as ih =>
    show b ∈ ((chart.visit a).visitAll as).places ↔ _
    rw [ih, mem_places_visit, List.mem_cons, or_assoc]

@[simp] theorem base_visit (chart : Chart) (a : Address) : (chart.visit a).base = chart.base := by
  unfold visit
  split <;> rfl

@[simp] theorem given_visit (chart : Chart) (a : Address) : (chart.visit a).given = chart.given := by
  unfold visit
  split <;> rfl

@[simp] theorem ends_visit (chart : Chart) (a : Address) : (chart.visit a).ends = chart.ends := by
  unfold visit
  split <;> rfl

@[simp] theorem base_visitAll (chart : Chart) (as : List Address) :
    (chart.visitAll as).base = chart.base := by
  induction as generalizing chart with
  | nil => rfl
  | cons a as ih => exact (ih _).trans (base_visit chart a)

@[simp] theorem given_visitAll (chart : Chart) (as : List Address) :
    (chart.visitAll as).given = chart.given := by
  induction as generalizing chart with
  | nil => rfl
  | cons a as ih => exact (ih _).trans (given_visit chart a)

@[simp] theorem ends_visitAll (chart : Chart) (as : List Address) :
    (chart.visitAll as).ends = chart.ends := by
  induction as generalizing chart with
  | nil => rfl
  | cons a as ih => exact (ih _).trans (ends_visit chart a)

theorem at?_addEntry_of_eq_some {chart : Chart} {i : NodeId} {b : Address}
    (h : chart.at? i = some b) (c : Category) (words : List String) :
    (chart.addEntry c words).at? i = some b :=
  at?_visitAll_of_eq_some h _

theorem mem_places_addEntry {chart : Chart} {c : Category} {words : List String} {b : Address} :
    b ∈ (chart.addEntry c words).places ↔
      b ∈ chart.places ∨ ∃ p, p ≠ [] ∧ p <+: words.map Slot.word ∧ b = ⟨some c, p⟩ := by
  show b ∈ (chart.visitAll _).places ↔ _
  rw [mem_places_visitAll, Address.mem_trail]
  rfl

theorem mem_ends_addEntry {chart : Chart} {c : Category} {words : List String} {b : Address} :
    b ∈ (chart.addEntry c words).ends ↔ b ∈ chart.ends ∨ b = ⟨some c, words.map Slot.word⟩ := by
  show b ∈ _ :: (chart.visitAll _).ends ↔ _
  rw [ends_visitAll, List.mem_cons, or_comm]
  rfl

@[simp] theorem base_foldl_addEntry (chart : Chart) (c : Category) (entries : List (List String)) :
    (entries.foldl (addEntry c) chart).base = chart.base := by
  induction entries generalizing chart with
  | nil => rfl
  | cons e es ih => exact (ih _).trans (base_visitAll chart _)

@[simp] theorem given_foldl_addEntry (chart : Chart) (c : Category)
    (entries : List (List String)) :
    (entries.foldl (addEntry c) chart).given = chart.given := by
  induction entries generalizing chart with
  | nil => rfl
  | cons e es ih => exact (ih _).trans (given_visitAll chart _)

theorem at?_foldl_addEntry_of_eq_some {chart : Chart} {i : NodeId} {b : Address}
    (h : chart.at? i = some b) (c : Category) (entries : List (List String)) :
    (entries.foldl (addEntry c) chart).at? i = some b := by
  induction entries generalizing chart with
  | nil => exact h
  | cons e es ih => exact ih (at?_addEntry_of_eq_some h c e)

theorem mem_places_foldl_addEntry {chart : Chart} {c : Category} {entries : List (List String)}
    {b : Address} :
    b ∈ (entries.foldl (addEntry c) chart).places ↔
      b ∈ chart.places ∨
        ∃ e ∈ entries, ∃ p, p ≠ [] ∧ p <+: e.map Slot.word ∧ b = ⟨some c, p⟩ := by
  induction entries generalizing chart with
  | nil => simp
  | cons e es ih =>
    rw [List.foldl_cons, ih, mem_places_addEntry]
    simp only [List.mem_cons, exists_eq_or_imp, or_assoc]

theorem mem_ends_foldl_addEntry {chart : Chart} {c : Category} {entries : List (List String)}
    {b : Address} :
    b ∈ (entries.foldl (addEntry c) chart).ends ↔
      b ∈ chart.ends ∨ ∃ e ∈ entries, b = ⟨some c, e.map Slot.word⟩ := by
  induction entries generalizing chart with
  | nil => simp
  | cons e es ih =>
    rw [List.foldl_cons, ih, mem_ends_addEntry]
    simp only [List.mem_cons, exists_eq_or_imp, or_assoc]

end Chart

end Headword
