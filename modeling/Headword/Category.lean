/-!
# Word categories

The four kinds of words that a template can ask for, in their fixed order, and tables with one value
for each of them.
-/

namespace Headword

/-- A kind of word that a template slot can stand for. -/
inductive Category
  /-- Articles and other determiners. -/
  | article
  /-- Personal, possessive and reflexive pronouns. -/
  | pronoun
  /-- Common verbs and their inflected forms. -/
  | verb
  | preposition
  deriving DecidableEq

namespace Category

/-- All categories, in their order. -/
def all : List Category :=
  [article, pronoun, verb, preposition]

/-- The place of a category in the order. -/
def rank : Category → Nat
  | article => 0
  | pronoun => 1
  | verb => 2
  | preposition => 3

def name : Category → String
  | article => "article"
  | pronoun => "pronoun"
  | verb => "verb"
  | preposition => "preposition"

/-- The short name by which templates ask for a category. -/
def marker : Category → String
  | article => "art"
  | pronoun => "pron"
  | verb => "verb"
  | preposition => "prep"

/-- The marker in braces, as it stands in a template. -/
def label (c : Category) : String :=
  "\x7b" ++ c.marker ++ "\x7d"

theorem mem_all (c : Category) : c ∈ all := by
  cases c <;> decide

theorem rank_inj {c d : Category} : c.rank = d.rank ↔ c = d := by
  cases c <;> cases d <;> decide

theorem all_pairwise_rank : all.Pairwise fun c d => c.rank < d.rank := by
  decide

/-- One value for each category. -/
structure Table (α : Type) where
  article : α
  pronoun : α
  verb : α
  preposition : α
  deriving DecidableEq

namespace Table

variable {α : Type}

def replicate (a : α) : Table α :=
  ⟨a, a, a, a⟩

def get (t : Table α) : Category → α
  | .article => t.article
  | .pronoun => t.pronoun
  | .verb => t.verb
  | .preposition => t.preposition

def set (t : Table α) (c : Category) (a : α) : Table α :=
  match c with
  | .article => { t with article := a }
  | .pronoun => { t with pronoun := a }
  | .verb => { t with verb := a }
  | .preposition => { t with preposition := a }

@[simp] theorem get_replicate (a : α) (c : Category) : (replicate a).get c = a := by
  cases c <;> rfl

@[simp] theorem get_set_self (t : Table α) (c : Category) (a : α) : (t.set c a).get c = a := by
  cases c <;> rfl

theorem get_set_of_ne (t : Table α) {c d : Category} (h : d ≠ c) (a : α) :
    (t.set c a).get d = t.get d := by
  cases c <;> cases d <;> first | rfl | exact absurd rfl h

theorem eq_of_get_eq {s t : Table α} (h : ∀ c, s.get c = t.get c) : s = t := by
  have ha := h .article
  have hp := h .pronoun
  have hv := h .verb
  have hr := h .preposition
  cases s
  cases t
  simp_all [get]

end Table

end Category

end Headword
