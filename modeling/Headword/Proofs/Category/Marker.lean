import Headword.Category.Marker
import Headword.Proofs.Text.Trimming

/-!
# Names between braces

A name that stands as a word between braces is looked up as it is: there are no braces and no blanks
that reading it could take away, so it is either one of the spellings of a category or unknown.
-/

namespace Headword

/-- A text without braces. -/
def BraceFree (text : String) : Prop :=
  ∀ c ∈ text.toList, isBrace c = false

theorem braceFree_iff_any {text : String} : BraceFree text ↔ text.toList.any isBrace = false := by
  rw [BraceFree, List.any_eq_false]
  simp only [Bool.not_eq_true]

/-- A word with a name between braces, which has no brace itself. -/
structure InBraces (w name : String) : Prop where
  eq : w = "\x7b" ++ name ++ "\x7d"
  ne_empty : name ≠ ""
  braceFree : BraceFree name

theorem exists_contains_of_isBrace {c : Char} (h : isBrace c = true) :
    ∃ r ∈ [(⟨0x007B, 0x007B⟩ : Text.CodeRange), ⟨0x007D, 0x007D⟩], r.Contains c.toNat := by
  unfold isBrace at h
  simp only [Bool.or_eq_true, decide_eq_true_eq] at h
  rcases h with rfl | rfl <;> simp [Text.CodeRange.Contains]

theorem BraceFree.lowercase {text : String} (h : BraceFree text) : BraceFree (Text.lowercase text) :=
  Text.forall_mem_lowercase (fun _ => exists_contains_of_isBrace) (by decide +kernel) (by decide) h

namespace Category

/-- The name is the short or the full one of the category, in any case. -/
def IsCalled (c : Category) (name : String) : Prop :=
  Text.lowercase name = c.marker ∨ Text.lowercase name = c.name

/-- The lowercase names of all categories. -/
def spellings : List String :=
  ["art", "article", "pron", "pronoun", "verb", "prep", "preposition"]

theorem exists_isCalled_iff {name : String} :
    (∃ c : Category, c.IsCalled name) ↔ Text.lowercase name ∈ spellings := by
  unfold IsCalled
  constructor
  · rintro ⟨c, h | h⟩
    · rw [h]
      cases c <;> decide
    · rw [h]
      cases c <;> decide
  · have key : ∀ s ∈ spellings, ∃ c ∈ all, s = c.marker ∨ s = c.name := by decide
    intro h
    obtain ⟨c, -, hc⟩ := key _ h
    exact ⟨c, hc⟩

theorem ofName?_eq_some_iff {name : String} {c : Category} :
    ofName? name = some c ↔ name = c.marker ∨ name = c.name := by
  constructor
  · intro h
    have hfound := List.find?_some h
    simpa only [Bool.or_eq_true, decide_eq_true_eq] using hfound
  · rintro (rfl | rfl)
    · exact ofName?_marker c
    · exact ofName?_name c

theorem unbrace_of_braceFree {name : String} (h : BraceFree name) : unbrace name = name := by
  unfold unbrace
  split
  next rest hname =>
    have hbrace := h '\x7b' (hname ▸ List.mem_cons_self ..)
    exact absurd hbrace (by decide)
  next => rfl

section

variable {name : String} (hblank : ∀ c ∈ name.toList, Text.isBlank c = false) (hfree : BraceFree name)

include hblank hfree

theorem parse_eq_ok_iff {c : Category} : parse name = .ok c ↔ c.IsCalled name := by
  have hname : ofName? (Text.lowercase name) = some c ↔ c.IsCalled name := ofName?_eq_some_iff
  unfold parse
  rw [unbrace_of_braceFree hfree, Text.trim_eq_self hblank, ← hname]
  split
  next d hd => rw [hd, Except.ok.injEq, Option.some.injEq]
  next hnone =>
    rw [hnone]
    exact iff_of_false (fun h => by cases h) fun h => by cases h

theorem parse_eq_error_iff {fault : Fault} :
    parse name = .error fault ↔
      Text.lowercase name ∉ spellings ∧ fault = ⟨.unknownCategory name, none⟩ := by
  have hunknown : (¬∃ c, parse name = .ok c) ↔ Text.lowercase name ∉ spellings := by
    simp only [parse_eq_ok_iff hblank hfree, exists_isCalled_iff]
  rw [← hunknown]
  unfold parse
  rw [unbrace_of_braceFree hfree]
  split
  next d hd => exact iff_of_false (fun h => by cases h) fun h => h.1 ⟨d, rfl⟩
  next hnone =>
    rw [Except.error.injEq]
    constructor
    · intro h
      refine ⟨?_, h.symm⟩
      rintro ⟨c, hc⟩
      cases hc
    · exact fun h => h.2.symm

end

end Category

end Headword
