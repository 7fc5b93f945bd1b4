import Headword.Proofs.Grammar.Compiling
import Headword.Proofs.Grammar.Knows

/-!
# Catalogs compiled together

Templates that share one grammar do not interfere: the longest match of two catalogs compiled together is
the longer one of their own matches.
-/

namespace Headword

variable {first second : Catalog} {vocabulary : Vocabulary} {direction : Direction} {ignored : WordSet}

theorem Vocabulary.supplies_append_iff {name : Option String} :
    vocabulary.Supplies ⟨name, first.templates ++ second.templates⟩ ↔
      vocabulary.Supplies first ∧ vocabulary.Supplies second :=
  List.forall_mem_append

theorem Catalog.standsFor_append_iff {name : Option String} {row : List Slot} :
    Catalog.StandsFor ⟨name, first.templates ++ second.templates⟩ vocabulary direction ignored row ↔
      first.StandsFor vocabulary direction ignored row ∨
        second.StandsFor vocabulary direction ignored row := by
  simp only [StandsFor, List.mem_append, or_and_right, exists_or]

/-- A match needs no more than one row, which comes from one of the sides. -/
theorem isMatch_or_iff {rows rows' : List Slot → Prop} {offers : Category → List String → Prop}
    {whole : Prop} {ws : List String} :
    IsMatch (fun row => rows row ∨ rows' row) offers whole ws ↔
      IsMatch rows offers whole ws ∨ IsMatch rows' offers whole ws := by
  constructor
  · rintro (⟨row, hrow, hfill⟩ | ⟨hwhole, p, c, rest, hrow, hfill⟩)
    · exact hrow.imp (fun hrow => .inl ⟨row, hrow, hfill⟩) fun hrow => .inl ⟨row, hrow, hfill⟩
    · exact hrow.imp (fun hrow => .inr ⟨hwhole, p, c, rest, hrow, hfill⟩)
        fun hrow => .inr ⟨hwhole, p, c, rest, hrow, hfill⟩
  · rintro (hmatch | hmatch)
    · exact hmatch.mono (fun _ => .inl) fun _ _ _ => id
    · exact hmatch.mono (fun _ => .inr) fun _ _ _ => id

theorem matchesWords_or_iff {rows rows' : List Slot → Prop} {offers : Category → List String → Prop}
    {ws : List String} {n : Nat} :
    MatchesWords (fun row => rows row ∨ rows' row) offers ws n ↔
      MatchesWords rows offers ws n ∨ MatchesWords rows' offers ws n := by
  simp only [MatchesWords, isMatch_or_iff, and_or_left]

namespace Grammar

variable {g₁ g₂ : Grammar}

/-- Catalogs that compile also compile together, under any name.  The longest match of the whole is the
larger one of the two, where no match counts as the smallest. -/
theorem longestMatch?_append (h₁ : compile first vocabulary direction ignored = .ok g₁)
    (h₂ : compile second vocabulary direction ignored = .ok g₂) (name : Option String) :
    ∃ g, compile ⟨name, first.templates ++ second.templates⟩ vocabulary direction ignored = .ok g ∧
      ∀ ws : List String, g.longestMatch? (ws.map g.lexicon.id?) =
        max (g₁.longestMatch? (ws.map g₁.lexicon.id?)) (g₂.longestMatch? (ws.map g₂.lexicon.id?)) := by
  have hsupplies : vocabulary.Supplies ⟨name, first.templates ++ second.templates⟩ :=
    Vocabulary.supplies_append_iff.mpr
      ⟨exists_compile_eq_ok_iff.mp ⟨g₁, h₁⟩, exists_compile_eq_ok_iff.mp ⟨g₂, h₂⟩⟩
  obtain ⟨g, hg⟩ := exists_compile_eq_ok_iff.mpr hsupplies
  refine ⟨g, hg, fun ws => ?_⟩
  have hrows : Catalog.StandsFor ⟨name, first.templates ++ second.templates⟩ vocabulary direction
      ignored = fun row => first.StandsFor vocabulary direction ignored row ∨
        second.StandsFor vocabulary direction ignored row :=
    funext fun row => propext Catalog.standsFor_append_iff
  have hwhole := isLongest_longestMatch?_map_id? hg ws
  rw [hrows] at hwhole
  have hparts := (isLongest_longestMatch?_map_id? h₁ ws).max (isLongest_longestMatch?_map_id? h₂ ws)
  exact hwhole.unique (hparts.congr fun n => matchesWords_or_iff.symm)

/-- In `to be about it`, `to {verb}` matches three words and `to be` two of them.  The second catalog alone
does not know `about`. -/
theorem longestMatch?_append_to_be :
    ∃ g, compile ⟨some "both", [⟨[.word "to", .category .verb]⟩, ⟨[.word "to", .word "be"]⟩]⟩
        (Vocabulary.empty.extend .verb ["be", "be about"]) .forward .empty = .ok g ∧
      g.longestMatch? (["to", "be", "about", "it"].map g.lexicon.id?) = some 3 := by
  have h₁ : ∃ g, compile ⟨none, [⟨[.word "to", .category .verb]⟩]⟩
      (Vocabulary.empty.extend .verb ["be", "be about"]) .forward .empty = .ok g ∧
      g.longestMatch? (["to", "be", "about", "it"].map g.lexicon.id?) = some 3 :=
    ⟨_, rfl, by decide +kernel⟩
  have h₂ : ∃ g, compile ⟨none, [⟨[.word "to", .word "be"]⟩]⟩
      (Vocabulary.empty.extend .verb ["be", "be about"]) .forward .empty = .ok g ∧
      g.longestMatch? (["to", "be", "about", "it"].map g.lexicon.id?) = some 2 :=
    ⟨_, rfl, by decide +kernel⟩
  obtain ⟨g₁, hg₁, hn₁⟩ := h₁
  obtain ⟨g₂, hg₂, hn₂⟩ := h₂
  obtain ⟨g, hg, hmax⟩ := longestMatch?_append hg₁ hg₂ (some "both")
  refine ⟨g, hg, ?_⟩
  rw [hmax, hn₁, hn₂]
  rfl

end Grammar

end Headword
