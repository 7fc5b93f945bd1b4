import Headword.Proofs.First
import Headword.Proofs.Grammar.Compiling

/-!
# Catalogs that do not compile

Templates can be compiled one after another, each checked right before its rows are laid.  No template is
left out unchecked, so the fault is the same as when all are checked first
(`Grammar.compile_eq_compileInTurn`), and it is that of the first category without a list.
-/

namespace Headword

/-- The slot asks for a category without a list. -/
def Vocabulary.Lacks (vocabulary : Vocabulary) (s : Slot) : Prop :=
  ∃ c, s = .category c ∧ vocabulary.entries? c = none

/-- The first template that asks for a category without a list fails with the first such category. -/
def Catalog.FailsWith (catalog : Catalog) (vocabulary : Vocabulary) (fault : Fault) : Prop :=
  ∃ n t m c, IsFirst (fun t : Template => ∃ s ∈ t.slots, vocabulary.Lacks s) catalog.templates n t ∧
    IsFirst vocabulary.Lacks t.slots m (.category c) ∧
    fault = ⟨.missingCategory c, some ⟨catalog.name, some n⟩⟩

section

variable {catalog : Catalog} {vocabulary : Vocabulary} {t : Template} {s : Slot} {c : Category}
  {n : Nat}

theorem Vocabulary.declares_eq_false_iff : vocabulary.declares c = false ↔ vocabulary.entries? c = none := by
  rw [declares, Option.isSome_eq_false_iff, Option.isNone_iff_eq_none]

theorem Vocabulary.lacks_iff :
    vocabulary.Lacks s ↔ (s.category?.any fun c => !vocabulary.declares c) = true := by
  cases s with
  | word w => simp [Lacks, Slot.category?]
  | category d => simp [Lacks, Slot.category?, declares_eq_false_iff]

theorem Template.missing?_eq_some_iff :
    t.missing? vocabulary = some c ↔ ∃ m, IsFirst vocabulary.Lacks t.slots m (.category c) := by
  have hlacks : (fun s : Slot => (s.category?.any fun c => !vocabulary.declares c) = true) =
      vocabulary.Lacks := funext fun s => propext Vocabulary.lacks_iff.symm
  -- the first category that is found stands in the first slot that lacks a list
  rw [missing?, categories, List.find?_filterMap, Option.bind_eq_some_iff]
  simp only [find?_eq_some_iff_isFirst, hlacks]
  constructor
  · rintro ⟨s, ⟨m, hs⟩, hc⟩
    cases s with
    | word w => cases hc
    | category d =>
      cases hc
      exact ⟨m, hs⟩
  · rintro ⟨m, hc⟩
    exact ⟨_, ⟨m, hc⟩, rfl⟩

theorem Template.isSome_missing?_iff :
    (t.missing? vocabulary).isSome = true ↔ ∃ s ∈ t.slots, vocabulary.Lacks s := by
  rw [Option.isSome_iff_exists, ← exists_isFirst_iff]
  simp only [missing?_eq_some_iff]
  constructor
  · rintro ⟨c, m, hc⟩
    exact ⟨m, _, hc⟩
  · rintro ⟨m, s, hs⟩
    obtain ⟨c, rfl, -⟩ := hs.holds
    exact ⟨c, m, hs⟩

theorem Catalog.missing?_eq_some_iff : catalog.missing? vocabulary = some (n, c) ↔
    ∃ t, IsFirst (fun t : Template => ∃ s ∈ t.slots, vocabulary.Lacks s) catalog.templates n t ∧
      t.missing? vocabulary = some c := by
  have hfirst : ∀ k i t, IsFirst (fun p : Template × Nat =>
      ((p.1.missing? vocabulary).map fun c => (p.2, c)).isSome = true) catalog.templates.zipIdx k (t, i) ↔
      IsFirst (fun t : Template => ∃ s ∈ t.slots, vocabulary.Lacks s) catalog.templates k t ∧ i = k := by
    intro k i t
    rw [← isFirst_zipIdx_iff (fun t : Template => ∃ s ∈ t.slots, vocabulary.Lacks s)]
    apply isFirst_congr
    intro p _
    rw [Option.isSome_map, Template.isSome_missing?_iff]
  rw [missing?, findSome?_eq_some_iff_isFirst]
  constructor
  · rintro ⟨k, ⟨t, i⟩, hmem, hsome⟩
    obtain ⟨ht, rfl⟩ := (hfirst k i t).mp hmem
    obtain ⟨d, hd, heq⟩ := Option.map_eq_some_iff.mp hsome
    cases heq
    exact ⟨t, ht, hd⟩
  · rintro ⟨t, ht, hc⟩
    refine ⟨n, (t, n), (hfirst n n t).mpr ⟨ht, rfl⟩, ?_⟩
    show (t.missing? vocabulary).map _ = _
    rw [hc]
    rfl

/-- There is something to fail with as soon as one template asks for a category without a list. -/
theorem Catalog.exists_failsWith_iff : (∃ fault, catalog.FailsWith vocabulary fault) ↔
    ∃ t ∈ catalog.templates, ∃ c, .category c ∈ t.slots ∧ vocabulary.entries? c = none := by
  have hlacks : ∀ t : Template, (∃ s ∈ t.slots, vocabulary.Lacks s) ↔
      ∃ c, .category c ∈ t.slots ∧ vocabulary.entries? c = none := by
    intro t
    unfold Vocabulary.Lacks
    grind
  simp only [← hlacks]
  rw [← exists_isFirst_iff]
  constructor
  · rintro ⟨fault, n, t, m, c, ht, -⟩
    exact ⟨n, t, ht⟩
  · rintro ⟨n, t, ht⟩
    obtain ⟨m, s, hs⟩ := exists_isFirst_iff.mpr ht.holds
    obtain ⟨c, rfl, -⟩ := hs.holds
    exact ⟨_, n, t, m, c, ht, hs, rfl⟩

/-- A category with a list is never reported, whatever is in the list. -/
theorem Catalog.FailsWith.entries?_eq_none {place : Option Fault.Place}
    (h : catalog.FailsWith vocabulary ⟨.missingCategory c, place⟩) : vocabulary.entries? c = none := by
  obtain ⟨n, t, m, d, -, hd, hfault⟩ := h
  obtain ⟨d', hd', hnone⟩ := hd.holds
  cases hfault
  cases hd'
  exact hnone

end

/-- A fault does not depend on the direction or on the ignored words. -/
theorem Grammar.compile_eq_error_iff_failsWith {catalog : Catalog} {vocabulary : Vocabulary}
    {direction : Direction} {ignored : WordSet} {fault : Fault} :
    compile catalog vocabulary direction ignored = .error fault ↔ catalog.FailsWith vocabulary fault := by
  rw [compile_eq_error_iff]
  simp only [Catalog.missing?_eq_some_iff, Template.missing?_eq_some_iff]
  constructor
  · rintro ⟨n, c, ⟨t, ht, m, hc⟩, hfault⟩
    exact ⟨n, t, m, c, ht, hc, hfault⟩
  · rintro ⟨n, t, m, c, ht, hc, hfault⟩
    exact ⟨n, c, ⟨t, ht, m, hc⟩, hfault⟩

/-! ## One template after another -/

/-- A loop that stops at the first member that fails a check. -/
theorem forM_check_eq {α ε : Type} (check : α → Bool) (fault : α → ε) (xs : List α) :
    (xs.forM fun x => if check x then Except.ok () else .error (fault x)) =
      match xs.find? fun x => !check x with
      | some x => .error (fault x)
      | none => .ok () := by
  induction xs with
  | nil => rfl
  | cons x xs ih =>
    show ((if check x then Except.ok () else .error (fault x)) >>= fun _ => xs.forM _) = _
    by_cases hx : check x = true
    · rw [if_pos hx, List.find?_cons_of_neg (by simp [hx])]
      exact ih
    · rw [if_neg hx, List.find?_cons_of_pos (by simp [hx])]
      rfl

namespace Grammar

variable (catalog : Catalog) (vocabulary : Vocabulary) (direction : Direction) (ignored : WordSet)

/-- Goes on by one template, given with its position: its categories are checked, and unless it has an
ignored word, its expansions are laid, apart from the empty one. -/
def addTemplate (g : Grammar) (numbered : Template × Nat) : Except Fault Grammar := do
  -- the check comes before the template can be left out
  numbered.1.categories.forM fun c =>
    if vocabulary.declares c then .ok ()
    else .error ⟨.missingCategory c, some (catalog.place numbered.2)⟩
  if numbered.1.mentionsAny ignored then return g
  return (numbered.1.expansions vocabulary.isOptional).foldl (fun g row =>
    if row.isEmpty then g
    else g.addRow (fun c => walkedEntries (vocabulary.entries c) direction ignored) (direction.orient row)) g

/-- Compiles a catalog template by template. -/
def compileInTurn : Except Fault Grammar :=
  catalog.templates.zipIdx.foldlM (addTemplate catalog vocabulary direction ignored) (empty direction)

theorem addTemplate_eq (g : Grammar) (t : Template) (index : Nat) :
    addTemplate catalog vocabulary direction ignored g (t, index) =
      match t.missing? vocabulary with
      | some c => .error ⟨.missingCategory c, some (catalog.place index)⟩
      | none => .ok ((t.rows vocabulary direction ignored).foldl
          (addRow fun c => walkedEntries (vocabulary.entries c) direction ignored) g) := by
  rw [addTemplate, forM_check_eq]
  show _ = match t.categories.find? fun c => !vocabulary.declares c with
    | some c => _
    | none => _
  cases t.categories.find? fun c => !vocabulary.declares c with
  | some c => rfl
  | none =>
    rw [Template.rows]
    cases t.mentionsAny ignored with
    | true => rfl
    | false =>
      -- the loop passes over the empty expansion, which is no row
      show Except.ok _ = Except.ok _
      rw [if_neg (by simp), List.foldl_map, List.foldl_filter]
      simp

theorem foldlM_addTemplate_eq (g : Grammar) (templates : List Template) (first : Nat) :
    (templates.zipIdx first).foldlM (addTemplate catalog vocabulary direction ignored) g =
      match (templates.zipIdx first).findSome? fun (t, index) =>
        (t.missing? vocabulary).map fun c => (index, c) with
      | some (index, c) => .error ⟨.missingCategory c, some (catalog.place index)⟩
      | none => .ok ((templates.flatMap fun t => t.rows vocabulary direction ignored).foldl
          (addRow fun c => walkedEntries (vocabulary.entries c) direction ignored) g) := by
  -- by induction on the templates; the first one that lacks a list ends both sides
  induction templates generalizing first g with
  | nil => rfl
  | cons t ts ih =>
    rw [List.zipIdx_cons, List.foldlM_cons, addTemplate_eq, List.findSome?_cons, List.flatMap_cons,
      List.foldl_append]
    dsimp only
    cases t.missing? vocabulary with
    | some c => rfl
    | none => exact ih _ _

/-- Whether all templates are checked first or each in its turn makes no difference. -/
theorem compile_eq_compileInTurn : compile catalog vocabulary direction ignored =
    compileInTurn catalog vocabulary direction ignored := by
  rw [compileInTurn, foldlM_addTemplate_eq, ← Catalog.rows_eq_flatMap]
  rfl

end Grammar

end Headword
