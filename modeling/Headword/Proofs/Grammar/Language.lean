import Headword.Grammar

/-!
# What a catalog stands for

Rows of slots and the words that fill them, apart from how they are computed and stored.  A row stands
for itself with its categories replaced by entries; categories that may be left out leave rows of their
own behind.
-/

namespace Headword

/-- The second row arises from the first one when optional categories are left out. -/
inductive Thins (optional : Category → Prop) : List Slot → List Slot → Prop
  | nil : Thins optional [] []
  | keep {x row kept} : Thins optional row kept → Thins optional (x :: row) (x :: kept)
  | skip {c row kept} : optional c → Thins optional row kept → Thins optional (.category c :: row) kept

theorem Thins.subset {optional : Category → Prop} {row kept : List Slot} (h : Thins optional row kept) :
    kept ⊆ row := by
  induction h with
  | nil => exact List.Subset.refl _
  | keep _ ih => exact List.cons_subset_cons _ ih
  | skip _ _ ih => exact List.subset_cons_of_subset _ ih

theorem Thins.refl (optional : Category → Prop) (row : List Slot) : Thins optional row row := by
  induction row with
  | nil => exact .nil
  | cons x row ih => exact .keep ih

theorem Thins.mono {optional optional' : Category → Prop} {row kept : List Slot}
    (h : Thins optional row kept) (hoptional : ∀ c, optional c → optional' c) :
    Thins optional' row kept := by
  induction h with
  | nil => exact .nil
  | keep _ ih => exact .keep ih
  | skip hc _ ih => exact .skip (hoptional _ hc) ih

theorem Template.mem_variants_iff {optional : Category → Bool} {row kept : List Slot} :
    kept ∈ variants optional row ↔ Thins (fun c => optional c = true) row kept := by
  constructor
  · intro h
    induction row generalizing kept with
    | nil =>
      obtain rfl : kept = [] := by simpa [variants] using h
      exact .nil
    | cons s rest ih =>
      obtain ⟨u, hu, hkept⟩ := List.mem_flatMap.mp h
      split at hkept
      next hs =>
        -- an optional slot is kept or left out
        simp only [List.mem_cons, List.not_mem_nil, or_false] at hkept
        rcases hkept with rfl | rfl
        · exact .keep (ih hu)
        · cases s with
          | word w => cases hs
          | category c => exact .skip hs (ih hu)
      next =>
        obtain rfl := List.mem_singleton.mp hkept
        exact .keep (ih hu)
  · intro h
    induction h with
    | nil => exact mem_variants_self optional []
    | keep _ ih =>
      refine List.mem_flatMap.mpr ⟨_, ih, ?_⟩
      split <;> simp
    | skip hc _ ih =>
      refine List.mem_flatMap.mpr ⟨_, ih, ?_⟩
      rw [if_pos (show Slot.isOptional optional (.category _) = true from hc)]
      simp

/-- The entries that may stand for a category, in walking order. -/
def Vocabulary.Offers (vocabulary : Vocabulary) (direction : Direction) (ignored : WordSet)
    (c : Category) (ws : List String) : Prop :=
  ∃ entry ∈ vocabulary.entries c, (∀ w ∈ entry, w ∉ ignored) ∧ ws = direction.orient entry

/-- The empty entry has no words that could be ignored. -/
theorem Vocabulary.offers_nil_iff {vocabulary : Vocabulary} {direction : Direction} {ignored : WordSet}
    {c : Category} : vocabulary.Offers direction ignored c [] ↔ [] ∈ vocabulary.entries c := by
  constructor
  · rintro ⟨entry, hentry, -, hnil⟩
    rwa [Direction.orient_eq_nil_iff.mp hnil.symm] at hentry
  · intro hnil
    refine ⟨[], hnil, fun w hw => absurd hw List.not_mem_nil, ?_⟩
    rw [eq_comm, Direction.orient_eq_nil_iff]

theorem mem_walkedEntries_iff {vocabulary : Vocabulary} {direction : Direction} {ignored : WordSet}
    {c : Category} {ws : List String} :
    ws ∈ walkedEntries (vocabulary.entries c) direction ignored ↔
      vocabulary.Offers direction ignored c ws := by
  simp only [walkedEntries, List.mem_map, List.mem_filter, Entry.avoids_iff, Vocabulary.Offers,
    and_assoc, eq_comm (a := ws)]

/-- The rows, in walking order, that arise from a template without ignored words when optional
categories are left out. -/
def Catalog.StandsFor (catalog : Catalog) (vocabulary : Vocabulary) (direction : Direction)
    (ignored : WordSet) (row : List Slot) : Prop :=
  ∃ t ∈ catalog.templates, (∀ w, .word w ∈ t.slots → w ∉ ignored) ∧
    ∃ kept, Thins (fun c => [] ∈ vocabulary.entries c) t.slots kept ∧ kept ≠ [] ∧
      row = direction.orient kept

theorem Template.mentionsAny_eq_false_iff {t : Template} {ignored : WordSet} :
    t.mentionsAny ignored = false ↔ ∀ w, .word w ∈ t.slots → w ∉ ignored := by
  simp only [mentionsAny, words, List.any_eq_false, List.mem_filterMap, decide_eq_true_eq]
  constructor
  · exact fun h w hw => h w ⟨_, hw, rfl⟩
  · rintro h w ⟨s, hs, hw⟩
    cases s with
    | category c => cases hw
    | word v =>
      cases hw
      exact h w hs

/-- Whether a template is left out depends on the ignored words among its own. -/
theorem Template.mentionsAny_congr {t t' : Template} {ignored ignored' : WordSet}
    (h : ∀ w, .word w ∈ t.slots ∧ w ∈ ignored ↔ .word w ∈ t'.slots ∧ w ∈ ignored') :
    t.mentionsAny ignored = t'.mentionsAny ignored' := by
  have hfalse : t.mentionsAny ignored = false ↔ t'.mentionsAny ignored' = false := by
    simp only [mentionsAny_eq_false_iff, ← not_and, h]
  rw [Bool.eq_iff_iff, ← Bool.not_eq_false, ← Bool.not_eq_false, hfalse]

theorem Catalog.mem_rows_iff {catalog : Catalog} {vocabulary : Vocabulary} {direction : Direction}
    {ignored : WordSet} {row : List Slot} :
    row ∈ catalog.rows vocabulary direction ignored ↔
      catalog.StandsFor vocabulary direction ignored row := by
  have hoptional : (fun c => vocabulary.isOptional c = true) = fun c => [] ∈ vocabulary.entries c :=
    funext fun c => propext Vocabulary.isOptional_iff
  simp only [rows, List.mem_flatMap, List.mem_filter, List.mem_map, Bool.not_eq_eq_eq_not,
    Bool.not_true, Template.mentionsAny_eq_false_iff, Template.expansions, Template.mem_variants_iff,
    List.isEmpty_eq_false_iff, hoptional, StandsFor, and_assoc, eq_comm (a := row)]

theorem Catalog.StandsFor.ne_nil {catalog : Catalog} {vocabulary : Vocabulary}
    {direction : Direction} {ignored : WordSet} {row : List Slot}
    (h : catalog.StandsFor vocabulary direction ignored row) : row ≠ [] := by
  obtain ⟨t, -, -, kept, -, hne, rfl⟩ := h
  exact fun hnil => hne (Direction.orient_eq_nil_iff.mp hnil)

theorem Catalog.nil_not_mem_rows (catalog : Catalog) (vocabulary : Vocabulary)
    (direction : Direction) (ignored : WordSet) : [] ∉ catalog.rows vocabulary direction ignored := by
  intro hnil
  exact (mem_rows_iff.mp hnil).ne_nil rfl

/-- A template without ignored words asks for the category. -/
def Catalog.AsksFor (catalog : Catalog) (ignored : WordSet) (c : Category) : Prop :=
  ∃ t ∈ catalog.templates, (∀ w, .word w ∈ t.slots → w ∉ ignored) ∧ .category c ∈ t.slots

/-- Leaving categories out asks for no other ones, and leaving out none is one way to do it. -/
theorem Catalog.exists_row_iff_asksFor {catalog : Catalog} {vocabulary : Vocabulary}
    {direction : Direction} {ignored : WordSet} {c : Category} :
    (∃ row ∈ catalog.rows vocabulary direction ignored, .category c ∈ row) ↔
      catalog.AsksFor ignored c := by
  simp only [mem_rows_iff]
  constructor
  · rintro ⟨_, ⟨t, ht, hspared, kept, hthins, -, rfl⟩, hc⟩
    exact ⟨t, ht, hspared, hthins.subset (Direction.mem_orient.mp hc)⟩
  · rintro ⟨t, ht, hspared, hc⟩
    refine ⟨_, ⟨t, ht, hspared, _, .refl _ _, List.ne_nil_of_mem hc, rfl⟩, ?_⟩
    exact Direction.mem_orient.mpr hc

/-- The words fill the slots one after another: a word its own slot, and an offered entry, which must
not be empty, a category. -/
inductive Fills (offers : Category → List String → Prop) : List Slot → List String → Prop
  | nil : Fills offers [] []
  | word {w row ws} : Fills offers row ws → Fills offers (.word w :: row) (w :: ws)
  | category {c e row ws} : offers c e → e ≠ [] → Fills offers row ws →
      Fills offers (.category c :: row) (e ++ ws)

namespace Fills

variable {offers : Category → List String → Prop} {p q : List Slot} {us vs ws : List String}

theorem nil_iff : Fills offers [] ws ↔ ws = [] := by
  constructor
  · intro h
    cases h
    rfl
  · rintro rfl
    exact .nil

theorem ne_nil (h : Fills offers p ws) (hp : p ≠ []) : ws ≠ [] := by
  cases h with
  | nil => exact absurd rfl hp
  | word h => exact List.cons_ne_nil _ _
  | category _ he _ => exact List.append_ne_nil_of_left_ne_nil he _

/-- Only entries with words are used to fill slots. -/
theorem mono {offers' : Category → List String → Prop} (h : Fills offers p ws)
    (hoffers : ∀ c e, e ≠ [] → offers c e → offers' c e) : Fills offers' p ws := by
  induction h with
  | nil => exact .nil
  | word _ ih => exact .word ih
  | category hc he _ ih => exact .category (hoffers _ _ he hc) he ih

theorem append (hp : Fills offers p us) (hq : Fills offers q vs) : Fills offers (p ++ q) (us ++ vs) := by
  induction hp with
  | nil => exact hq
  | word _ ih => exact .word ih
  | category hc he _ ih =>
    rw [List.append_assoc]
    exact .category hc he ih

theorem exists_of_append (h : Fills offers (p ++ q) ws) :
    ∃ us vs, ws = us ++ vs ∧ Fills offers p us ∧ Fills offers q vs := by
  induction p generalizing ws with
  | nil => exact ⟨[], ws, rfl, .nil, h⟩
  | cons x p ih =>
    cases h with
    | word h =>
      obtain ⟨us, vs, rfl, hp, hq⟩ := ih h
      exact ⟨_ :: us, vs, rfl, .word hp, hq⟩
    | @category c e _ _ hc he h =>
      obtain ⟨us, vs, rfl, hp, hq⟩ := ih h
      exact ⟨e ++ us, vs, (List.append_assoc ..).symm, .category hc he hp, hq⟩

theorem concat_word_iff {w : String} :
    Fills offers (p ++ [.word w]) ws ↔ ∃ us, ws = us ++ [w] ∧ Fills offers p us := by
  constructor
  · intro h
    obtain ⟨us, vs, rfl, hp, hq⟩ := h.exists_of_append
    cases hq with
    | word hq =>
      obtain rfl := nil_iff.mp hq
      exact ⟨us, rfl, hp⟩
  · rintro ⟨us, rfl, hp⟩
    exact hp.append (.word .nil)

theorem concat_category_iff {c : Category} :
    Fills offers (p ++ [.category c]) ws ↔
      ∃ us e, ws = us ++ e ∧ Fills offers p us ∧ offers c e ∧ e ≠ [] := by
  constructor
  · intro h
    obtain ⟨us, vs, rfl, hp, hq⟩ := h.exists_of_append
    cases hq with
    | @category _ e _ _ hc he hq =>
      obtain rfl := nil_iff.mp hq
      rw [List.append_nil]
      exact ⟨us, e, rfl, hp, hc, he⟩
  · rintro ⟨us, e, rfl, hp, hc, he⟩
    have hone : Fills offers [.category c] (e ++ []) := .category hc he .nil
    rw [List.append_nil] at hone
    exact hp.append hone

end Fills

/-- Words that a match may consist of: they fill a row or, when they are the whole phrase, a beginning of
a row that ends with a category. -/
def IsMatch (rows : List Slot → Prop) (offers : Category → List String → Prop) (whole : Prop)
    (ws : List String) : Prop :=
  (∃ row, rows row ∧ Fills offers row ws) ∨
    (whole ∧ ∃ p c rest, rows (p ++ .category c :: rest) ∧ Fills offers (p ++ [.category c]) ws)

/-- More rows and more entries keep the matches that there are. -/
theorem IsMatch.mono {rows rows' : List Slot → Prop} {offers offers' : Category → List String → Prop}
    {whole : Prop} {ws : List String} (h : IsMatch rows offers whole ws)
    (hrows : ∀ row, rows row → rows' row) (hoffers : ∀ c e, e ≠ [] → offers c e → offers' c e) :
    IsMatch rows' offers' whole ws := by
  rcases h with ⟨row, hrow, hfill⟩ | ⟨hwhole, p, c, rest, hrow, hfill⟩
  · exact .inl ⟨row, hrows _ hrow, hfill.mono hoffers⟩
  · exact .inr ⟨hwhole, p, c, rest, hrows _ hrow, hfill.mono hoffers⟩

theorem IsMatch.congr {rows rows' : List Slot → Prop} {offers offers' : Category → List String → Prop}
    {whole : Prop} {ws : List String} (hrows : ∀ row, rows row ↔ rows' row)
    (hoffers : ∀ c e, e ≠ [] → (offers c e ↔ offers' c e)) :
    IsMatch rows offers whole ws ↔ IsMatch rows' offers' whole ws := by
  constructor
  · exact fun h => h.mono (fun row => (hrows row).mp) fun c e he => (hoffers c e he).mp
  · exact fun h => h.mono (fun row => (hrows row).mpr) fun c e he => (hoffers c e he).mpr

end Headword
