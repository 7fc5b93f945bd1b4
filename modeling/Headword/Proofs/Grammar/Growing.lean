import Headword.Proofs.Grammar.Compiling
import Headword.Proofs.Grammar.Knows

/-!
# Growing vocabularies

With more entries and fewer ignored words a catalog stands for more rows, which more words fill.  So no
match of a grammar becomes shorter when its vocabulary grows.
-/

namespace Headword

/-- Every entry of the first lists is among those of the second ones. -/
def Vocabulary.Within (vocabulary vocabulary' : Vocabulary) : Prop :=
  ∀ c, ∀ entry ∈ vocabulary.entries c, entry ∈ vocabulary'.entries c

/-- Whatever the words, the second grammar finds a match at least as long as the one that the first
grammar finds. -/
def Grammar.NoLongerThan (g g' : Grammar) : Prop :=
  ∀ ws : List String,
    g.longestMatch? (ws.map g.lexicon.id?) ≤ g'.longestMatch? (ws.map g'.lexicon.id?)

variable {catalog : Catalog} {vocabulary vocabulary' : Vocabulary} {direction : Direction}
  {ignored ignored' : WordSet}

namespace Vocabulary

theorem entries_extend (vocabulary : Vocabulary) (c d : Category) (texts : List String) :
    (vocabulary.extend c texts).entries d =
      if d = c then vocabulary.entries c ++ texts.map Entry.ofText else vocabulary.entries d := by
  split
  next hd =>
    rw [hd, entries, entries?_extend_self]
    rfl
  next hd => rw [entries, entries?_extend_of_ne _ hd, entries]

theorem within_extend (vocabulary : Vocabulary) (c : Category) (texts : List String) :
    vocabulary.Within (vocabulary.extend c texts) := by
  intro d entry hentry
  rw [entries_extend]
  split
  next hd => exact List.mem_append_left _ (hd ▸ hentry)
  next => exact hentry

/-- The empty text is the empty entry. -/
theorem isOptional_extend (vocabulary : Vocabulary) (c : Category) {texts : List String}
    (h : "" ∈ texts) : (vocabulary.extend c texts).isOptional c = true := by
  rw [isOptional_iff, entries_extend, if_pos rfl]
  exact List.mem_append_right _ (List.mem_map.mpr ⟨"", h, rfl⟩)

theorem Supplies.extend (h : vocabulary.Supplies catalog) (c : Category) (texts : List String) :
    (vocabulary.extend c texts).Supplies catalog := by
  intro t ht d hd
  by_cases hdc : d = c
  · rw [hdc, declares, entries?_extend_self]
    rfl
  · rw [declares, entries?_extend_of_ne _ hdc]
    exact h t ht d hd

theorem Within.offers (hv : vocabulary.Within vocabulary') (hi : ∀ w ∈ ignored', w ∈ ignored)
    {c : Category} {ws : List String} (h : vocabulary.Offers direction ignored c ws) :
    vocabulary'.Offers direction ignored' c ws := by
  obtain ⟨entry, hentry, havoids, hws⟩ := h
  exact ⟨entry, hv c entry hentry, fun w hw => mt (hi w) (havoids w hw), hws⟩

theorem Within.standsFor (hv : vocabulary.Within vocabulary') (hi : ∀ w ∈ ignored', w ∈ ignored)
    {row : List Slot} (h : catalog.StandsFor vocabulary direction ignored row) :
    catalog.StandsFor vocabulary' direction ignored' row := by
  obtain ⟨t, ht, hspared, kept, hthins, hne, hrow⟩ := h
  exact ⟨t, ht, fun w hw => mt (hi w) (hspared w hw), kept, hthins.mono fun c => hv c [], hne, hrow⟩

end Vocabulary

namespace Grammar

variable {g g' : Grammar}

theorem noLongerThan_of_within (hv : vocabulary.Within vocabulary')
    (hi : ∀ w ∈ ignored', w ∈ ignored) (h : compile catalog vocabulary direction ignored = .ok g)
    (h' : compile catalog vocabulary' direction ignored' = .ok g') : g.NoLongerThan g' := by
  intro ws
  -- what matched still matches, so the longest match can only be longer
  apply (isLongest_longestMatch?_map_id? h ws).le (isLongest_longestMatch?_map_id? h' ws)
  rintro n ⟨hpos, hle, hmatch⟩
  exact ⟨hpos, hle, hmatch.mono (fun _ => hv.standsFor hi) fun _ _ _ => hv.offers hi⟩

/-- More entries and fewer ignored words never shorten a match, where no match counts as the smallest.
Adding entries, the empty one included, compiles again and shortens no match; ignoring one word more
compiles again and lengthens none. -/
theorem noLongerThan_grown (h : compile catalog vocabulary direction ignored = .ok g) :
    (∀ vocabulary' ignored' g', vocabulary.Within vocabulary' → (∀ w ∈ ignored', w ∈ ignored) →
      compile catalog vocabulary' direction ignored' = .ok g' → g.NoLongerThan g') ∧
    (∀ c texts, ("" ∈ texts → (vocabulary.extend c texts).isOptional c = true) ∧
      ∃ g', compile catalog (vocabulary.extend c texts) direction ignored = .ok g' ∧
        g.NoLongerThan g') ∧
    ∀ w, ∃ g', compile catalog vocabulary direction (ignored.insert w) = .ok g' ∧
      g'.NoLongerThan g := by
  have hsupplies := (compile_eq_ok_iff.mp h).1
  refine ⟨fun _ _ _ hv hi h' => noLongerThan_of_within hv hi h h', ?_, ?_⟩
  · intro c texts
    refine ⟨vocabulary.isOptional_extend c, ?_⟩
    obtain ⟨g', h'⟩ := exists_compile_eq_ok_iff.mpr (hsupplies.extend c texts)
    exact ⟨g', h', noLongerThan_of_within (vocabulary.within_extend c texts) (fun _ => id) h h'⟩
  · intro w
    -- here the grammar at hand is the one with fewer ignored words
    obtain ⟨g', h'⟩ := exists_compile_eq_ok_iff.mpr hsupplies
    refine ⟨g', h', noLongerThan_of_within (fun _ _ => id) ?_ h' h⟩
    exact fun v hv => WordSet.mem_insert.mpr (.inr hv)

/-- `give up` is a longer entry than `give`, but `up` is ignored at first. -/
theorem noLongerThan_grown_give_up :
    ∃ g g', compile ⟨none, [⟨[.word "to", .category .verb]⟩]⟩
        (Vocabulary.empty.extend .verb ["give", "give up"]) .forward (.ofList ["up"]) = .ok g ∧
      compile ⟨none, [⟨[.word "to", .category .verb]⟩]⟩
        (Vocabulary.empty.extend .verb ["", "give up", "give"]) .forward .empty = .ok g' ∧
      g.longestMatch? (["to", "give", "up", "it"].map g.lexicon.id?) = some 2 ∧
      g'.longestMatch? (["to", "give", "up", "it"].map g'.lexicon.id?) = some 3 ∧
      g.NoLongerThan g' := by
  have h : ∃ g, compile ⟨none, [⟨[.word "to", .category .verb]⟩]⟩
      (Vocabulary.empty.extend .verb ["give", "give up"]) .forward (.ofList ["up"]) = .ok g ∧
      g.longestMatch? (["to", "give", "up", "it"].map g.lexicon.id?) = some 2 :=
    ⟨_, rfl, by decide +kernel⟩
  have h' : ∃ g', compile ⟨none, [⟨[.word "to", .category .verb]⟩]⟩
      (Vocabulary.empty.extend .verb ["", "give up", "give"]) .forward .empty = .ok g' ∧
      g'.longestMatch? (["to", "give", "up", "it"].map g'.lexicon.id?) = some 3 :=
    ⟨_, rfl, by decide +kernel⟩
  have hv : Vocabulary.Within (Vocabulary.empty.extend .verb ["give", "give up"])
      (Vocabulary.empty.extend .verb ["", "give up", "give"]) := by
    intro c
    cases c <;> decide +kernel
  obtain ⟨g, hg, hn⟩ := h
  obtain ⟨g', hg', hn'⟩ := h'
  refine ⟨g, g', hg, hg', hn, hn', (noLongerThan_grown hg).1 _ _ g' hv ?_ hg'⟩
  exact fun w hw => absurd hw (WordSet.not_mem_empty w)

end Grammar

end Headword
