import Headword.Proofs.Category.Marker
import Headword.Proofs.First
import Headword.Proofs.Text.Normal
import Headword.Template.Reading

/-!
# What templates are read from

Every word is without braces, or a name between braces, or spoilt by its braces
(`Slot.braceFree_or_inBraces_or_spoils`), and no two of these at once.  Reading goes word by word, so the
first word that is no slot decides the fault of a template (`Template.parse_eq_error_iff`).
-/

namespace Headword

/-- The word has a brace where no marker has one, and the defect says where. -/
inductive TemplateDefect.Spoils (w : String) : TemplateDefect → Prop
  | unterminated {rest : String} :
    w = "\x7b" ++ rest → (∀ name, rest ≠ name ++ "\x7d") → Spoils w (.unterminatedMarker w)
  | empty : w = "\x7b\x7d" → Spoils w .emptyMarker
  | nested {name : String} :
    w = "\x7b" ++ name ++ "\x7d" → ¬BraceFree name → Spoils w (.nestedBraces w)
  | stray : (∀ rest, w ≠ "\x7b" ++ rest) → ¬BraceFree w → Spoils w (.strayBrace w)

namespace Slot

/-- The slot that a word of a template is. -/
inductive ReadsAs (w : String) : Slot → Prop
  | word : BraceFree w → ReadsAs w (.word (Text.lowercase w))
  | category {name : String} {c : Category} :
    InBraces w name → c.IsCalled name → ReadsAs w (.category c)

/-- The word is a slot. -/
def Readable (w : String) : Prop :=
  BraceFree w ∨ ∃ name, InBraces w name ∧ Text.lowercase name ∈ Category.spellings

/-- The fault of a word that is no slot, in a template text. -/
inductive Faults (template w : String) : Fault → Prop
  | unknown {name : String} : InBraces w name → Text.lowercase name ∉ Category.spellings →
    Faults template w ⟨.unknownCategory name, none⟩
  | malformed {defect : TemplateDefect} : (∀ name, ¬InBraces w name) → defect.Spoils w →
    Faults template w ⟨.malformedTemplate template defect, none⟩

theorem exists_readsAs_iff {w : String} : (∃ s, ReadsAs w s) ↔ Readable w := by
  unfold Readable
  simp only [← Category.exists_isCalled_iff]
  constructor
  · rintro ⟨s, hfree | ⟨hname, hcalled⟩⟩
    · exact .inl hfree
    · exact .inr ⟨_, hname, _, hcalled⟩
  · rintro (hfree | ⟨name, hname, c, hcalled⟩)
    · exact ⟨_, .word hfree⟩
    · exact ⟨_, .category hname hcalled⟩

/-! ## The kinds of words -/

theorem toList_open (rest : String) : ("\x7b" ++ rest).toList = '\x7b' :: rest.toList := by
  rw [String.toList_append]
  rfl

theorem beforeBrace?_toList_eq_some_iff {rest : String} {name : List Char} :
    beforeBrace? rest.toList = some name ↔ rest = String.ofList name ++ "\x7d" := by
  rw [beforeBrace?_eq_some_iff, ← String.toList_inj, String.toList_append, String.toList_ofList]
  rfl

theorem braceFree_or_inBraces_or_spoils (w : String) :
    BraceFree w ∨ (∃ name, InBraces w name) ∨ ∃ defect : TemplateDefect, defect.Spoils w := by
  by_cases hfree : BraceFree w
  · exact .inl hfree
  · by_cases hopen : ∃ rest, w = "\x7b" ++ rest
    · obtain ⟨rest, hw⟩ := hopen
      by_cases hclosed : ∃ name, rest = name ++ "\x7d"
      · obtain ⟨name, rfl⟩ := hclosed
        rw [← String.append_assoc] at hw
        by_cases hempty : name = ""
        · rw [hempty] at hw
          exact .inr (.inr ⟨_, .empty hw⟩)
        · by_cases hname : BraceFree name
          · exact .inr (.inl ⟨name, hw, hempty, hname⟩)
          · exact .inr (.inr ⟨_, .nested hw hname⟩)
      · exact .inr (.inr ⟨_, .unterminated hw fun name h => hclosed ⟨name, h⟩⟩)
    · -- what opens no marker has no place for a brace
      exact .inr (.inr ⟨_, .stray (fun rest h => hopen ⟨rest, h⟩) hfree⟩)

/-! ## Reading one word -/

theorem parse_of_braceFree {w : String} (template : String) (h : BraceFree w) :
    parse template w = .ok (.word (Text.lowercase w)) := by
  unfold parse
  split
  next rest hw =>
    have hbrace := h '\x7b' (hw ▸ List.mem_cons_self ..)
    exact absurd hbrace (by decide)
  next =>
    rw [braceFree_iff_any.mp h]
    rfl

theorem parse_open (template rest : String) :
    parse template ("\x7b" ++ rest) = match beforeBrace? rest.toList with
      | none => .error ⟨.malformedTemplate template (.unterminatedMarker ("\x7b" ++ rest)), none⟩
      | some [] => .error ⟨.malformedTemplate template .emptyMarker, none⟩
      | some name =>
        if name.any isBrace then
          .error ⟨.malformedTemplate template (.nestedBraces ("\x7b" ++ rest)), none⟩
        else (Category.parse (String.ofList name)).map .category := by
  unfold parse
  rw [toList_open]
  rfl

theorem parse_closed (template name : String) (hname : name ≠ "") :
    parse template ("\x7b" ++ name ++ "\x7d") =
      if name.toList.any isBrace then
        .error ⟨.malformedTemplate template (.nestedBraces ("\x7b" ++ name ++ "\x7d")), none⟩
      else (Category.parse name).map .category := by
  have hbefore : beforeBrace? (name ++ "\x7d").toList = some name.toList := by
    rw [beforeBrace?_toList_eq_some_iff, String.ofList_toList]
  rw [String.append_assoc, parse_open, hbefore]
  split
  next h => cases h
  next h =>
    have hnil : name.toList = "".toList := Option.some.inj h
    exact absurd (String.toList_inj.mp hnil) hname
  next h =>
    rw [← Option.some.inj h, String.ofList_toList]

theorem parse_of_inBraces {w name : String} (template : String) (h : InBraces w name) :
    parse template w = (Category.parse name).map .category := by
  rw [h.eq, parse_closed template name h.ne_empty, braceFree_iff_any.mp h.braceFree]
  rfl

theorem parse_of_spoils {w : String} {defect : TemplateDefect} (template : String)
    (h : defect.Spoils w) : parse template w = .error ⟨.malformedTemplate template defect, none⟩ := by
  cases h with
  | @unterminated rest hw hopen =>
    have hbefore : beforeBrace? rest.toList = none := by
      rw [Option.eq_none_iff_forall_not_mem]
      intro name hname
      exact hopen _ (beforeBrace?_toList_eq_some_iff.mp hname)
    rw [hw, parse_open, hbefore]
  | empty hw =>
    rw [hw]
    rfl
  | @nested name hw hbrace =>
    have hname : name ≠ "" := by
      rintro rfl
      exact hbrace fun c hc => absurd hc List.not_mem_nil
    rw [hw, parse_closed template name hname, if_pos]
    rwa [braceFree_iff_any, Bool.not_eq_false] at hbrace
  | stray hopen hbrace =>
    unfold parse
    split
    next rest hw =>
      have heq : w = "\x7b" ++ String.ofList rest := by
        rw [← String.toList_inj, toList_open, String.toList_ofList, hw]
      exact absurd heq (hopen _)
    next =>
      rw [braceFree_iff_any, Bool.not_eq_false] at hbrace
      rw [hbrace]
      rfl

section

variable {w : String} (template : String) (hw : Text.IsWord w.toList)

include hw

theorem isBlank_of_inBraces {name : String} (h : InBraces w name) :
    ∀ c ∈ name.toList, Text.isBlank c = false := by
  intro c hc
  apply hw.2
  rw [h.eq, String.toList_append, String.toList_append]
  exact List.mem_append_left _ (List.mem_append_right _ hc)

theorem parse_eq_ok_iff {s : Slot} : parse template w = .ok s ↔ ReadsAs w s := by
  constructor
  · intro h
    rcases braceFree_or_inBraces_or_spoils w with hfree | ⟨name, hname⟩ | ⟨defect, hspoils⟩
    · rw [parse_of_braceFree template hfree] at h
      cases h
      exact .word hfree
    · rw [parse_of_inBraces template hname, map_eq_ok_iff] at h
      obtain ⟨c, hc, rfl⟩ := h
      rw [Category.parse_eq_ok_iff (isBlank_of_inBraces hw hname) hname.braceFree] at hc
      exact .category hname hc
    · rw [parse_of_spoils template hspoils] at h
      cases h
  · intro h
    cases h with
    | word hfree => exact parse_of_braceFree template hfree
    | category hname hcalled =>
      rw [← Category.parse_eq_ok_iff (isBlank_of_inBraces hw hname) hname.braceFree] at hcalled
      rw [parse_of_inBraces template hname, hcalled]
      rfl

theorem parse_of_inBraces_eq_error_iff {name : String} (hname : InBraces w name) {fault : Fault} :
    parse template w = .error fault ↔
      Text.lowercase name ∉ Category.spellings ∧ fault = ⟨.unknownCategory name, none⟩ := by
  rw [parse_of_inBraces template hname, map_eq_error_iff,
    Category.parse_eq_error_iff (isBlank_of_inBraces hw hname) hname.braceFree]

theorem parse_eq_error_iff {fault : Fault} :
    parse template w = .error fault ↔ Faults template w fault := by
  constructor
  · intro h
    rcases braceFree_or_inBraces_or_spoils w with hfree | ⟨name, hname⟩ | ⟨defect, hspoils⟩
    · rw [parse_of_braceFree template hfree] at h
      cases h
    · obtain ⟨hunknown, rfl⟩ := (parse_of_inBraces_eq_error_iff template hw hname).mp h
      exact .unknown hname hunknown
    · have hspoilt := parse_of_spoils template hspoils
      rw [hspoilt] at h
      cases h
      refine .malformed (fun name hname => ?_) hspoils
      -- a name between braces is looked up, and no look-up reports a template
      cases ((parse_of_inBraces_eq_error_iff template hw hname).mp hspoilt).2
  · intro h
    cases h with
    | unknown hname hunknown =>
      exact (parse_of_inBraces_eq_error_iff template hw hname).mpr ⟨hunknown, rfl⟩
    | malformed _ hspoils => exact parse_of_spoils template hspoils

theorem fails_parse_iff : Fails (parse template) w ↔ ¬Readable w := by
  rw [← exists_readsAs_iff, ← not_iff_not, not_fails_iff, not_not]
  simp only [parse_eq_ok_iff template hw]

end

end Slot

namespace Template

theorem parse_eq_map (text : String) :
    parse text = ((Text.words text).mapM (Slot.parse text)).map Template.mk := by
  rw [parse]
  cases (Text.words text).mapM (Slot.parse text) with
  | error fault => rfl
  | ok slots => rfl

theorem parse_eq_ok_iff {text : String} {t : Template} :
    parse text = .ok t ↔ List.Forall₂ Slot.ReadsAs (Text.words text) t.slots := by
  have hslots : ∀ slots, (Text.words text).mapM (Slot.parse text) = .ok slots ↔
      List.Forall₂ Slot.ReadsAs (Text.words text) slots := by
    intro slots
    rw [mapM_eq_ok_iff]
    apply forall₂_congr_of_mem
    intro w hw s
    exact Slot.parse_eq_ok_iff text (Text.isWord_of_mem_words hw)
  rw [parse_eq_map, map_eq_ok_iff]
  constructor
  · rintro ⟨slots, hread, rfl⟩
    exact (hslots slots).mp hread
  · exact fun h => ⟨t.slots, (hslots t.slots).mpr h, rfl⟩

theorem parse_eq_error_iff {text : String} {fault : Fault} :
    parse text = .error fault ↔
      ∃ n w, IsFirst (fun w => ¬Slot.Readable w) (Text.words text) n w ∧ Slot.Faults text w fault := by
  have hfirst : ∀ n w, IsFirst (Fails (Slot.parse text)) (Text.words text) n w ↔
      IsFirst (fun w => ¬Slot.Readable w) (Text.words text) n w := by
    -- only of words is it known when reading fails
    intro n w
    apply isFirst_congr
    intro v hv
    exact Slot.fails_parse_iff text (Text.isWord_of_mem_words hv)
  rw [parse_eq_map, map_eq_error_iff, mapM_eq_error_iff]
  simp only [hfirst]
  constructor
  · rintro ⟨n, w, hw, hfault⟩
    rw [Slot.parse_eq_error_iff text (Text.isWord_of_mem_words hw.mem)] at hfault
    exact ⟨n, w, hw, hfault⟩
  · rintro ⟨n, w, hw, hfault⟩
    rw [← Slot.parse_eq_error_iff text (Text.isWord_of_mem_words hw.mem)] at hfault
    exact ⟨n, w, hw, hfault⟩

theorem exists_parse_eq_ok_iff {text : String} :
    (∃ t, parse text = .ok t) ↔ ∀ w ∈ Text.words text, Slot.Readable w := by
  have hslots : (∃ t, parse text = .ok t) ↔ ∃ slots, List.Forall₂ Slot.ReadsAs (Text.words text) slots := by
    simp only [parse_eq_ok_iff]
    exact ⟨fun ⟨t, h⟩ => ⟨t.slots, h⟩, fun ⟨slots, h⟩ => ⟨⟨slots⟩, h⟩⟩
  rw [hslots, exists_forall₂_iff]
  simp only [Slot.exists_readsAs_iff]

theorem isNormal_and_braceFree_of_parse {text w : String} {t : Template} (h : parse text = .ok t)
    (hw : .word w ∈ t.slots) : Text.IsNormal w ∧ BraceFree w := by
  obtain ⟨v, hv, hreads⟩ := exists_of_mem_forall₂ (parse_eq_ok_iff.mp h) hw
  cases hreads with
  | word hfree => exact ⟨Text.isNormal_lowercase (Text.isWord_of_mem_words hv), hfree.lowercase⟩

theorem isNormal_of_parse {text w : String} {t : Template} (h : parse text = .ok t)
    (hw : .word w ∈ t.slots) : Text.IsNormal w :=
  (isNormal_and_braceFree_of_parse h hw).1

end Template

end Headword
