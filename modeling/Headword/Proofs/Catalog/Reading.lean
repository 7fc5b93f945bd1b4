import Headword.Catalog
import Headword.Proofs.Template.Reading

/-!
# What catalogs are read from

A catalog is read text by text.  The first text that is no template decides the fault, as the first word
that is no slot has decided it within the text, and the place names the catalog and that text.
-/

namespace Headword.Catalog

variable {name : String} {texts : List String} {fault : Fault}

/-- Reads one text of a catalog, given with its position. -/
def parseNumbered (name : String) (numbered : String × Nat) : Except Fault Template :=
  (Template.parse numbered.1).mapError (·.locate ⟨some name, some numbered.2⟩)

theorem fails_parseNumbered_iff {numbered : String × Nat} :
    Fails (parseNumbered name) numbered ↔ Fails Template.parse numbered.1 := by
  rw [← not_iff_not, not_fails_iff, not_fails_iff]
  simp only [parseNumbered, mapError_eq_ok_iff]

theorem mapM_parseNumbered_eq_ok_iff {templates : List Template} :
    texts.zipIdx.mapM (parseNumbered name) = .ok templates ↔
      List.Forall₂ (fun text t => Template.parse text = .ok t) texts templates := by
  have htexts := List.forall₂_map_left_iff (R := fun text t => Template.parse text = .ok t)
    (f := Prod.fst) (l := texts.zipIdx) (u := templates)
  rw [List.zipIdx_map_fst] at htexts
  simp only [htexts, mapM_eq_ok_iff, parseNumbered, mapError_eq_ok_iff]

theorem mapM_parseNumbered_eq_error_iff :
    texts.zipIdx.mapM (parseNumbered name) = .error fault ↔
      ∃ n text f, IsFirst (Fails Template.parse) texts n text ∧
        Template.parse text = .error f ∧ fault = f.locate ⟨some name, some n⟩ := by
  have hfirst : ∀ n i text, IsFirst (Fails (parseNumbered name)) texts.zipIdx n (text, i) ↔
      IsFirst (Fails Template.parse) texts n text ∧ i = n := by
    intro n i text
    rw [isFirst_congr (Q := fun p => Fails Template.parse p.1) fun p _ => fails_parseNumbered_iff,
      isFirst_zipIdx_iff]
  rw [mapM_eq_error_iff]
  constructor
  · rintro ⟨n, ⟨text, i⟩, hmem, hfault⟩
    obtain ⟨htext, rfl⟩ := (hfirst n i text).mp hmem
    obtain ⟨f, hf, hlocated⟩ := mapError_eq_error_iff.mp hfault
    exact ⟨i, text, f, htext, hf, hlocated.symm⟩
  · rintro ⟨n, text, f, htext, hf, hlocated⟩
    refine ⟨n, (text, n), (hfirst n n text).mpr ⟨htext, rfl⟩, ?_⟩
    exact mapError_eq_error_iff.mpr ⟨f, hf, hlocated.symm⟩

theorem parse_eq_map (name : String) (texts : List String) : parse name texts =
    (texts.zipIdx.mapM (parseNumbered name)).map fun templates => ⟨some name, templates⟩ := by
  show (texts.zipIdx.mapM (parseNumbered name) >>= fun templates =>
    Except.ok (⟨some name, templates⟩ : Catalog)) = _
  cases texts.zipIdx.mapM (parseNumbered name) with
  | error f => rfl
  | ok templates => rfl

theorem parse_eq_ok_iff {c : Catalog} : parse name texts = .ok c ↔
    c.name = some name ∧ List.Forall₂ (fun text t => Template.parse text = .ok t) texts c.templates := by
  rw [parse_eq_map, map_eq_ok_iff]
  simp only [mapM_parseNumbered_eq_ok_iff]
  constructor
  · rintro ⟨templates, hread, rfl⟩
    exact ⟨rfl, hread⟩
  · rintro ⟨hname, hread⟩
    exact ⟨c.templates, hread, by rw [← hname]⟩

theorem parse_eq_error_iff : parse name texts = .error fault ↔
    ∃ n text f, IsFirst (Fails Template.parse) texts n text ∧
      Template.parse text = .error f ∧ fault = f.locate ⟨some name, some n⟩ := by
  rw [parse_eq_map, map_eq_error_iff, mapM_parseNumbered_eq_error_iff]

theorem exists_parse_eq_ok_iff :
    (∃ c, parse name texts = .ok c) ↔ ∀ text ∈ texts, ∃ t, Template.parse text = .ok t := by
  have htemplates : (∃ c, parse name texts = .ok c) ↔
      ∃ templates, List.Forall₂ (fun text t => Template.parse text = .ok t) texts templates := by
    simp only [parse_eq_ok_iff]
    exact ⟨fun ⟨c, _, h⟩ => ⟨c.templates, h⟩, fun ⟨templates, h⟩ => ⟨⟨some name, templates⟩, rfl, h⟩⟩
  rw [htemplates, exists_forall₂_iff]

/-- A template is read from exactly the texts whose words are all slots, and a catalog from exactly the
texts that are all templates.  The fault of a template is that of its first word that is no slot; the
fault of a catalog is that of its first text that is no template, with the place of that text. -/
theorem reading_reports_first_fault (text name : String) (texts : List String) :
    ((∃ t, Template.parse text = .ok t) ↔ ∀ w ∈ Text.words text, Slot.Readable w) ∧
    (∀ t, Template.parse text = .ok t ↔ List.Forall₂ Slot.ReadsAs (Text.words text) t.slots) ∧
    (∀ fault, Template.parse text = .error fault ↔
      ∃ n w, IsFirst (fun w => ¬Slot.Readable w) (Text.words text) n w ∧ Slot.Faults text w fault) ∧
    ((∃ c, parse name texts = .ok c) ↔ ∀ text ∈ texts, ∃ t, Template.parse text = .ok t) ∧
    (∀ c, parse name texts = .ok c ↔ c.name = some name ∧
      List.Forall₂ (fun text t => Template.parse text = .ok t) texts c.templates) ∧
    ∀ fault, parse name texts = .error fault ↔
      ∃ n text f, IsFirst (Fails Template.parse) texts n text ∧
        Template.parse text = .error f ∧ fault = f.locate ⟨some name, some n⟩ :=
  ⟨Template.exists_parse_eq_ok_iff, fun _ => Template.parse_eq_ok_iff,
    fun _ => Template.parse_eq_error_iff, exists_parse_eq_ok_iff, fun _ => parse_eq_ok_iff,
    fun _ => parse_eq_error_iff⟩

/-- The second text is no template, and its stray brace comes before the unknown category. -/
example : parse "questions" ["to \x7bverb\x7d", "who\x7d is \x7bnoun\x7d"] =
    .error ⟨.malformedTemplate "who\x7d is \x7bnoun\x7d" (.strayBrace "who\x7d"),
      some ⟨some "questions", some 1⟩⟩ := by
  decide +kernel

end Headword.Catalog
