import Mathlib.Data.List.Forall2
import Mathlib.Data.List.Nodup
import Mathlib.Logic.Function.Basic
import Headword.Config.Encoding

/-!
# Configurations read back from documents

Reading undoes writing.  A text or a list of entries has exactly one document.  A name, a record and a set
have more of them: a name may be the field of a record, a record may have further fields, leave some out
or give its values alone, and a set may be listed in any order; `Config.Written` tells which ones.
-/

namespace Headword

open Function

/-! ## Parts with one document -/

/-- A list is read member by member. -/
theorem mapM_eq_some_iff {α β : Type} {read : β → Option α} {Written : α → β → Prop}
    (h : ∀ a b, read b = some a ↔ Written a b) {as : List α} {bs : List β} :
    bs.mapM read = some as ↔ List.Forall₂ Written as bs := by
  induction bs generalizing as with
  | nil => simp [eq_comm]
  | cons b bs ih =>
    simp only [List.mapM_cons, Option.bind_eq_bind, Option.bind_eq_some_iff, Option.pure_def,
      Option.some.injEq, h, ih, List.forall₂_cons_right_iff]
    grind

theorem isPartialInv_bind {α β γ : Type} {f : α → β} {g : β → Option α} {f' : β → γ}
    {g' : γ → Option β} (h : IsPartialInv f g) (h' : IsPartialInv f' g') :
    IsPartialInv (f' ∘ f) fun d => (g' d).bind g := by
  intro a d
  simp only [Option.bind_eq_some_iff, h' _ d, h a, exists_eq_right', comp_apply]

theorem isPartialInv_mapM {α β : Type} {f : α → β} {g : β → Option α} (h : IsPartialInv f g) :
    IsPartialInv (List.map f) (List.mapM g) := by
  intro as bs
  rw [mapM_eq_some_iff h, ← List.forall₂_map_left_iff (R := Eq), List.forall₂_eq_eq_eq]

namespace Document

theorem isPartialInv_text : IsPartialInv text text? := by
  intro s d
  cases d <;> simp [text?, eq_comm]

theorem isPartialInv_list : IsPartialInv list items? := by
  intro items d
  cases d <;> simp [items?, eq_comm]

theorem isPartialInv_record : IsPartialInv record fields? := by
  intro fields d
  cases d <;> simp [fields?, eq_comm]

theorem isPartialInv_ofTexts : IsPartialInv ofTexts texts? :=
  isPartialInv_bind (isPartialInv_mapM isPartialInv_text) isPartialInv_list

end Document

theorem Category.isPartialInv_name : IsPartialInv name ofFullName? := by
  intro c name
  constructor
  · intro h
    simpa using List.find?_some h
  · rintro rfl
    exact ofFullName?_name c

theorem Direction.isPartialInv_name : IsPartialInv name ofName? := by
  intro d name
  constructor
  · intro h
    simpa using List.find?_some h
  · rintro rfl
    cases d <;> decide

/-- The document of all entries of a category. -/
def Vocabulary.encodeEntries (entries : List Entry) : Document :=
  .list (entries.map Document.ofTexts)

def Vocabulary.decodeEntries (d : Document) : Option (List Entry) :=
  d.items?.bind (List.mapM Document.texts?)

theorem Vocabulary.isPartialInv_encodeEntries : IsPartialInv encodeEntries decodeEntries :=
  isPartialInv_bind (isPartialInv_mapM Document.isPartialInv_ofTexts) Document.isPartialInv_list

/-! ## Parts with several documents -/

namespace Document

variable {d : Document} {name : String} {names : List String} {fields : List (String × Document)}

/-- The document is a name, alone or as the only field of a record. -/
def Names (d : Document) (name : String) : Prop :=
  d = .text name ∨ d = .record [(name, .null)]

theorem alternative?_eq_some_iff : d.alternative? = some name ↔ d.Names name := by
  unfold alternative?
  split <;> simp_all [Names]

/-- Alternatives that have names of their own are read by name. -/
theorem bind_alternative?_eq_some_iff {α : Type} {f : α → String} {g : String → Option α}
    (h : IsPartialInv f g) {a : α} : d.alternative?.bind g = some a ↔ d.Names (f a) := by
  simp only [Option.bind_eq_some_iff, alternative?_eq_some_iff, h a _, exists_eq_right']

/-- The document is a record with these fields, each of the known names among them once at most, or it
lists the values that belong to the first known names. -/
inductive HasFields (names : List String) : Document → List (String × Document) → Prop
  | record {fields : List (String × Document)} :
    (∀ name ∈ names, (fields.map Prod.fst).count name ≤ 1) → HasFields names (.record fields) fields
  | list {items : List Document} :
    items.length ≤ names.length → HasFields names (.list items) (names.zip items)

theorem fieldsOf?_eq_some_iff : d.fieldsOf? names = some fields ↔ HasFields names d fields := by
  constructor
  · intro h
    cases d with
    | record fields' =>
      obtain ⟨hnames, hfields⟩ := Option.ite_none_right_eq_some.mp h
      cases hfields
      exact .record hnames
    | list items =>
      obtain ⟨hlength, hfields⟩ := Option.ite_none_right_eq_some.mp h
      cases hfields
      exact .list hlength
    | null | bool | number | text => cases h
  · rintro (hnames | hlength)
    · exact if_pos hnames
    · exact if_pos hlength

/-- Fields of distinct names make a record. -/
theorem hasFields_record (hnames : (fields.map Prod.fst).Nodup) :
    HasFields names (.record fields) fields :=
  .record fun name _ => List.nodup_iff_count_le_one.mp hnames name

end Document

def Category.Written (c : Category) (d : Document) : Prop :=
  d.Names c.name

theorem Category.decode_eq_some_iff {c : Category} {d : Document} : decode d = some c ↔ c.Written d :=
  Document.bind_alternative?_eq_some_iff isPartialInv_name

def Direction.Written (direction : Direction) (d : Document) : Prop :=
  d.Names direction.name

theorem Direction.decode_eq_some_iff {direction : Direction} {d : Document} :
    decode d = some direction ↔ direction.Written d :=
  Document.bind_alternative?_eq_some_iff isPartialInv_name

namespace Slot

def Written : Slot → Document → Prop
  | word w, d => d = .record [("literal", .text w)]
  | category c, d => ∃ value, c.Written value ∧ d = .record [("category", value)]

theorem decode_eq_some_iff {s : Slot} {d : Document} : decode d = some s ↔ s.Written d := by
  constructor
  · intro h
    unfold decode at h
    split at h
    next key value =>
      split at h
      next hkey =>
        obtain ⟨w, hw, rfl⟩ := Option.map_eq_some_iff.mp h
        rw [hkey, ← (Document.isPartialInv_text w value).mp hw, Written]
      next =>
        split at h
        next hkey =>
          obtain ⟨c, hc, rfl⟩ := Option.map_eq_some_iff.mp h
          exact ⟨value, Category.decode_eq_some_iff.mp hc, by rw [hkey]⟩
        next => cases h
    next => cases h
  · intro h
    cases s with
    | word w =>
      cases h
      exact decode_encode (.word w)
    | category c =>
      obtain ⟨value, hvalue, rfl⟩ := h
      show (Category.decode value).map category = some (category c)
      rw [Category.decode_eq_some_iff.mpr hvalue, Option.map_some]

theorem written_encode (s : Slot) : s.Written s.encode :=
  decode_eq_some_iff.mp (decode_encode s)

end Slot

namespace Template

def Written (t : Template) (d : Document) : Prop :=
  ∃ items, .list items = d ∧ List.Forall₂ Slot.Written t.slots items

theorem decode_eq_some_iff {t : Template} {d : Document} : decode d = some t ↔ t.Written d := by
  simp only [decode, Written, Option.bind_eq_bind, Option.bind_eq_some_iff, Option.pure_def,
    Option.some.injEq, Document.isPartialInv_list _ d,
    mapM_eq_some_iff fun _ _ => Slot.decode_eq_some_iff]
  apply exists_congr
  intro items
  apply and_congr_right'
  constructor
  · rintro ⟨slots, hslots, rfl⟩
    exact hslots
  · exact fun h => ⟨t.slots, h, rfl⟩

theorem written_encode (t : Template) : t.Written t.encode := by
  refine ⟨_, rfl, ?_⟩
  rw [List.forall₂_map_right_iff, List.forall₂_same]
  exact fun s _ => s.written_encode

end Template

/-- A field that may be missing stands for the default value when it is. -/
def WrittenOr {α : Type} (default : α) (written : α → Document → Prop) (a : α) :
    Option Document → Prop
  | none => a = default
  | some d => written a d

theorem Config.decodeOr_eq_some_iff {α : Type} {default : α} {decode : Document → Option α}
    {written : α → Document → Prop} (h : ∀ a d, decode d = some a ↔ written a d) (a : α)
    (field : Option Document) :
    decodeOr default decode field = some a ↔ WrittenOr default written a field := by
  cases field with
  | none => simp [decodeOr, WrittenOr, eq_comm]
  | some d => exact h a d

namespace Catalog

/-- A missing name may be written, as null. -/
def encodeName : Option String → Document
  | none => .null
  | some name => .text name

/-- The fields of a record that is read as a catalog. -/
structure WrittenIn (c : Catalog) (fields : List (String × Document)) : Prop where
  name : WrittenOr none (fun name d => encodeName name = d) c.name (fields.lookup "name")
  templates : ∃ items, fields.lookup "templates" = some (.list items) ∧
    List.Forall₂ Template.Written c.templates items

def Written (c : Catalog) (d : Document) : Prop :=
  ∃ fields, Document.HasFields fieldNames d fields ∧ c.WrittenIn fields

theorem decodeName_eq_some_iff {name : Option String} {field : Option Document} :
    decodeName field = some name ↔ WrittenOr none (fun name d => encodeName name = d) name field := by
  cases field with
  | none => simp [decodeName, WrittenOr, eq_comm]
  | some d =>
    cases name <;> cases d <;> simp [decodeName, WrittenOr, encodeName, Document.text?, eq_comm]

theorem decode_eq_some_iff {c : Catalog} {d : Document} : decode d = some c ↔ c.Written d := by
  simp only [decode, Written, Option.bind_eq_bind, Option.bind_eq_some_iff, Option.pure_def,
    Option.some.injEq, Document.fieldsOf?_eq_some_iff, decodeName_eq_some_iff,
    Document.isPartialInv_list _ _, mapM_eq_some_iff fun _ _ => Template.decode_eq_some_iff]
  apply exists_congr
  intro fields
  apply and_congr_right'
  constructor
  · rintro ⟨name, hname, _, htemplates, items, rfl, templates, hitems, rfl⟩
    exact ⟨hname, items, htemplates, hitems⟩
  · rintro ⟨hname, items, htemplates, hitems⟩
    exact ⟨c.name, hname, _, htemplates, items, rfl, c.templates, hitems, rfl⟩

theorem written_encode (c : Catalog) : c.Written c.encode := by
  have hnames : fieldNames.Nodup := by decide
  refine ⟨_, Document.hasFields_record hnames, ?_, _, rfl, ?_⟩
  · cases hname : c.name <;> simp [WrittenOr, encodeName]
  · rw [List.forall₂_map_right_iff, List.forall₂_same]
    exact fun t _ => t.written_encode

end Catalog

namespace Vocabulary

/-- The fields of a record that is read as word lists, each of them under the name of its category.
When a category has several fields, the last of them counts. -/
structure WrittenIn (v : Vocabulary) (fields : List (String × Document)) : Prop where
  each : ∀ field ∈ fields, ∃ c entries, field = (Category.name c, encodeEntries entries)
  last : ∀ c, fields.reverse.lookup (Category.name c) = (v.entries? c).map encodeEntries

def Written (v : Vocabulary) (d : Document) : Prop :=
  ∃ fields, Document.HasFields fieldNames d fields ∧
    ∃ lists, fields.lookup "lists" = some (.record lists) ∧ v.WrittenIn lists

theorem decodeList_eq_some_iff {v v' : Vocabulary} {field : String × Document} :
    decodeList v field = some v' ↔
      ∃ c entries, field = (Category.name c, encodeEntries entries) ∧
        v' = ⟨v.lists.set c (some entries)⟩ := by
  obtain ⟨name, d⟩ := field
  have hdecode : decodeList v (name, d) = (Category.ofFullName? name).bind fun c =>
      (decodeEntries d).map fun entries => ⟨v.lists.set c (some entries)⟩ := by
    simp only [decodeList, decodeEntries, Option.bind_eq_bind, Option.bind_assoc, Option.pure_def,
      Option.map_eq_bind]
    rfl
  simp only [hdecode, Option.bind_eq_some_iff, Option.map_eq_some_iff,
    Category.isPartialInv_name _ name, isPartialInv_encodeEntries _ d, Prod.mk.injEq]
  grind

/-- A list that is read takes the place of the one that the category had before. -/
theorem lookup_singleton_or (v : Vocabulary) (c d : Category) (entries : List Entry) :
    ([(Category.name c, encodeEntries entries)].lookup d.name).or ((v.entries? d).map encodeEntries) =
      (Vocabulary.entries? ⟨v.lists.set c (some entries)⟩ d).map encodeEntries := by
  rw [entries?, entries?]
  by_cases hdc : d = c
  · subst hdc
    simp
  · have hname : d.name ≠ c.name := fun h => hdc (Category.isPartialInv_name.injective h)
    simp [List.lookup_cons, beq_false_of_ne hname, Category.Table.get_set_of_ne _ hdc]

theorem foldlM_decodeList_eq_some_iff {v v' : Vocabulary} {fields : List (String × Document)} :
    fields.foldlM decodeList v = some v' ↔
      (∀ field ∈ fields, ∃ c entries, field = (Category.name c, encodeEntries entries)) ∧
        ∀ c, (fields.reverse.lookup (Category.name c)).or ((v.entries? c).map encodeEntries) =
          (v'.entries? c).map encodeEntries := by
  -- a list that is there already stays only if no field comes for its category, so `v` takes part
  induction fields generalizing v with
  | nil =>
    have hinj : Injective (Option.map encodeEntries) :=
      Option.map_injective isPartialInv_encodeEntries.injective
    simp only [List.foldlM_nil, Option.pure_def, Option.some.injEq, List.not_mem_nil, false_imp_iff,
      forall_const, true_and, List.reverse_nil, List.lookup_nil, Option.none_or, hinj.eq_iff]
    constructor
    · rintro rfl c
      rfl
    · intro h
      exact congrArg Vocabulary.mk (Category.Table.eq_of_get_eq h)
  | cons field rest ih =>
    simp only [List.foldlM_cons, Option.bind_eq_bind, Option.bind_eq_some_iff, decodeList_eq_some_iff,
      ih, List.forall_mem_cons, List.reverse_cons, List.lookup_append, Option.or_assoc]
    constructor
    · rintro ⟨_, ⟨c, entries, rfl, rfl⟩, hrest, hlast⟩
      refine ⟨⟨⟨c, entries, rfl⟩, hrest⟩, fun d => ?_⟩
      rw [lookup_singleton_or]
      exact hlast d
    · rintro ⟨⟨⟨c, entries, rfl⟩, hrest⟩, hlast⟩
      refine ⟨_, ⟨c, entries, rfl, rfl⟩, hrest, fun d => ?_⟩
      rw [← lookup_singleton_or]
      exact hlast d

theorem decode_eq_some_iff {v : Vocabulary} {d : Document} : decode d = some v ↔ v.Written d := by
  have hempty : ∀ c, empty.entries? c = none := fun c => Category.Table.get_replicate none c
  have hlists : ∀ lists, lists.foldlM decodeList empty = some v ↔ v.WrittenIn lists := by
    intro lists
    simp only [foldlM_decodeList_eq_some_iff, hempty, Option.map_none, Option.or_none]
    exact ⟨fun h => ⟨h.1, h.2⟩, fun h => ⟨h.each, h.last⟩⟩
  simp only [decode, Written, Option.bind_eq_bind, Option.bind_eq_some_iff,
    Document.fieldsOf?_eq_some_iff, Document.isPartialInv_record _ _, hlists]
  grind

/-- Each category finds its own field among those of several categories. -/
theorem lookup_filterMap_name (f : Category → Option Document) (c : Category) (cs : List Category) :
    (cs.filterMap fun d => (f d).map (Prod.mk d.name)).lookup c.name = if c ∈ cs then f c else none := by
  induction cs with
  | nil => rfl
  | cons d cs ih =>
    have hname : (c.name == d.name) = decide (c = d) := by
      rw [Bool.eq_iff_iff, beq_iff_eq, decide_eq_true_eq, Category.isPartialInv_name.injective.eq_iff]
    rw [List.filterMap_cons]
    cases hd : f d with
    | none =>
      simp only [Option.map_none, ih, List.mem_cons]
      grind
    | some doc =>
      simp only [Option.map_some, List.lookup_cons, hname, ih, List.mem_cons]
      grind

theorem written_encode (v : Vocabulary) : v.Written v.encode := by
  refine ⟨_, Document.hasFields_record (List.nodup_singleton _), _, rfl, ?_, ?_⟩
  · intro field hfield
    obtain ⟨c, -, hc⟩ := List.mem_filterMap.mp hfield
    obtain ⟨entries, -, rfl⟩ := Option.map_eq_some_iff.mp hc
    exact ⟨c, entries, rfl⟩
  · intro c
    have hlookup :=
      lookup_filterMap_name (fun d => (v.entries? d).map encodeEntries) c Category.all.reverse
    rw [if_pos (List.mem_reverse.mpr c.mem_all)] at hlookup
    simp only [Option.map_map, List.filterMap_reverse] at hlookup
    exact hlookup

end Vocabulary

/-- A set is written as a list of its members, in any order and with repetitions. -/
def WordSet.Written (s : WordSet) (d : Document) : Prop :=
  ∃ ws, .ofTexts ws = d ∧ ∀ w, w ∈ s ↔ w ∈ ws

namespace Config

/-- The fields of a record that is read as a configuration.  The direction and the ignored words may be
missing. -/
structure WrittenIn (c : Config) (fields : List (String × Document)) : Prop where
  catalog : ∃ d, fields.lookup "catalog" = some d ∧ c.catalog.Written d
  vocabulary : ∃ d, fields.lookup "categories" = some d ∧ c.vocabulary.Written d
  direction : WrittenOr .forward Direction.Written c.direction (fields.lookup "direction")
  ignored : WrittenOr .empty WordSet.Written c.ignored (fields.lookup "ignored_words")

def Written (c : Config) (d : Document) : Prop :=
  ∃ fields, Document.HasFields fieldNames d fields ∧ c.WrittenIn fields

theorem ofList_eq_iff {ws : List String} {s : WordSet} :
    WordSet.ofList ws = s ↔ ∀ w, w ∈ s ↔ w ∈ ws := by
  constructor
  · rintro rfl w
    exact WordSet.mem_ofList
  · intro h
    exact WordSet.ext_mem fun w => WordSet.mem_ofList.trans (h w).symm

theorem decodeIgnored_iff {s : WordSet} {field : Option Document} :
    (∃ ws, decodeOr [] Document.texts? field = some ws ∧ .ofList ws = s) ↔
      WrittenOr .empty WordSet.Written s field := by
  cases field with
  | none => simp [decodeOr, WrittenOr, WordSet.ofList, WordSet.insertAll, eq_comm]
  | some d =>
    simp only [decodeOr, WrittenOr, WordSet.Written, Document.isPartialInv_ofTexts _ d, ofList_eq_iff]

theorem decode_eq_some_iff {c : Config} {d : Document} : decode d = some c ↔ c.Written d := by
  have hdirection : ∀ direction field, decodeOr .forward Direction.decode field = some direction ↔
      WrittenOr .forward Direction.Written direction field :=
    decodeOr_eq_some_iff fun _ _ => Direction.decode_eq_some_iff
  simp only [decode, Written, Option.bind_eq_bind, Option.bind_eq_some_iff, Option.pure_def,
    Option.some.injEq, Document.fieldsOf?_eq_some_iff, Catalog.decode_eq_some_iff,
    Vocabulary.decode_eq_some_iff, hdirection]
  apply exists_congr
  intro fields
  apply and_congr_right'
  constructor
  · rintro ⟨_, hcatalog, catalog, hc, _, hvocabulary, vocabulary, hv, direction, hd, ws, hws, rfl⟩
    exact ⟨⟨_, hcatalog, hc⟩, ⟨_, hvocabulary, hv⟩, hd, decodeIgnored_iff.mp ⟨ws, hws, rfl⟩⟩
  · rintro ⟨⟨_, hcatalog, hc⟩, ⟨_, hvocabulary, hv⟩, hd, hignored⟩
    -- the words are read as a list, of which only the set is kept
    obtain ⟨ws, hws, hset⟩ := decodeIgnored_iff.mpr hignored
    exact ⟨_, hcatalog, c.catalog, hc, _, hvocabulary, c.vocabulary, hv, c.direction, hd, ws, hws,
      hset ▸ rfl⟩

theorem written_encode (c : Config) : c.Written c.encode := by
  have hnames : fieldNames.Nodup := by decide
  refine ⟨_, Document.hasFields_record hnames, ?_⟩
  exact
    { catalog := ⟨_, rfl, c.catalog.written_encode⟩
      vocabulary := ⟨_, rfl, c.vocabulary.written_encode⟩
      direction := .inl rfl
      ignored := ⟨c.ignored.words, rfl, fun _ => Iff.rfl⟩ }

/-- Reads a configuration and writes it again. -/
def recode? (d : Document) : Option Document :=
  (decode d).map encode

/-- Reading undoes writing.  A document is read as a configuration exactly when the configuration may be
written so; written again it has its own document, which stays as it is from then on. -/
theorem reading_undoes_writing :
    (∀ c : Config, decode c.encode = some c) ∧
      (∀ (c : Config) (d : Document), decode d = some c ↔ c.Written d) ∧
      ∀ (c : Config) (d : Document), c.Written d →
        recode? d = some c.encode ∧ recode? c.encode = some c.encode := by
  have hself : ∀ c : Config, decode c.encode = some c := fun c =>
    decode_eq_some_iff.mpr c.written_encode
  refine ⟨hself, fun c d => decode_eq_some_iff, fun c d h => ⟨?_, ?_⟩⟩
  · rw [recode?, decode_eq_some_iff.mpr h, Option.map_some]
  · rw [recode?, hself, Option.map_some]

/-- Fields that are not asked for, one of them twice, no direction, word lists without their field, the
later category first, a name as a field, and ignored words out of order and repeated. -/
def untidy : Document :=
  .record [
    ("ignored_words", .ofTexts ["tea", "cat", "tea"]),
    ("comment", .null),
    ("categories", .list [.record [
      ("verb", .list [.ofTexts ["give", "up"], .ofTexts []]),
      ("article", .list [])]]),
    ("comment", .text "old"),
    ("catalog", .record [
      ("version", .number 2 0),
      ("templates", .list [
        .list [
          .record [("literal", .text "To ")],
          .record [("category", .record [("verb", .null)])]],
        .list []])])]

/-- The configuration that `untidy` is read as. -/
def tidied : Config where
  catalog := ⟨none, [⟨[.word "To ", .category .verb]⟩, ⟨[]⟩]⟩
  vocabulary := ⟨⟨some [], none, some [["give", "up"], []], none⟩⟩
  ignored := .ofList ["cat", "tea"]

theorem reading_undoes_writing_untidy :
    decode untidy = some tidied ∧ recode? untidy = some tidied.encode ∧
      recode? tidied.encode = some tidied.encode := by
  have hread : decode untidy = some tidied := by decide +kernel
  obtain ⟨-, hwritten, hrecode⟩ := reading_undoes_writing
  exact ⟨hread, hrecode tidied untidy ((hwritten tidied untidy).mp hread)⟩

end Config

end Headword
