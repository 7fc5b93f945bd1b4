import Headword.Config
import Headword.Document

/-!
# Configurations as documents

Every part of a configuration is written as a document and read back from one.  A record may have fields
that are not asked for, or give its values alone, and one of its own fields must not come twice.  The name
of a catalog, the direction and the ignored words may be missing.
-/

namespace Headword

namespace Category

/-- A category by its full name. -/
def encode (c : Category) : Document :=
  .text c.name

def ofFullName? (name : String) : Option Category :=
  all.find? fun c => c.name = name

/-- Reads a full name, exactly as it is written. -/
def decode (d : Document) : Option Category := do
  ofFullName? (← d.alternative?)

@[simp] theorem ofFullName?_name (c : Category) : ofFullName? c.name = some c := by
  cases c <;> decide

@[simp] theorem decode_encode (c : Category) : decode c.encode = some c := by
  simp [decode, encode]

end Category

namespace Direction

def encode (d : Direction) : Document :=
  .text d.name

def ofName? (name : String) : Option Direction :=
  [forward, backward].find? fun d => d.name = name

def decode (d : Document) : Option Direction := do
  ofName? (← d.alternative?)

@[simp] theorem decode_encode (d : Direction) : decode d.encode = some d := by
  cases d <;> decide

end Direction

namespace Slot

/-- A slot as a record with one field, whose name tells its kind. -/
def encode : Slot → Document
  | word w => .record [("literal", .text w)]
  | category c => .record [("category", c.encode)]

def decode : Document → Option Slot
  | .record [(key, value)] =>
    if key = "literal" then value.text?.map word
    else if key = "category" then (Category.decode value).map category
    else none
  | _ => none

@[simp] theorem decode_encode (s : Slot) : decode s.encode = some s := by
  cases s <;> simp [encode, decode]

end Slot

namespace Template

/-- A template as the list of its slots. -/
def encode (t : Template) : Document :=
  .list (t.slots.map Slot.encode)

def decode (d : Document) : Option Template := do
  return ⟨← (← d.items?).mapM Slot.decode⟩

end Template

namespace Catalog

/-- A catalog as a record; a missing name is written too. -/
def encode (c : Catalog) : Document :=
  .record [
    ("name", match c.name with
      | some name => .text name
      | none => .null),
    ("templates", .list (c.templates.map Template.encode))]

def decodeName : Option Document → Option (Option String)
  | none => some none
  | some .null => some none
  | some d => d.text?.map some

def fieldNames : List String :=
  ["name", "templates"]

def decode (d : Document) : Option Catalog := do
  let fields ← d.fieldsOf? fieldNames
  let name ← decodeName (fields.lookup "name")
  let templates ← (← (← fields.lookup "templates").items?).mapM Template.decode
  return ⟨name, templates⟩

end Catalog

namespace Vocabulary

/-- Word lists as a record with a field for each category that has a list. -/
def encode (v : Vocabulary) : Document :=
  .record [("lists", .record (Category.all.filterMap fun c =>
    (v.entries? c).map fun list => (c.name, .list (list.map Document.ofTexts))))]

/-- Reads the list of one category into word lists. -/
def decodeList (v : Vocabulary) (field : String × Document) : Option Vocabulary := do
  let c ← Category.ofFullName? field.1
  let list ← (← field.2.items?).mapM Document.texts?
  return ⟨v.lists.set c (some list)⟩

def fieldNames : List String :=
  ["lists"]

def decode (d : Document) : Option Vocabulary := do
  (← (← (← d.fieldsOf? fieldNames).lookup "lists").fields?).foldlM decodeList empty

end Vocabulary

namespace Config

def encode (c : Config) : Document :=
  .record [
    ("catalog", c.catalog.encode),
    ("categories", c.vocabulary.encode),
    ("direction", c.direction.encode),
    ("ignored_words", .ofTexts c.ignored.words)]

/-- Reads a field that may be missing. -/
def decodeOr {α : Type} (default : α) (decode : Document → Option α) : Option Document → Option α
  | none => some default
  | some d => decode d

def fieldNames : List String :=
  ["catalog", "categories", "direction", "ignored_words"]

def decode (d : Document) : Option Config := do
  let fields ← d.fieldsOf? fieldNames
  let catalog ← Catalog.decode (← fields.lookup "catalog")
  let vocabulary ← Vocabulary.decode (← fields.lookup "categories")
  let direction ← decodeOr .forward Direction.decode (fields.lookup "direction")
  let ignored ← decodeOr [] Document.texts? (fields.lookup "ignored_words")
  -- the words of a record need not be in order, nor in lowercase
  return ⟨catalog, vocabulary, direction, .ofList ignored⟩

end Config

end Headword
