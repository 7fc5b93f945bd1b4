/-!
# Documents

Structured values as they are kept in files: texts, numbers, lists and records.
-/

namespace Headword

/-- A structured value. -/
inductive Document
  | null
  | bool (b : Bool)
  /-- The number `mantissa / 10 ^ scale`. -/
  | number (mantissa : Int) (scale : Nat)
  | text (s : String)
  | list (items : List Document)
  | record (fields : List (String × Document))
  deriving Inhabited

namespace Document

def text? : Document → Option String
  | text s => some s
  | _ => none

def items? : Document → Option (List Document)
  | list items => some items
  | _ => none

def fields? : Document → Option (List (String × Document))
  | record fields => some fields
  | _ => none

/-- The fields of a record of which some names are known.  It may give the values alone, in the order of
the names and without the last ones.  A known name that comes twice is refused, and other fields may come
as often as they like. -/
def fieldsOf? (names : List String) : Document → Option (List (String × Document))
  | record fields =>
    if ∀ name ∈ names, (fields.map Prod.fst).count name ≤ 1 then some fields else none
  | list items => if items.length ≤ names.length then some (names.zip items) else none
  | _ => none

/-- The name of an alternative, as a text or as the only field of a record. -/
def alternative? : Document → Option String
  | text name => some name
  | record [(name, null)] => some name
  | _ => none

def texts? (d : Document) : Option (List String) := do
  (← d.items?).mapM text?

def ofTexts (texts : List String) : Document :=
  list (texts.map text)

@[simp] theorem text?_text (s : String) : (text s).text? = some s := rfl

@[simp] theorem alternative?_text (name : String) : (text name).alternative? = some name := rfl

@[simp] theorem texts?_ofTexts (texts : List String) : (ofTexts texts).texts? = some texts := by
  simp only [texts?, ofTexts, items?, Option.bind_eq_bind, Option.bind_some]
  induction texts with
  | nil => rfl
  | cons s rest ih => simp [List.mapM_cons, ih]

end Document

end Headword
