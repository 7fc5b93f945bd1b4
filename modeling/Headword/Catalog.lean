import Headword.Template.Reading

/-!
# Catalogs of templates

Templates that are compiled together, in order, with a name for reports.
-/

namespace Headword

/-- A list of templates with an optional name. -/
structure Catalog where
  name : Option String := none
  templates : List Template
  deriving DecidableEq

namespace Catalog

/-- Reads a named catalog.  The first text that is no template decides the fault, which then tells the
catalog and the position of the text. -/
def parse (name : String) (texts : List String) : Except Fault Catalog := do
  let templates ← texts.zipIdx.mapM fun (text, index) =>
    (Template.parse text).mapError (·.locate ⟨some name, some index⟩)
  return ⟨some name, templates⟩

def rename (c : Catalog) (name : String) : Catalog :=
  { c with name := some name }

def push (c : Catalog) (t : Template) : Catalog :=
  { c with templates := c.templates ++ [t] }

def size (c : Catalog) : Nat :=
  c.templates.length

def isEmpty (c : Catalog) : Bool :=
  c.templates.isEmpty

def place (c : Catalog) (index : Nat) : Fault.Place :=
  ⟨c.name, some index⟩

end Catalog

end Headword
