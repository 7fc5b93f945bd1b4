import Headword.Category

/-!
# Faults

What can be wrong with templates and with the word lists they need, where it is wrong, and how both
are worded.
-/

namespace Headword

/-- What is wrong with the text of a template. -/
inductive TemplateDefect
  /-- The word opens a marker and does not end with the closing brace. -/
  | unterminatedMarker (word : String)
  /-- There is no name between the braces. -/
  | emptyMarker
  /-- There is a brace between the braces of the marker. -/
  | nestedBraces (word : String)
  /-- The word is no marker and has a brace in it. -/
  | strayBrace (word : String)
  /-- Anything else, in the words of the reporter. -/
  | described (text : String)
  deriving DecidableEq

def TemplateDefect.message : TemplateDefect → String
  | unterminatedMarker word => "unterminated marker `" ++ word ++ "`"
  | emptyMarker => "empty marker `\x7b\x7d`"
  | nestedBraces word => "nested braces in `" ++ word ++ "`"
  | strayBrace word => "stray brace in `" ++ word ++ "`"
  | described text => text

namespace Fault

inductive Cause
  | unknownCategory (marker : String)
  | malformedTemplate (template : String) (defect : TemplateDefect)
  | missingCategory (category : Category)
  deriving DecidableEq

def Cause.message : Cause → String
  | unknownCategory marker => "unknown category marker: \x7b" ++ marker ++ "\x7d"
  | malformedTemplate template defect =>
    "malformed template `" ++ template ++ "`: " ++ defect.message
  | missingCategory category => "no word list supplied for category " ++ category.label

/-- The catalog and the template in it that a fault belongs to, as far as they are known. -/
structure Place where
  catalog : Option String := none
  template : Option Nat := none
  deriving DecidableEq

/-- The wording of a place, empty when nothing is known. -/
def Place.describe (p : Place) : String :=
  match p.catalog, p.template with
  | some catalog, some index => "in catalog " ++ catalog ++ ", template #" ++ toString index
  | some catalog, none => "in catalog " ++ catalog
  | none, some index => "in template #" ++ toString index
  | none, none => ""

end Fault

/-- A cause and, where it is known, the place. -/
structure Fault where
  cause : Fault.Cause
  place : Option Fault.Place := none
  deriving DecidableEq

namespace Fault

/-- The wording of a fault, which leaves the place out. -/
def message (f : Fault) : String :=
  f.cause.message

/-- The fault with its place, in exchange for an earlier one. -/
def locate (f : Fault) (place : Place) : Fault :=
  { f with place := some place }

@[simp] theorem cause_locate (f : Fault) (place : Place) : (f.locate place).cause = f.cause := rfl

@[simp] theorem place_locate (f : Fault) (place : Place) : (f.locate place).place = some place := rfl

end Fault

end Headword
