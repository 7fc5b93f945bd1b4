import Headword.Fault
import Headword.Text.Lowercase
import Headword.Text.Words

/-!
# Reading category names

A category is named by its short or its full name, in any case and with blanks around it, and may stand
in braces.
-/

namespace Headword

def isBrace (c : Char) : Bool :=
  c = '\x7b' || c = '\x7d'

/-- What stands before the closing brace at the end of a text. -/
def beforeBrace? (cs : List Char) : Option (List Char) :=
  if cs.getLast? = some '\x7d' then some cs.dropLast else none

theorem beforeBrace?_eq_some_iff {cs name : List Char} :
    beforeBrace? cs = some name ↔ cs = name ++ ['\x7d'] := by
  unfold beforeBrace?
  split
  next h =>
    obtain ⟨init, rfl⟩ := List.getLast?_eq_some_iff.mp h
    simp
  next h =>
    simp only [reduceCtorEq, false_iff]
    rintro rfl
    simp at h

namespace Category

/-- The category with a short or full name in lowercase. -/
def ofName? (name : String) : Option Category :=
  all.find? fun c => name = c.marker || name = c.name

/-- A text without the braces around it, or the text itself when it is not in braces. -/
def unbrace (text : String) : String :=
  match text.toList with
  | '\x7b' :: rest =>
    match beforeBrace? rest with
    | some name => String.ofList name
    | none => text
  | _ => text

/-- Reads a category name.  An unknown name is reported without its braces, in its own case and with
its blanks. -/
def parse (text : String) : Except Fault Category :=
  match ofName? (Text.lowercase (Text.trim (unbrace text))) with
  | some c => .ok c
  | none => .error ⟨.unknownCategory (unbrace text), none⟩

theorem ofName?_marker (c : Category) : ofName? c.marker = some c := by
  cases c <;> decide

theorem ofName?_name (c : Category) : ofName? c.name = some c := by
  cases c <;> decide

end Category

end Headword
