import Headword.Category.Marker
import Headword.Template

/-!
# Reading templates

Each word of a template text is a slot of its own: a category name in braces, or a word without braces,
which is lowercased.  The first word that is neither decides the fault.
-/

namespace Headword

/-- Reads one word of a template; `template` is the whole text, which a fault quotes. -/
def Slot.parse (template w : String) : Except Fault Slot :=
  match w.toList with
  | '\x7b' :: rest =>
    match beforeBrace? rest with
    | none => .error ⟨.malformedTemplate template (.unterminatedMarker w), none⟩
    | some [] => .error ⟨.malformedTemplate template .emptyMarker, none⟩
    | some name =>
      -- braces are looked for before the name is looked up
      if name.any isBrace then .error ⟨.malformedTemplate template (.nestedBraces w), none⟩
      else (Category.parse (String.ofList name)).map .category
  | cs =>
    if cs.any isBrace then .error ⟨.malformedTemplate template (.strayBrace w), none⟩
    else .ok (.ofWord w)

def Template.parse (text : String) : Except Fault Template := do
  let slots ← (Text.words text).mapM (Slot.parse text)
  return ⟨slots⟩

end Headword
