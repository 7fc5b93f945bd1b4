import Headword.Text.Lowercase
import Headword.Text.Words

/-!
# Normal form of a text

Texts are compared in lowercase and without regard to the blanks between their words.
-/

namespace Headword.Text

/-- The words of a text, each in lowercase. -/
def normalWords (text : String) : List String :=
  (words text).map lowercase

/-- A text in lowercase, with a single space between words and no blanks around them. -/
def normalize (text : String) : String :=
  join (normalWords text)

/-- Texts whose words agree in lowercase have one normal form. -/
theorem normalize_congr {s t : String} (h : normalWords s = normalWords t) :
    normalize s = normalize t := by
  rw [normalize, normalize, h]

end Headword.Text
