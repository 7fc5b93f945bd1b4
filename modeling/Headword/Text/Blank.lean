import Headword.Text.CodeRange

/-!
# Blanks

The Unicode property `White_Space`.  Joiners, the byte order mark and the separators from `0x1C` to
`0x1F` do not have it.
-/

namespace Headword.Text

/-- The code points with the property `White_Space`, as increasing ranges. -/
def blankRanges : List CodeRange :=
  [⟨0x0009, 0x000D⟩, ⟨0x0020, 0x0020⟩, ⟨0x0085, 0x0085⟩, ⟨0x00A0, 0x00A0⟩, ⟨0x1680, 0x1680⟩,
   ⟨0x2000, 0x200A⟩, ⟨0x2028, 0x2029⟩, ⟨0x202F, 0x202F⟩, ⟨0x205F, 0x205F⟩, ⟨0x3000, 0x3000⟩]

/-- A character that separates words. -/
def isBlank (c : Char) : Bool :=
  CodeRange.anyContains blankRanges c.toNat

theorem isBlank_space : isBlank ' ' = true := by decide

end Headword.Text
