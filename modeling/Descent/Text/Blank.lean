import Descent.Text.CodeRange

set_option autoImplicit false

namespace Descent

/-- The separators of Unicode 14, the controls that move to another place or line, and the four
information separators. -/
def blankRanges : List CodeRange := [
    ⟨0x9, 0xD⟩, ⟨0x1C, 0x20⟩, ⟨0x85, 0x85⟩, ⟨0xA0, 0xA0⟩, ⟨0x1680, 0x1680⟩, ⟨0x2000, 0x200A⟩,
    ⟨0x2028, 0x2029⟩, ⟨0x202F, 0x202F⟩, ⟨0x205F, 0x205F⟩, ⟨0x3000, 0x3000⟩]

def isBlank (c : Char) : Bool :=
  CodeRange.covers blankRanges c

/-- The character is white space of ASCII, the information separators left out. -/
def isAsciiBlank (c : Char) : Bool :=
  CodeRange.contains ⟨0x09, 0x0D⟩ c || c == ' '

end Descent
