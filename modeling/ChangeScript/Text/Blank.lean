/-
The characters that separate words: the Unicode property White_Space.
-/

import ChangeScript.Text.Basic

set_option autoImplicit false

namespace ChangeScript

namespace Text

/-- White_Space as closed ranges of code points, in ascending order. -/
def blankRanges : List (Nat × Nat) :=
  [(0x9, 0xD), (0x20, 0x20), (0x85, 0x85), (0xA0, 0xA0), (0x1680, 0x1680), (0x2000, 0x200A),
    (0x2028, 0x2029), (0x202F, 0x202F), (0x205F, 0x205F), (0x3000, 0x3000)]

def isBlank (c : Char) : Bool := inRanges blankRanges c

def endsSolid (text : Text) : Bool :=
  match text.getLast? with
  | some c => !isBlank c
  | none => false

end Text

end ChangeScript
