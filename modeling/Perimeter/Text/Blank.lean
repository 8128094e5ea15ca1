/-!
# Blank characters

Names, descriptions and e-mails are trimmed of the characters with the Unicode property
`White_Space`; a text of nothing else is blank.
-/

namespace Perimeter.Text

/-- The characters with the Unicode property `White_Space`. -/
def isBlankChar (c : Char) : Bool :=
  let n := c.toNat
  (9 ≤ n && n ≤ 13) || n = 32 || n = 0x85 || n = 0xA0 || n = 0x1680
    || (0x2000 ≤ n && n ≤ 0x200A) || n = 0x2028 || n = 0x2029 || n = 0x202F || n = 0x205F
    || n = 0x3000

def trimFront (cs : List Char) : List Char := cs.dropWhile isBlankChar

/-- Characters without the blanks at either end. -/
def trimChars (cs : List Char) : List Char := (trimFront (trimFront cs).reverse).reverse

/-- A text without the blanks at either end. -/
def trim (s : String) : String := String.ofList (trimChars s.toList)

def isBlank (s : String) : Bool := s.toList.all isBlankChar

/-- The trimmed text, unless nothing is left of it. -/
def nonBlank? (s : String) : Option String := if isBlank s then none else some (trim s)

end Perimeter.Text
