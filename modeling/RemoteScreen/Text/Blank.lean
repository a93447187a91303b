/-!
# Text/Blank — blanks and trimming

A blank is a character of the white-space property.  Trimming takes blanks from both ends and
nothing from between.
-/

namespace RemoteScreen.Text

/-- A white-space character of any script. -/
def isBlank (c : Char) : Bool :=
  let n := c.toNat
  (0x09 ≤ n && n ≤ 0x0D) || n == 0x20 || n == 0x85 || n == 0xA0 || n == 0x1680
    || (0x2000 ≤ n && n ≤ 0x200A) || n == 0x2028 || n == 0x2029 || n == 0x202F || n == 0x205F
    || n == 0x3000

/-- Takes the blanks at the end away. -/
def trimRight (cs : List Char) : List Char := (cs.reverse.dropWhile isBlank).reverse

/-- Takes the blanks at both ends away. -/
def trim (cs : List Char) : List Char := trimRight (cs.dropWhile isBlank)

end RemoteScreen.Text
