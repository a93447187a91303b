import RemoteScreen.Json.Basic
import RemoteScreen.Number.Decimal

/-!
# Json/Printer — the compact text of a value

No blanks; members in key order; of the characters of a string only the quote, the backslash and
those below the blank are escaped.
-/

namespace RemoteScreen

namespace Number

/-- The text of a number: integers in plain digits, others in the fewest that read back. -/
def chars : Number → List Char
  | int i => (if i < 0 then ['-'] else []) ++ Nat.toDigits 10 i.natAbs
  | real x => x.toChars

end Number

namespace Json

/-- A digit of base sixteen in lower case. -/
def hexDigit (n : Nat) : Char := (Nat.digitChar (n % 16))

/-- A character inside a quoted string. -/
def escape (c : Char) : List Char :=
  if c = '"' then ['\\', '"']
  else if c = '\\' then ['\\', '\\']
  else if c = '\x08' then ['\\', 'b']
  else if c = '\x0c' then ['\\', 'f']
  else if c = '\n' then ['\\', 'n']
  else if c = '\r' then ['\\', 'r']
  else if c = '\t' then ['\\', 't']
  else if c.toNat < 0x20 then
    ['\\', 'u', '0', '0', hexDigit (c.toNat / 16), hexDigit c.toNat]
  else [c]

/-- A string between quotes. -/
def quote (s : String) : List Char := '"' :: s.toList.flatMap escape ++ ['"']

mutual

/-- The compact text of a value. -/
def chars : Json → List Char
  | null => ['n', 'u', 'l', 'l']
  | bool true => ['t', 'r', 'u', 'e']
  | bool false => ['f', 'a', 'l', 's', 'e']
  | num n => n.chars
  | str s => quote s
  | arr items => '[' :: itemChars items ++ [']']
  | obj fields => '{' :: fieldChars fields ++ ['}']

/-- The items of a list, between commas. -/
def itemChars : List Json → List Char
  | [] => []
  | [x] => chars x
  | x :: y :: rest => chars x ++ ',' :: itemChars (y :: rest)

/-- The members of an object, between commas. -/
def fieldChars : List (String × Json) → List Char
  | [] => []
  | [(k, x)] => quote k ++ ':' :: chars x
  | (k, x) :: m :: rest => quote k ++ ':' :: chars x ++ ',' :: fieldChars (m :: rest)

end

/-- The compact text of a value. -/
def text (j : Json) : String := String.ofList j.chars

/-- The text of a value where it stands inside running text: a string without its quotes. -/
def plainText : Json → String
  | str s => s
  | j => j.text

end Json

end RemoteScreen
