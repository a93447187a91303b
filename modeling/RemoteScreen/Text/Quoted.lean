import RemoteScreen.Text.Category

/-!
# Text/Quoted — text between quotes, on one line

A quoted text shows every character: those with a name of their own by it (`\n`), those that leave
no visible trace or lean on their neighbour by code point (`\u{301}`), the rest as they are.
-/

namespace RemoteScreen.Text

/-- A character of a quoted text. -/
def quoteChar (c : Char) : List Char :=
  if c = '\x00' then ['\\', '0']
  else if c = '\t' then ['\\', 't']
  else if c = '\r' then ['\\', 'r']
  else if c = '\n' then ['\\', 'n']
  else if c = '"' then ['\\', '"']
  else if c = '\\' then ['\\', '\\']
  else if isExtender c || !isPrintable c then
    ['\\', 'u', '\x7b'] ++ Nat.toDigits 16 c.toNat ++ ['\x7d']
  else [c]

/-- The text between quotes. -/
def quoted (s : String) : String :=
  String.ofList ('"' :: s.toList.flatMap quoteChar ++ ['"'])

/-- How an optional text shows: the bare word `None`, or its quoted form in `Some`. -/
def quotedOption : Option String → String
  | none => "None"
  | some s => "Some(" ++ quoted s ++ ")"

end RemoteScreen.Text
