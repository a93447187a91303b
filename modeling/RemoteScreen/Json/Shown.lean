import RemoteScreen.Json.Printer
import RemoteScreen.Text.Quoted

/-!
# Json/Shown — a value with its kinds spelled out

The form of a value in accounts of the state: every part is preceded by what it is.
-/

namespace RemoteScreen

/-- Texts between brackets, with commas. -/
def bracketed (left right : String) (parts : List String) : String :=
  left ++ String.intercalate ", " parts ++ right

namespace Json

mutual

/-- A value with its kinds spelled out. -/
def shown : Json → String
  | null => "Null"
  | bool b => "Bool(" ++ (if b then "true" else "false") ++ ")"
  | num n => "Number(" ++ String.ofList n.chars ++ ")"
  | str s => "String(" ++ Text.quoted s ++ ")"
  | arr items => "Array " ++ bracketed "[" "]" (shownItems items)
  | obj fields => "Object " ++ bracketed "\x7b" "\x7d" (shownFields fields)

/-- Items with their kinds spelled out. -/
def shownItems : List Json → List String
  | [] => []
  | x :: xs => shown x :: shownItems xs

/-- Members with the kinds of their values spelled out. -/
def shownFields : List (String × Json) → List String
  | [] => []
  | (k, x) :: xs => (Text.quoted k ++ ": " ++ shown x) :: shownFields xs

end

end Json

end RemoteScreen
