import RemoteScreen.Json.Printer
import RemoteScreen.Path

/-!
# Template — texts with placeholders

A placeholder is a path between double braces.  Inside a longer text it stands for the text of the
value at its path, and for nothing when there is none; a text that is one placeholder as a whole
stands for the value itself, and for itself when there is none.

Substitution is a single pass: what comes in is not looked at again.
-/

namespace RemoteScreen

namespace Template

/-- A part of a template: a character, or the body of a placeholder. -/
inductive Piece where
  | char (c : Char)
  | hole (body : List Char)
  deriving DecidableEq

/-- The character is a brace. -/
def isBrace (c : Char) : Bool := c == '\x7b' || c == '\x7d'

/-- The body of a placeholder behind its opening braces, and what follows it. -/
def body? (cs : List Char) : Option (List Char × List Char) :=
  let body := cs.takeWhile (!isBrace ·)
  match cs.dropWhile (!isBrace ·) with
  | '\x7d' :: '\x7d' :: rest => if body.isEmpty then none else some (body, rest)
  | _ => none

/-- Behind a placeholder less is left than from its body on. -/
theorem length_of_body? {cs body rest : List Char} (h : body? cs = some (body, rest)) :
    rest.length < cs.length := by
  have hl := congrArg List.length (List.takeWhile_append_dropWhile (p := (!isBrace ·)) (l := cs))
  simp only [body?] at h
  split at h
  · next r hd =>
    split at h
    · simp at h
    · simp only [Option.some.injEq, Prod.mk.injEq] at h
      simp only [hd, h.2, List.length_append, List.length_cons] at hl
      omega
  · simp at h

/-- A template cut into its pieces, from the left. -/
def pieces : List Char → List Piece
  | [] => []
  | '\x7b' :: '\x7b' :: cs =>
    match _h : body? cs with
    | some (body, rest) => .hole body :: pieces rest
    | none => .char '\x7b' :: pieces ('\x7b' :: cs)
  | c :: cs => .char c :: pieces cs
termination_by cs => cs.length
decreasing_by
  · have := length_of_body? _h
    simp only [List.length_cons]
    omega
  · simp
  · simp

/-- The text of a value inside a longer one; null has none. -/
def display : Json → List Char
  | .null => []
  | .str s => s.toList
  | v => v.chars

/-- What a piece becomes in a context. -/
def Piece.fill (context : Json) : Piece → List Char
  | char c => [c]
  | hole body =>
    match context.resolve (String.ofList body) with
    | some v => display v
    | none => []

/-- A text with its placeholders filled in. -/
def fill (context : Json) (s : String) : String :=
  String.ofList ((pieces s.toList).flatMap (Piece.fill context))

/-- What a template stands for in a context. -/
def expand (context : Json) (s : String) : Json :=
  match pieces s.toList with
  | [.hole body] => (context.resolve (String.ofList body)).getD (.str s)
  | _ => .str (fill context s)

/-- The text has a placeholder. -/
def hasHole (s : String) : Bool :=
  (pieces s.toList).any fun
    | .hole _ => true
    | .char _ => false

end Template

namespace Json

mutual

/-- A value with the templates of all its texts expanded. -/
def interpolate (context : Json) : Json → Json
  | str s => Template.expand context s
  | arr items => arr (interpolateItems context items)
  | obj fields => obj (interpolateFields context fields)
  | null => null
  | bool b => bool b
  | num n => num n

/-- Items with their templates expanded. -/
def interpolateItems (context : Json) : List Json → List Json
  | [] => []
  | x :: xs => interpolate context x :: interpolateItems context xs

/-- Members with their templates expanded; keys stay. -/
def interpolateFields (context : Json) : Fields → Fields
  | [] => []
  | (k, x) :: xs => (k, interpolate context x) :: interpolateFields context xs

end

mutual

/-- A text of the value has a placeholder. -/
def hasHole : Json → Bool
  | str s => Template.hasHole s
  | arr items => itemsHaveHole items
  | obj fields => fieldsHaveHole fields
  | _ => false

/-- A text of the items has a placeholder. -/
def itemsHaveHole : List Json → Bool
  | [] => false
  | x :: xs => hasHole x || itemsHaveHole xs

/-- A text of the members' values has a placeholder. -/
def fieldsHaveHole : List (String × Json) → Bool
  | [] => false
  | (_, x) :: xs => hasHole x || fieldsHaveHole xs

end

end Json

end RemoteScreen
