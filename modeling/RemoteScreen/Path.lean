import RemoteScreen.Json.Basic
import RemoteScreen.Text.Blank

/-!
# Path — places inside a JSON value

A path is a text of segments between points.  Blanks around a segment do not count, and neither do
segments of blanks alone.  A segment names a member of an object or, as a number, an item of a list.

Reading follows both; writing and removing go through objects only.  A write makes the objects it
needs on its way, in place of whatever else stands there.
-/

namespace RemoteScreen

/-- Cuts a list at every separator. -/
def splitAt (separator : Char) : List Char → List (List Char)
  | [] => [[]]
  | c :: cs =>
    if c = separator then [] :: splitAt separator cs
    else
      match splitAt separator cs with
      | [] => [[c]]
      | part :: parts => (c :: part) :: parts

namespace Path

/-- The segments of a path. -/
def segments (path : String) : List String :=
  ((splitAt '.' path.toList).map Text.trim).filter (fun s => !s.isEmpty) |>.map String.ofList

/-- The index a segment stands for: decimal digits, perhaps behind a plus. -/
def index? (segment : String) : Option Nat :=
  let digits :=
    match segment.toList with
    | '+' :: ds => ds
    | ds => ds
  if digits.isEmpty || !digits.all Char.isDigit then none
  else
    let n := digits.foldl (fun n d => 10 * n + (d.toNat - '0'.toNat)) 0
    if n < Json.natLimit then some n else none

end Path

namespace Json

/-- The value that segments lead to. -/
def at? : List String → Json → Option Json
  | [], j => some j
  | s :: rest, obj fields =>
    match Keyed.get? fields s with
    | some child => child.at? rest
    | none => none
  | s :: rest, arr items =>
    match Path.index? s >>= (items[·]?) with
    | some child => child.at? rest
    | none => none
  | _ :: _, _ => none

/-- The members of an object, or none where there is no object. -/
def members : Json → Fields
  | obj fields => fields
  | _ => []

/-- The value with another one where the segments lead, through objects made on the way. -/
def setAt : List String → Json → Json → Json
  | [], v, _ => v
  | s :: rest, v, root =>
    let child := (root.members.get? s).getD (obj [])
    obj (root.members.insert s (setAt rest v child))

/-- The value that segments lead to through objects, and what is left without it. -/
def takeAt? : List String → Json → Option (Json × Json)
  | [], _ => none
  | [s], obj fields => (Keyed.get? fields s).map fun v => (v, obj (Keyed.erase s fields))
  | s :: rest, obj fields =>
    match Keyed.get? fields s with
    | some child => (child.takeAt? rest).map fun (v, left) => (v, obj (Keyed.insert s left fields))
    | none => none
  | _ :: _, _ => none

/-- The value at a path; a path without segments leads nowhere. -/
def resolve (root : Json) (path : String) : Option Json :=
  match Path.segments path with
  | [] => none
  | ss => root.at? ss

/-- The value with another one at a path; a path without segments replaces the whole. -/
def set (root : Json) (path : String) (v : Json) : Json := setAt (Path.segments path) v root

/-- The value at a path through objects, and what is left without it. -/
def take? (root : Json) (path : String) : Option (Json × Json) :=
  root.takeAt? (Path.segments path)

end Json

end RemoteScreen
