import RemoteScreen.Path

/-!
# Context — shared data under a revision

The data that screens show and actions read.  Every write counts the **revision** up, so snapshots
of one revision hold the same data.  A layer of extra members can be put on top of a snapshot; it
never enters the data.
-/

namespace RemoteScreen

/-- The shared data, and how many writes have been made to it. -/
structure Context where
  revision : Nat
  data : Json
  deriving DecidableEq

namespace Context

/-- No data, never written to. -/
def empty : Context := ⟨0, .obj []⟩

instance : Inhabited Context := ⟨empty⟩

/-- The value at a path. -/
def get? (c : Context) (path : String) : Option Json := c.data.resolve path

/-- A path leads to a value. -/
def contains (c : Context) (path : String) : Bool := (c.get? path).isSome

/-- Writes a value at a path; a path without segments is not written to. -/
def set (c : Context) (path : String) (v : Json) : Context :=
  if (Path.segments path).isEmpty then c else ⟨c.revision + 1, c.data.set path v⟩

/-- Removes the value at a path.  A path that leads nowhere is left alone; one that leads through a
list counts as a write and removes nothing. -/
def remove (c : Context) (path : String) : Option Json × Context :=
  match c.get? path with
  | none => (none, c)
  | some _ =>
    match c.data.take? path with
    | some (v, left) => (some v, ⟨c.revision + 1, left⟩)
    | none => (none, ⟨c.revision + 1, c.data⟩)

/-- Puts the members of an object over those of the data; anything else changes nothing. -/
def merge (c : Context) (update : Json) : Context :=
  match update with
  | .obj extra =>
    match c.data with
    | .obj base => ⟨c.revision + 1, .obj (Keyed.insertAll base extra)⟩
    | other => ⟨c.revision + 1, other⟩
  | _ => c

/-- Forgets all data. -/
def clear (c : Context) : Context := ⟨c.revision + 1, .obj []⟩

/-- Data from the start. -/
def ofJson (data : Json) : Context := empty.merge data

end Context

/-- A snapshot with the members of an overlay on top. -/
def layer (base : Json) (overlay : Option Json) : Json :=
  match base, overlay with
  | .obj fields, some (.obj extra) => .obj (Keyed.insertAll fields extra)
  | base, _ => base

namespace Context

/-- The data with an overlay on top. -/
def snapshot (c : Context) (overlay : Option Json) : Json := layer c.data overlay

/-- A short account: the revision and the number of members. -/
def summary (c : Context) : String :=
  "ExecutionContext \x7b revision: " ++ toString c.revision ++ ", keys: "
    ++ toString c.data.members.length ++ " \x7d"

end Context

end RemoteScreen
