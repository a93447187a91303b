import RemoteScreen.Element.Basic
import RemoteScreen.Node.Basic

/-!
# Render/Memo — what has been rendered, by position

A result is kept under the **position** of its node, with the node and the stamp of the scope it was
rendered in, and is used again only for an equal node under the same stamp.  A full memo is emptied
before a result for a new position goes in.
-/

namespace RemoteScreen

/-- The way to a node: its index among the roots, then among the children at each level. -/
abbrev Position := List Nat

/-- What tells scopes apart: the context in full, or its revision and what is laid over it; and who
gets the actions. -/
inductive Stamp where
  | content (text : String) (sink : Nat)
  | revision (revision : Nat) (overlay : Option String) (sink : Nat)
  deriving DecidableEq

/-- A result: the element of a node, or none for a node that does not show. -/
structure MemoEntry where
  stamp : Stamp
  node : Node
  element : Option Element

/-- Results by position. -/
abbrev Memo := List (Position × MemoEntry)

namespace Memo

/-- The result at a position, for an equal node under the same stamp. -/
def kept? (m : Memo) (position : Position) (stamp : Stamp) (node : Node) :
    Option (Option Element) :=
  match m.lookup position with
  | some entry =>
    if entry.stamp = stamp ∧ entry.node.same node then some entry.element else none
  | none => none

/-- There is a result at a position. -/
def holds (m : Memo) (position : Position) : Bool := (m.lookup position).isSome

/-- Keeps a result at a position, in place of the one that was there. -/
def keep (m : Memo) (capacity : Nat) (position : Position) (entry : MemoEntry) : Memo :=
  let room := if capacity ≤ m.length ∧ m.holds position = false then [] else m
  (position, entry) :: room.filter (·.1 ≠ position)

end Memo

end RemoteScreen
