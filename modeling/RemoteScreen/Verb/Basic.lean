import RemoteScreen.Context
import RemoteScreen.Host.Basic

/-!
# Verb/Basic — what a verb does, step by step

A verb turns a payload into a **script**: it looks at the shared data, writes to it, calls the host,
and ends well or with an error.  A script is a tree, one branch for each reply, so what a verb may
do can be read off it without a host.
-/

namespace RemoteScreen

/-- What a verb does. -/
inductive Script where
  | done (result : Except VerbError Unit)
  | look (next : Json → Script)
  | write (path : String) (value : Json) (next : Script)
  | call (c : Call) (next : c.Reply → Script)

/-- What a verb works with. -/
structure VerbInput where
  payload : Fields
  componentId : Option String
  offers : Capability → Bool
  config : EngineConfig

/-- A verb. -/
abbrev Verb := VerbInput → Script

namespace Script

/-- Ends well. -/
def ok : Script := done (.ok ())

/-- Ends with an error. -/
def fail (e : VerbError) : Script := done (.error e)

/-- Goes on with a value, if there is one. -/
def withValue {α : Type} (x : Except VerbError α) (next : α → Script) : Script :=
  match x with
  | .ok a => next a
  | .error e => fail e

/-- Goes on with the value of a reply, if there is one. -/
def withReply {α : Type} (next : α → Script) : Except HostError α → Script
  | .ok a => next a
  | .error e => fail (.host e)

/-- Ends as the host replies. -/
def asReplied : Except HostError Unit → Script := withReply fun _ => ok

end Script

namespace VerbInput

/-- The text of a field that has to be there. -/
def required (i : VerbInput) (field : String) : Except VerbError String :=
  match i.payload.get? field with
  | some (.str s) => if s.isEmpty then .error (.missingField field) else .ok s
  | none | some .null => .error (.missingField field)
  | some other => .error (.invalidField field ("expected string, got " ++ other.text))

/-- The text of a field. -/
def optional (i : VerbInput) (field : String) : Option String :=
  i.payload.get? field >>= Json.str?

/-- A field is set. -/
def flag (i : VerbInput) (field : String) : Bool :=
  (i.payload.get? field >>= Json.bool?).getD false

/-- The value of a field, null if it is not there. -/
def valueOr (i : VerbInput) (field : String) : Json := (i.payload.get? field).getD .null

/-- Insists on a capability, which complaints name in their own way. -/
def need (i : VerbInput) (c : Capability) (what : String) : Except VerbError Unit :=
  if i.offers c then .ok () else .error (.capabilityUnavailable what)

end VerbInput

end RemoteScreen
