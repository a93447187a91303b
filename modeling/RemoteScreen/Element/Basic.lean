import RemoteScreen.InputMeaning

/-!
# Element/Basic — what a screen is rendered to

An element is a primitive with its properties worked out and its events bound.  Handlers are data:
what a handler does when its event comes is read off it, so that an element can be kept and
compared.
-/

namespace RemoteScreen

/-- An action on its way to be run, with what only this run sees: extra members for the context,
and the value a user entered. -/
structure Dispatch where
  action : Action
  overlay : Option Json := none
  input : Option Json := none

/-- The actions bound to an event. -/
structure Binding where
  /-- The action the node declares for the event. -/
  declared : Option Action
  /-- The value that comes with the event goes to the action. -/
  capturesValue : Bool
  /-- The value that comes with the event is also kept, under the key of this meaning. -/
  meaning : Option InputMeaning
  componentId : Option String
  /-- Who gets the actions. -/
  sink : Nat

/-- What an event does. -/
inductive Handler where
  | inert
  | resetBoundary
  | bound (binding : Binding)

namespace Binding

/-- The action that keeps the value of an event. -/
def echo (b : Binding) (value : Option Json) : Option Dispatch :=
  match b.meaning, value with
  | some m, some v => some { action := m.stateUpdate b.componentId, input := some v }
  | _, _ => none

/-- The declared action of an event. -/
def main (b : Binding) (value : Option Json) : Option Dispatch :=
  b.declared.map fun a => { action := a, input := if b.capturesValue then value else none }

end Binding

/-- A primitive with its properties worked out and its events bound. -/
structure Element where
  kind : String
  key : Option String := none
  props : Fields := []
  style : Fields := []
  children : List Element := []
  handlers : Keyed Handler := []
  enabled : Bool := true
  deriving Inhabited

namespace Element

/-- An element of a kind, with nothing else said. -/
def new (kind : String) : Element := { kind }

/-- The element with a property. -/
def withProp (e : Element) (name : String) (v : Json) : Element :=
  { e with props := e.props.insert name v }

/-- The element with one more child. -/
def withChild (e child : Element) : Element := { e with children := e.children ++ [child] }

/-- The element with a handler for an event. -/
def withHandler (e : Element) (event : String) (h : Handler) : Element :=
  { e with handlers := e.handlers.insert event h }

/-- The element under a key. -/
def withKey (e : Element) (key : String) : Element := { e with key := some key }

/-- What the element says: its `text`, or else its `children` property, if that is a text. -/
def text (e : Element) : Option String :=
  (e.props.get? "text" <|> e.props.get? "children") >>= Json.str?

/-- The handler of an event. -/
def handler? (e : Element) (event : String) : Option Handler := e.handlers.get? event

mutual

/-- An element and all below it, each before its children. -/
def all : Element → List Element
  | e@⟨_, _, _, _, children, _, _⟩ => e :: allIn children

/-- Elements and all below them. -/
def allIn : List Element → List Element
  | [] => []
  | e :: es => all e ++ allIn es

end

/-- The first element with a key, an element coming before its children. -/
def findByKey (e : Element) (key : String) : Option Element :=
  e.all.find? (·.key == some key)

/-- All elements of a kind. -/
def findAllByKind (e : Element) (kind : String) : List Element := e.all.filter (·.kind == kind)

/-- The element that child indexes lead to. -/
def at? (e : Element) : List Nat → Option Element
  | [] => some e
  | i :: rest =>
    match e.children[i]? with
    | some child => child.at? rest
    | none => none

mutual

/-- The value that stands for an element. -/
def toJson : Element → Json
  | ⟨kind, key, props, style, children, handlers, enabled⟩ =>
    .obj (Keyed.ofList
      [("type", .str kind), ("key", (key.map Json.str).getD .null), ("props", .obj props),
       ("style", .obj style), ("enabled", .bool enabled),
       ("events", .arr (handlers.keys.map .str)), ("children", .arr (listToJson children))])

/-- The values that stand for elements. -/
def listToJson : List Element → List Json
  | [] => []
  | e :: es => toJson e :: listToJson es

end

end Element

end RemoteScreen
