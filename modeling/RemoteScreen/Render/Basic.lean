import RemoteScreen.Condition.Eval
import RemoteScreen.Config
import RemoteScreen.Context
import RemoteScreen.Primitive
import RemoteScreen.Render.Memo
import RemoteScreen.Template

/-!
# Render/Basic — from nodes to elements

A node shows unless it is hidden, too deep, or of a kind nobody knows.  Its properties are
interpolated; its style is not.  A disabled node takes no events.

Rendering carries a `RenderState` along: the memo, how often it helped, and the factories called.
-/

namespace RemoteScreen

/-- What a tree is rendered in: the data it reads, and who gets its actions. -/
structure Scope where
  context : Json
  sink : Nat
  stamp : Stamp

namespace Scope

/-- The scope over some data. -/
def ofData (context : Json) (sink : Nat) : Scope :=
  ⟨context, sink, .content context.text sink⟩

/-- The scope over a context at its revision, with an overlay. -/
def ofContext (c : Context) (overlay : Option Json) (sink : Nat) : Scope :=
  ⟨c.snapshot overlay, sink, .revision c.revision (overlay.map Json.text) sink⟩

end Scope

/-- What rendering carries along. -/
structure RenderState where
  memo : Memo := []
  /-- How often a kept result was used. -/
  hits : Nat := 0
  /-- The kind and key of each element a factory was called for, in order. -/
  built : List (String × Option String) := []

/-- What rendering works with. -/
structure RenderRules where
  primitives : Keyed Factory
  config : RendererConfig
  /-- How the patterns of conditions are read. -/
  patterns : Patterns

/-- The outcome of rendering. -/
abbrev Rendering (α : Type) := Except BuildFailure α × RenderState

namespace Guards

/-- The guards let the node show. -/
def lets (g : Guards) (patterns : Patterns) (context : Json) : Bool :=
  !g.hide.any (·.holds patterns context) && g.show.all (·.holds patterns context)

/-- The guards keep events from the node. -/
def disables (g : Guards) (patterns : Patterns) (context : Json) : Bool :=
  g.disable.any (·.holds patterns context) || g.enable.any (!·.holds patterns context)

end Guards

/-- The events whose value goes to the action. -/
def valueEvents : List String := ["onChangeText", "onValueChange"]

namespace Node

/-- What the input that the node stands for is for. -/
def meaning (n : Node) (props : Fields) : Option InputMeaning :=
  if n.kind = "TextInput" then InputMeaning.infer n.id props else none

/-- The handler of a declared action. -/
def bind (n : Node) (meaning : Option InputMeaning) (sink : Nat) (event : String)
    (action : Action) : Handler :=
  .bound
    { declared := some (action.inheritComponent n.id)
      capturesValue := valueEvents.contains event
      meaning := if event = "onChangeText" then meaning else none
      componentId := n.id
      sink }

/-- The handlers of a node: one for each declared action, and one that keeps what is typed. -/
def handlers (n : Node) (props : Fields) (sink : Nat) : Keyed Handler :=
  let meaning := n.meaning props
  let declared : Keyed Handler := n.actions.map fun a => (a.1, n.bind meaning sink a.1 a.2)
  match meaning with
  | some m =>
    if declared.contains "onChangeText" then declared
    else
      declared.insert "onChangeText"
        (.bound
          { declared := none, capturesValue := true, meaning := some m, componentId := n.id, sink })
  | none => declared

/-- The properties of a node in a context. -/
def propsIn (n : Node) (context : Json) : Fields := Json.interpolateFields context n.props

/-- The element of a node before its factory has seen it. -/
def draft (n : Node) (patterns : Patterns) (scope : Scope) (children : List Element) : Element :=
  let props := n.propsIn scope.context
  let disabled := n.guards.disables patterns scope.context
  { kind := n.kind, key := n.id, style := n.style, children
    props := if disabled then props.insert "disabled" (.bool true) else props
    handlers := if disabled then [] else n.handlers props scope.sink
    enabled := !disabled }

end Node

namespace RenderState

/-- A kept result was used. -/
def hit (s : RenderState) : RenderState := { s with hits := s.hits + 1 }

/-- A factory was called. -/
def called (s : RenderState) (kind : String) (key : Option String) : RenderState :=
  { s with built := s.built ++ [(kind, key)] }

/-- A result is kept. -/
def keep (s : RenderState) (capacity : Nat) (position : Position) (entry : MemoEntry) :
    RenderState :=
  { s with memo := s.memo.keep capacity position entry }

end RenderState

mutual

/-- The element of a node at a depth, counted from one, and a position; none if it does not show. -/
def renderAt (rules : RenderRules) (scope : Scope) (depth : Nat) (position : Position) :
    Node → RenderState → Rendering (Option Element)
  | node@⟨kind, id, _, _, children, _, guards⟩, s =>
    if rules.config.maxDepth < depth then (.ok none, s)
    else
      match s.memo.kept? position scope.stamp node with
      | some element => (.ok element, s.hit)
      | none =>
        let kept (element : Option Element) (s : RenderState) : Rendering (Option Element) :=
          (.ok element, s.keep rules.config.memoCapacity position ⟨scope.stamp, node, element⟩)
        if !guards.lets rules.patterns scope.context then kept none s
        else
          match rules.primitives.get? kind with
          | none => kept none s
          | some factory =>
            match renderChildren rules scope depth position 0 children s with
            | (.error e, s) => (.error e, s)
            | (.ok elements, s) =>
              let s := s.called kind id
              match factory (node.draft rules.patterns scope elements) with
              | .error e => (.error e, s)
              | .ok element => kept (some element) s

/-- The elements of the children of a node, from the one of an index on. -/
def renderChildren (rules : RenderRules) (scope : Scope) (depth : Nat) (position : Position)
    (index : Nat) : List Node → RenderState → Rendering (List Element)
  | [], s => (.ok [], s)
  | node :: rest, s =>
    match renderAt rules scope (depth + 1) (position ++ [index]) node s with
    | (.error e, s) => (.error e, s)
    | (.ok element, s) =>
      match renderChildren rules scope depth position (index + 1) rest s with
      | (.error e, s) => (.error e, s)
      | (.ok elements, s) => (.ok (element.toList ++ elements), s)

end

/-- The elements of a tree. -/
def renderTree (rules : RenderRules) (scope : Scope) (tree : List Node) (s : RenderState) :
    Rendering (List Element) :=
  renderChildren rules scope 0 [] 0 tree s

/-- The element of a single node. -/
def renderNode (rules : RenderRules) (scope : Scope) (node : Node) (s : RenderState) :
    Rendering (Option Element) :=
  renderAt rules scope 1 [0] node s

end RemoteScreen
