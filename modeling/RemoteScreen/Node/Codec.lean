import RemoteScreen.Action.Codec
import RemoteScreen.Node.Basic

/-!
# Node/Codec — nodes as JSON

Only the kind has to be there.  A tree is one node or a list of nodes.
-/

namespace RemoteScreen

namespace Guards

/-- How guards are written. -/
def layout : Json.Source.Layout := ⟨"NodeConditions", ["show", "hide", "enable", "disable"]⟩

/-- The value that stands for guards. -/
def toJson (g : Guards) : Json :=
  .obj (Keyed.ofPresent
    [("show", g.show.map Condition.toJson), ("hide", g.hide.map Condition.toJson),
     ("enable", g.enable.map Condition.toJson), ("disable", g.disable.map Condition.toJson)])

/-- Decodes guards. -/
def decode (s : Json.Source) : Decoding Guards := do
  let (g, _) ← s.record layout ({} : Guards) fun field t _ g =>
    match field with
    | "show" => return { g with «show» := ← t.optional Condition.decode }
    | "hide" => return { g with hide := ← t.optional Condition.decode }
    | "enable" => return { g with enable := ← t.optional Condition.decode }
    | "disable" => return { g with disable := ← t.optional Condition.decode }
    | _ => return g
  return g

end Guards

namespace Node

/-- How a node is written. -/
def layout : Json.Source.Layout :=
  ⟨"ComponentNode", ["type", "id", "props", "style", "children", "actions", "conditions"]⟩

mutual

/-- The value that stands for a node. -/
def toJson : Node → Json
  | ⟨kind, id, props, style, children, actions, guards⟩ =>
    .obj (Keyed.ofPresent
      [("type", some (.str kind)), ("id", id.map .str), ("props", some (.obj props)),
       ("style", some (.obj style)), ("children", some (.arr (listToJson children))),
       ("actions", some (.obj (actions.map fun a => (a.1, a.2.toJson)))),
       ("conditions", some guards.toJson)])

/-- The values that stand for nodes. -/
def listToJson : List Node → List Json
  | [] => []
  | n :: ns => toJson n :: listToJson ns

end

/-- A node on its way in. -/
structure Draft where
  kind : Option String := none
  id : Option String := none
  props : Fields := []
  style : Fields := []
  children : List Node := []
  actions : Keyed Action := []
  guards : Guards := {}

/-- Decodes a node. -/
def decode (s : Json.Source) : Decoding Node := do
  let (d, ending) ← s.record layout ({} : Draft) fun field t _ d =>
    match field with
    | "type" => return { d with kind := some (← t.string) }
    | "id" => return { d with id := ← t.optional Json.Source.string }
    | "props" => return { d with props := ← t.fields }
    | "style" => return { d with style := ← t.fields }
    | "children" => return { d with children := ← t.listOf fun c _ => decode c }
    | "actions" =>
      return { d with actions := Keyed.ofList (← t.mapOf fun a _ => Action.decode a) }
    | "conditions" => return { d with guards := ← Guards.decode t }
    | _ => return d
  let kind ← ending.require layout "type" d.kind
  return {
    kind, id := d.id, props := d.props, style := d.style, children := d.children
    actions := d.actions, guards := d.guards }
termination_by sizeOf s

/-- The node that a value stands for. -/
def ofJson (j : Json) : Decoding Node := decode (.ofJson j)

/-- The nodes that a value stands for: one, or a list of them. -/
def treeOfJson (j : Json) : Decoding (List Node) :=
  match j with
  | .arr _ => (Json.Source.ofJson j).listOf fun n _ => decode n
  | _ => return [← ofJson j]

end Node

end RemoteScreen
