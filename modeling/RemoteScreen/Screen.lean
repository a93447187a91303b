import RemoteScreen.Node.Codec

/-!
# Screen — screens and their states

A screen is a tree for when it is ready, and perhaps trees for while it loads and for when it has
failed; built-in ones stand in for those.  The tree of a failed screen can read the message at
`error.message`.
-/

namespace RemoteScreen

/-- A screen's trees. -/
structure Screen where
  components : List Node := []
  loading : Option (List Node) := none
  failed : Option (List Node) := none
  deriving Inhabited

/-- What state a screen is in. -/
inductive ScreenStatus where
  | loading
  | ready
  | failed (message : String)
  deriving DecidableEq, Inhabited

/-- The name of a state. -/
def ScreenStatus.name : ScreenStatus → String
  | loading => "Loading"
  | ready => "Ready"
  | failed _ => "Failed"

namespace Screen

/-- The tree of a loading screen without one of its own. -/
def loadingTree : List Node := [(Node.new "ActivityIndicator").withId "screen-loading"]

/-- The tree of a failed screen without one of its own. -/
def failedTree : List Node :=
  [((Node.new "Text").withId "screen-error").withProp "text"
    (.str "\x7b\x7berror.message\x7d\x7d")]

/-- The tree to show in a state. -/
def treeFor (s : Screen) : ScreenStatus → List Node
  | .ready => s.components
  | .loading => s.loading.getD loadingTree
  | .failed _ => s.failed.getD failedTree

/-- What the tree of a state can read besides the context. -/
def overlayFor : ScreenStatus → Option Json
  | .failed message => some (.obj [("error", .obj [("message", .str message)])])
  | _ => none

/-- How a screen is written. -/
def layout : Json.Source.Layout := ⟨"ScreenConfig", ["components", "loadingState", "errorState"]⟩

/-- The value that stands for a screen. -/
def toJson (s : Screen) : Json :=
  .obj (Keyed.ofPresent
    [("components", some (.arr (Node.listToJson s.components))),
     ("loadingState", s.loading.map fun ns => .arr (Node.listToJson ns)),
     ("errorState", s.failed.map fun ns => .arr (Node.listToJson ns))])

/-- Decodes the tree of a state, which may be null. -/
def decodeTree (s : Json.Source) : Decoding (Option (List Node)) := do
  match ← s.value with
  | .null => return none
  | v => return some (← Node.treeOfJson v)

/-- Decodes a screen. -/
def decode (s : Json.Source) : Decoding Screen := do
  let (d, _) ← s.record layout ({} : Screen) fun field t _ d =>
    match field with
    | "components" => return { d with components := ← t.listOf fun n _ => Node.decode n }
    | "loadingState" => return { d with loading := ← decodeTree t }
    | "errorState" => return { d with failed := ← decodeTree t }
    | _ => return d
  return d

/-- The screen that a value stands for. -/
def ofJson (j : Json) : Decoding Screen := decode (.ofJson j)

/-- A screen from its file: a screen as such if it has components, else the tree of one. -/
def ofFile (j : Json) : Decoding Screen :=
  if (j.fields?.bind (·.get? "components")).isSome then ofJson j
  else return { components := ← Node.treeOfJson j }

end Screen

end RemoteScreen
