import RemoteScreen.Element.Basic

/-!
# Primitive — how elements are built

A factory finishes a draft: an element whose properties are worked out and whose events are bound.
Text, pictures, switches and icons bring their properties into one form; a picture or an icon that
lacks what it needs becomes a placeholder.
-/

namespace RemoteScreen

/-- Why a tree is not rendered. -/
inductive RenderError where
  | primitive (kind message : String)
  | boundary (message : String)
  deriving DecidableEq

/-- The wording of why a tree is not rendered. -/
def RenderError.message : RenderError → String
  | primitive kind m => "Primitive '" ++ kind ++ "' could not be built: " ++ m
  | boundary m => "Rendering failed: " ++ m

/-- How a factory fails: with an error, or by breaking down, with a message or without. -/
inductive BuildFailure where
  | error (e : RenderError)
  | breakdown (message : Option String)
  deriving DecidableEq

/-- The error that a failure counts as. -/
def BuildFailure.toError : BuildFailure → RenderError
  | error e => e
  | breakdown m => .boundary (m.getD "panic while rendering")

/-- Finishes a draft of an element. -/
abbrev Factory := Element → Except BuildFailure Element

namespace Primitive

/-- The kind of a placeholder. -/
def placeholderKind : String := "Placeholder"

/-- The draft as a placeholder, with the kind it stands for and the reason. -/
def placeholder (draft : Element) (reason : String) : Element :=
  { draft with
    kind := placeholderKind
    props := (draft.props.insert "placeholderFor" (.str draft.kind)).insert "reason" (.str reason) }

/-- The draft as it is. -/
def plain : Factory := .ok

/-- Takes out the first of some properties that is there. -/
def takeFirst (props : Fields) : List String → Option Json × Fields
  | [] => (none, props)
  | name :: names =>
    match props.get? name with
    | some v => (some v, props.erase name)
    | none => takeFirst props names

/-- Text: what it says is brought under `text`, as a text. -/
def text : Factory := fun draft =>
  let (content, props) := takeFirst draft.props ["text", "content", "children"]
  let said :=
    match content with
    | none | some .null => ""
    | some v => v.plainText
  .ok { draft with props := props.insert "text" (.str said) }

/-- Picture: where it comes from is brought under `source`, as an object with an `uri`. -/
def image : Factory := fun draft =>
  let (found, props) := takeFirst draft.props ["source", "uri"]
  let draft := { draft with props }
  let source : Option Json :=
    match found with
    | some (.str uri) => if uri.isEmpty then none else some (.obj [("uri", .str uri)])
    | some (.obj fields) => if Keyed.contains fields "uri" then some (.obj fields) else none
    | _ => none
  match source with
  | some s => .ok (draft.withProp "source" s)
  | none => .ok (placeholder draft "missing image source")

/-- Switch: it is on or off. -/
def switch : Factory := fun draft =>
  let on : Bool := (draft.props.get? "value" >>= Json.bool?) == some true
  .ok (draft.withProp "value" (.bool on))

/-- Icon: it needs a name. -/
def icon : Factory := fun draft =>
  match draft.props.get? "name" with
  | some (.str name) =>
    if name.isEmpty then .ok (placeholder draft "missing icon name") else .ok draft
  | _ => .ok (placeholder draft "missing icon name")

/-- The kinds that are built as they are. -/
def plainKinds : List String :=
  ["Container", "View", "ScrollView", "SafeAreaView", "KeyboardAvoidingView", "TextInput",
   "ActivityIndicator", "Button", "TouchableOpacity"]

/-- The built-in primitives. -/
def builtins : Keyed Factory :=
  Keyed.ofList (plainKinds.map (·, plain)
    ++ [("Text", text), ("Image", image), ("Switch", switch), ("Icon", icon)])

end Primitive

end RemoteScreen
