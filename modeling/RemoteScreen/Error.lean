import RemoteScreen.Engine.Basic

/-!
# Error — why a session does not do as asked
-/

namespace RemoteScreen

/-- Why a session does not do as asked. -/
inductive Error where
  | action (e : ActionError)
  | render (e : RenderError)
  | config (flaw : Config.Flaw)
  | fileMissing
  | json (e : DecodeError)
  | internal (message : String)
  deriving DecidableEq

namespace Error

/-- The wording of why a session does not do as asked. -/
def message : Error → String
  | action e => "Action error: " ++ e.message
  | render e => "Render error: " ++ e.message
  | config flaw => "Config error: " ++ flaw.message
  | fileMissing => "IO error: No such file or directory (os error 2)"
  | json e => "JSON error: " ++ e.message
  | internal m => "Internal error: " ++ m

end Error

/-- The settings that the text of a file stands for. -/
def Config.ofFile (text : Option String) : Except Error Config :=
  match text with
  | none => .error .fileMissing
  | some t => (Json.decodeText t Config.decode).mapError .json

end RemoteScreen
