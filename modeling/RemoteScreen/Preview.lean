import RemoteScreen.Action.Codec
import RemoteScreen.Element.Outline
import RemoteScreen.Host.Console
import RemoteScreen.Session.Job

/-!
# Preview — a screen on the console

A preview shows the outline of a screen in its ready state, presses a button on it and runs an
action, and shows the metrics in the end.  It stops at the first error, keeping what it has shown.
-/

namespace RemoteScreen

namespace Preview

/-- A file that was asked for: its text, or none if there is no such file. -/
abbrev File := Option String

/-- What a preview is asked to do. -/
structure Options where
  screen : File
  context : Option File := none
  action : Option File := none
  /-- The key of the element to press. -/
  press : Option String := none
  /-- The settings, if there are some. -/
  config : File := none

/-- The value that a file stands for. -/
def readJson (f : File) : Except Error Json :=
  match f with
  | none => .error .fileMissing
  | some text => (Json.parse text).mapError .json

/-- The settings of a preview. -/
def configOf (f : File) : Except Error Config := do
  match f with
  | none => return {}
  | some _ =>
    let c ← Config.ofFile f
    match c.flaw? with
    | some flaw => throw (.config flaw)
    | none => return c

/-- The session of a preview, and the screen that it shows. -/
def prepare (library : Library) (o : Options) : Except Error (Session Store × Screen) := do
  let config ← configOf o.config
  let screen ← (Screen.ofFile (← readJson o.screen)).mapError .json
  let context ←
    match o.context with
    | some f => Context.ofJson <$> readJson f
    | none => pure .empty
  return (.new library config context [], screen)

/-- What a preview does next. -/
inductive Stage where
  | pressing (j : Job)
  | acting (j : Job)
  | done (failure : Option Error)

end Preview

/-- A preview under way: what it has shown so far, and what it does next. -/
structure Preview where
  options : Preview.Options
  session : Session Store
  shown : String
  stage : Preview.Stage

namespace Preview

/-- Stops at an error. -/
def fail (p : Preview) (e : Error) : Preview := { p with stage := .done (some e) }

/-- Shows some more. -/
def «show» (p : Preview) (text : String) : Preview := { p with shown := p.shown ++ text }

/-- Shows the metrics, and is over. -/
def finish (p : Preview) : Preview :=
  { p.show (p.session.engine.metrics.reading.pretty ++ "\n") with stage := .done none }

/-- Runs the action, if there is one. -/
def act (p : Preview) : Preview :=
  match p.options.action with
  | none => p.finish
  | some none => p.fail .fileMissing
  | some (some text) =>
    match Json.decodeText text Action.decode with
    | .error e => p.fail (.json e)
    | .ok action =>
      let (j, session) := p.session.beginJob .session true [{ action }]
      { p with session, stage := .acting j }

/-- Presses the button, if one is asked for. -/
def press (p : Preview) (elements : List Element) : Preview :=
  match p.options.press with
  | none => p.act
  | some key =>
    match elements.findSome? (·.findByKey key) with
    | none => p.fail (.internal ("No rendered element with key '" ++ key ++ "'"))
    | some element =>
      match element.handler? "onPress" with
      | none => (p.show ("Element '" ++ key ++ "' has no onPress handler.\n")).act
      | some handler =>
        let (j, session) := p.session.beginHandler handler none
        { p with session, stage := .pressing j }

/-- Begins a preview, with what others bring. -/
def start (library : Library) (options : Options) : Preview :=
  match prepare library options with
  | .error e => ⟨options, .new library {} .empty [], "", .done (some e)⟩
  | .ok (session, screen) =>
    let (output, session) := session.renderScreen screen .ready
    let warning :=
      if output.isFallback then "Screen failed to render; showing fallback.\n" else ""
    let outlines := output.elements.map Element.outline
    let p : Preview := ⟨options, session, warning ++ String.join outlines, .done none⟩
    p.press output.elements

/-- Goes on with a job, or behind it when it has ended well. -/
def pollJob (now : Nat) (p : Preview) (j : Job) (stage : Job → Stage) (next : Preview → Preview) :
    Preview :=
  let (j, session) := j.poll Console.host now p.session
  let p := { p with session }
  match j.result? with
  | none => { p with stage := stage j }
  | some (.error e) => p.fail (.action e)
  | some (.ok ()) => next p

/-- Takes a preview on at an instant. -/
def poll (now : Nat) (p : Preview) : Preview :=
  match p.stage with
  | .pressing j => p.pollJob now j .pressing act
  | .acting j => p.pollJob now j .acting finish
  | .done _ => p

/-- When a preview can go on; none if it is over. -/
def wake? (p : Preview) : Option Nat :=
  match p.stage with
  | .pressing j | .acting j => some (j.wake?.getD 0)
  | .done _ => none

/-- What goes to the error output, and the code that tells success from failure. -/
def verdict (p : Preview) : String × Nat :=
  match p.stage with
  | .done (some e) => ("Error: " ++ e.message ++ "\n", 1)
  | _ => ("", 0)

end Preview

end RemoteScreen
