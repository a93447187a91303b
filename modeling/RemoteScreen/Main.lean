import RemoteScreen.Library.Standard
import RemoteScreen.Preview

/-!
# Main — the command line of a preview
-/

namespace RemoteScreen

/-- The files and keys named on the command line. -/
structure Arguments where
  screen : Option String := none
  context : Option String := none
  action : Option String := none
  press : Option String := none
  config : String := "sdui.json"

namespace Arguments

/-- Takes in an option with its value. -/
def set (a : Arguments) (name value : String) : Option Arguments :=
  match name with
  | "--screen" | "-s" => some { a with screen := some value }
  | "--context" => some { a with context := some value }
  | "--action" | "-a" => some { a with action := some value }
  | "--press" | "-p" => some { a with press := some value }
  | "--config" | "-c" => some { a with config := value }
  | _ => none

/-- Takes in an option with its value behind an equals sign. -/
def setJoined (a : Arguments) (word : String) : Option Arguments :=
  match splitAt '=' word.toList with
  | name :: part :: parts =>
    a.set (String.ofList name) (String.intercalate "=" ((part :: parts).map String.ofList))
  | _ => none

/-- Reads a command line; a value follows its option, or an equals sign. -/
def read (a : Arguments) : List String → Option Arguments
  | [] => some a
  | "--verbose" :: rest | "-v" :: rest => a.read rest
  | word :: rest =>
    match a.setJoined word, rest with
    | some a, rest => a.read rest
    | none, value :: rest => a.set word value >>= fun a => a.read rest
    | none, [] => none

end Arguments

/-- The text of a file, if there is such a file. -/
def textOf (path : String) : IO Preview.File := do
  try
    return some (← IO.FS.readFile path)
  catch _ => return none

/-- Takes a preview to its end, waiting where it waits. -/
partial def run (begun : Nat) (p : Preview) : IO Preview := do
  let now := (← IO.monoMsNow) - begun
  match p.wake? with
  | none => return p
  | some wake =>
    if now < wake then IO.sleep (wake - now).toUInt32
    run begun (p.poll ((← IO.monoMsNow) - begun))

end RemoteScreen

open RemoteScreen

/-- Shows a preview of the screen that the command line names. -/
def main (args : List String) : IO UInt32 := do
  let some a := Arguments.read {} args
    | IO.eprintln "error: unexpected argument"
      return 2
  let some screen := a.screen
    | IO.eprintln "error: the following required arguments were not provided:\n  --screen <SCREEN>"
      return 2
  let options : Preview.Options :=
    { screen := ← textOf screen
      context := ← a.context.mapM textOf
      action := ← a.action.mapM textOf
      press := a.press
      config := ← textOf a.config }
  let p ← run (← IO.monoMsNow) (Preview.start .standard options)
  IO.print p.shown
  let (complaint, code) := p.verdict
  IO.eprint complaint
  return code.toUInt32
