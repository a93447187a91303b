import RemoteScreen.Host.Codec
import RemoteScreen.Verb.Basic

/-!
# Verb/Device — verbs on the device: screens, alerts, URLs, sharing, vibration

Each checks its payload and that the host offers what it takes before it calls the host.
-/

namespace RemoteScreen.Verb

/-- The mode that a payload asks for. -/
def modeOf (i : VerbInput) : Except VerbError NavigationMode :=
  match i.optional "mode" with
  | some "navigate" | some "push" => .ok .navigate
  | some "replace" => .ok .replace
  | some "reset" => .ok .reset
  | some other => .error (.invalidField "mode" ("unknown navigation mode '" ++ other ++ "'"))
  | none =>
    .ok (if i.flag "reset" then .reset else if i.flag "replace" then .replace else .navigate)

/-- Goes to a screen. -/
def navigate : Verb := fun i =>
  let checked := do
    let route := (i.optional "navigateTo" <|> i.optional "screen").getD ""
    if route.isEmpty then .error (.missingField "navigateTo")
    let mode ← modeOf i
    i.need .navigator "navigation"
    return (mode, route)
  Script.withValue checked fun (mode, route) =>
    .call (.navigate mode route (i.valueOr "params")) Script.asReplied

/-- The buttons that a payload asks for. -/
def buttonsOf (i : VerbInput) : Except VerbError (List AlertButton) :=
  match i.payload.get? "buttons" with
  | none => .ok []
  | some v => (AlertButton.listOfJson v).mapError fun e => .invalidField "buttons" e.message

/-- Shows an alert, and ends when it is dismissed. -/
def showAlert : Verb := fun i =>
  let checked := do
    let title ← i.required "title"
    let buttons ← buttonsOf i
    i.need .alerts "alert"
    return (title, buttons)
  Script.withValue checked fun (title, buttons) =>
    .call (.alert title (i.optional "message") buttons) (Script.withReply fun _ => .ok)

/-- Opens a URL, if the host says that it can. -/
def openUrl : Verb := fun i =>
  let checked := do
    let url ← i.required "url"
    i.need .urls "url opener"
    return url
  Script.withValue checked fun url =>
    .call (.canOpen url) <| Script.withReply fun can =>
      if can then .call (.openUrl url) Script.asReplied
      else .fail (.unsupported ("cannot open URL " ++ url))

/-- Shares a message or a URL. -/
def share : Verb := fun i =>
  let message := i.optional "message"
  let url := i.optional "url"
  let checked := do
    if message.isNone && url.isNone then .error (.missingField "message")
    i.need .share "share"
  Script.withValue checked fun _ =>
    .call (.share (i.optional "title") message url) Script.asReplied

/-- A list of times. -/
def timesOf (v : Json) : Except VerbError (List Nat) :=
  let invalid : VerbError :=
    .invalidField "pattern" "expected an array of non-negative milliseconds"
  match v with
  | .arr items => items.mapM fun t => (t.nat?.map Except.ok).getD (.error invalid)
  | _ => .error invalid

/-- The vibration that a payload asks for. -/
def vibrationOf (i : VerbInput) : Except VerbError Vibration :=
  match i.payload.get? "pattern", i.payload.get? "duration" with
  | some p, _ => return .pattern (← timesOf p) (i.flag "repeat")
  | none, some d =>
    match d.nat? with
    | some n => .ok (.once n)
    | none => .error (.invalidField "duration" "expected non-negative milliseconds")
  | none, none => .ok (.once i.config.defaultVibration)

/-- Vibrates. -/
def vibrate : Verb := fun i =>
  let checked := do
    let vibration ← vibrationOf i
    i.need .vibrator "vibration"
    return vibration
  Script.withValue checked fun vibration => .call (.vibrate vibration) Script.asReplied

end RemoteScreen.Verb
