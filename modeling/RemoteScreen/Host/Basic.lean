import RemoteScreen.Config
import RemoteScreen.Screen

/-!
# Host/Basic — what a screen can ask of the program around it

A host offers capabilities, each of which may be missing.  It is asked by **calls**; a call fixes
the type of its reply.  A call may take time, and its reply may change what the host replies next.
-/

namespace RemoteScreen

/-- What a host can offer. -/
inductive Capability where
  | navigator | state | alerts | urls | share | vibrator | storage | analytics | screens
  deriving DecidableEq, Repr

namespace Capability

/-- All capabilities. -/
def all : List Capability :=
  [navigator, state, alerts, urls, share, vibrator, storage, analytics, screens]

/-- The name of a capability among the host's services. -/
def name : Capability → String
  | navigator => "navigator"
  | state => "state"
  | alerts => "alerts"
  | urls => "urls"
  | share => "share"
  | vibrator => "vibrator"
  | storage => "storage"
  | analytics => "analytics"
  | screens => "screens"

end Capability

/-- Why a host does not do as asked. -/
inductive HostError where
  | unavailable (what : String)
  | failed (what : String)
  deriving DecidableEq

/-- The wording of why a host does not do as asked. -/
def HostError.message : HostError → String
  | unavailable t => "Capability unavailable: " ++ t
  | failed t => "Host operation failed: " ++ t

/-- Why a verb fails. -/
inductive VerbError where
  | missingField (field : String)
  | invalidField (field message : String)
  | capabilityUnavailable (what : String)
  | unsupported (what : String)
  | http (status : Nat)
  | network (message : String)
  | validation (message : String)
  | host (e : HostError)
  deriving DecidableEq

/-- The wording of why a verb fails. -/
def VerbError.message : VerbError → String
  | missingField field => "Missing required payload field '" ++ field ++ "'"
  | invalidField field m => "Invalid payload field '" ++ field ++ "': " ++ m
  | capabilityUnavailable what => "No " ++ what ++ " capability is wired"
  | unsupported what => "Unsupported: " ++ what
  | http status => "HTTP request failed with status " ++ toString status
  | network m => "Network error: " ++ m
  | validation m => "Validation failed: " ++ m
  | host e => "Host error: " ++ e.message

/-- How a new screen relates to those before it. -/
inductive NavigationMode where
  | navigate | replace | reset
  deriving DecidableEq, Repr

/-- The name of a mode. -/
def NavigationMode.name : NavigationMode → String
  | navigate => "Navigate"
  | replace => "Replace"
  | reset => "Reset"

/-- An action for the host's own state. -/
structure StateAction where
  type : String
  payload : Json := .null
  deriving DecidableEq

/-- A button of an alert. -/
structure AlertButton where
  text : String
  style : Option String := none
  deriving DecidableEq

/-- How long to vibrate, in milliseconds: once, or on and off by turns. -/
inductive Vibration where
  | once (duration : Nat)
  | pattern (durations : List Nat) («repeat» : Bool)
  deriving DecidableEq

/-- The weight of a log entry. -/
inductive LogLevel where
  | trace | debug | info | warn | error
  deriving DecidableEq, Repr

/-- The name of a weight. -/
def LogLevel.name : LogLevel → String
  | trace => "trace"
  | debug => "debug"
  | info => "info"
  | warn => "warn"
  | error => "error"

/-- An entry of the log: a message, and more by name. -/
structure LogEntry where
  level : LogLevel
  message : String
  fields : List (String × String)
  deriving DecidableEq

/-- A request to a server. -/
structure Request where
  method : String
  url : String
  headers : List (String × String)
  body : Option String
  /-- How long an answer may take. -/
  timeout : Nat
  deriving DecidableEq

/-- What a server answers; a body may break off with a message. -/
structure Response where
  status : Nat
  body : Except String String

/-- What is asked of a host. -/
inductive Call where
  | navigate (mode : NavigationMode) (route : String) (params : Json)
  | dispatch (action : StateAction)
  | alert (title : String) (message : Option String) (buttons : List AlertButton)
  | canOpen (url : String)
  | openUrl (url : String)
  | share (title message url : Option String)
  | vibrate (vibration : Vibration)
  | storeGet (key : String)
  | storeSet (key : String) (value : Json)
  | storeRemove (key : String)
  | track (event : String) (properties : Json)
  | refresh (screen : Option String)
  | send (request : Request)
  | log (entry : LogEntry)
  /-- A verb that the host itself brings. -/
  | custom (verb : String) (payload : Fields) (componentId : Option String)
  deriving DecidableEq

namespace Call

/-- The type of the reply to a call. -/
@[reducible] def Reply : Call → Type
  | alert .. => Except HostError String
  | canOpen _ => Except HostError Bool
  | storeGet _ => Except HostError (Option Json)
  | send _ => Except String Response
  | custom .. => Except VerbError Unit
  | track .. | log _ => Unit
  | navigate .. | dispatch _ | openUrl _ | share .. | vibrate _ | storeSet .. | storeRemove _
  | refresh _ => Except HostError Unit

/-- The capability that a call takes. -/
def capability? : Call → Option Capability
  | navigate .. => some .navigator
  | dispatch _ => some .state
  | alert .. => some .alerts
  | canOpen _ | openUrl _ => some .urls
  | share .. => some .share
  | vibrate _ => some .vibrator
  | storeGet _ | storeSet .. | storeRemove _ => some .storage
  | track .. => some .analytics
  | refresh _ => some .screens
  | send _ | log _ | custom .. => none

end Call

/-- The program around a screen, with a state of its own. -/
structure Host (σ : Type) where
  /-- The capability is offered. -/
  offers : Capability → Bool
  /-- How long a call takes, in milliseconds. -/
  delay : Call → σ → Nat
  /-- The reply to a call, at the end of the time it takes. -/
  reply : (c : Call) → σ → c.Reply × σ
  /-- How much longer than asked for a sleep of so many milliseconds lasts: a clock that runs wakes
  nobody before its next tick, one that is stopped lets a sleep of no length be over at once. -/
  lag : Nat → σ → Nat := fun _ _ => 0
  /-- A screen by name. -/
  screen? : String → Option Screen
  /-- The state of a screen. -/
  status : String → ScreenStatus

namespace Host

variable {σ : Type}

/-- How long a sleep of so many milliseconds lasts; it gives way to others unless it is over at
once. -/
def sleep (h : Host σ) (duration : Nat) (s : σ) : Nat := duration + h.lag duration s

/-- The services of a host in one line: which are offered. -/
def summary (h : Host σ) : String :=
  let part (c : Capability) : String := c.name ++ ": " ++ (if h.offers c then "true" else "false")
  "HostServices \x7b " ++ String.intercalate ", " (Capability.all.map part) ++ " \x7d"

end Host

end RemoteScreen
