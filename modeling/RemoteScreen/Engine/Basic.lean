import RemoteScreen.Event.Bus
import RemoteScreen.Metrics
import RemoteScreen.Primitive
import RemoteScreen.Template
import RemoteScreen.Verb.Registry

/-!
# Engine/Basic — what an engine knows

An engine runs actions against the shared data.  It knows which are **in flight**, when each type of
action was last executed, and keeps count of everything.  What it does that others can see goes to a
**journal**, in order.
-/

namespace RemoteScreen

/-- Why an action fails. -/
inductive ActionError where
  | unknownVerb (type : String)
  | verb (e : VerbError)
  | override (message : String)
  deriving DecidableEq

/-- The wording of why an action fails. -/
def ActionError.message : ActionError → String
  | unknownVerb t => "Unknown action type: " ++ t
  | verb e => "Verb failed: " ++ e.message
  | override m => "Action handler failed: " ++ m

/-- What others can see of a session. -/
inductive Record where
  /-- The host was called. -/
  | called (c : Call)
  /-- An execution ended after so many milliseconds. -/
  | performance (type : String) (componentId : Option String) (duration : Nat) (success : Bool)
  /-- An action was offered to the override. -/
  | offered (action : Action) (overlay : Option Json)
  /-- An action failed in the end. -/
  | actionFailed (e : ActionError)
  /-- A tree was not rendered. -/
  | renderFailed (e : RenderError)
  /-- A factory was called. -/
  | built (kind : String) (key : Option String)

/-- What an engine knows. -/
structure Engine (σ : Type) where
  verbs : Keyed Verb
  /-- How the patterns of conditions are read. -/
  patterns : Patterns
  config : EngineConfig := {}
  context : Context := .empty
  /-- The keys of the dispatches in flight. -/
  inFlight : List String := []
  /-- When each type of action was last executed. -/
  lastRun : Keyed Nat := []
  metrics : Metrics
  bus : Bus
  journal : List Record := []
  /-- How many executions there have been. -/
  runs : Nat := 0
  host : σ

namespace Dispatch

/-- What tells duplicates in flight: the identity of the action, and the value entered. -/
def key (d : Dispatch) : String :=
  match d.input with
  | none => d.action.identity
  | some v => d.action.identity ++ "|" ++ v.text

end Dispatch

namespace Engine

variable {σ : Type}

/-- An engine with some settings, the built-in verbs and what others bring. -/
def new (library : Library) (config : EngineConfig) (context : Context) (host : σ) : Engine σ :=
  { verbs := Verb.builtins library, patterns := library.patterns, config, context, host
    metrics := Metrics.new config.windowCap config.windowKeep
    bus := Bus.new config.eventBufferSize }

/-- Adds to the journal. -/
def note (e : Engine σ) (r : Record) : Engine σ := { e with journal := e.journal ++ [r] }

/-- Sends an event, if somebody listens. -/
def publish (e : Engine σ) (event : Event) : Engine σ :=
  match e.bus.publish event with
  | .ok bus => { e with bus }
  | .error _ => e

/-- Tells that a dispatch is skipped. -/
def skip (e : Engine σ) (d : Dispatch) (reason : SkipReason) : Engine σ :=
  e.publish (.skipped d.action.type reason)

/-- Changes the metrics. -/
def count (e : Engine σ) (f : Metrics → Metrics) : Engine σ := { e with metrics := f e.metrics }

/-- A dispatch is in flight from now on. -/
def mark (e : Engine σ) (d : Dispatch) : Engine σ := { e with inFlight := d.key :: e.inFlight }

/-- A dispatch is no longer in flight. -/
def unmark (e : Engine σ) (d : Dispatch) : Engine σ :=
  { e with inFlight := e.inFlight.filter (· ≠ d.key) }

/-- A dispatch with the same key is in flight. -/
def isMarked (e : Engine σ) (d : Dispatch) : Bool := e.inFlight.contains d.key

/-- An action of the same type was executed less than the throttle ago. -/
def isThrottled (e : Engine σ) (now : Nat) (a : Action) : Bool :=
  match a.throttle, e.lastRun.get? a.type with
  | some window, some last => now - last < window
  | _, _ => false

/-- Notes the end of an execution. -/
def measure (e : Engine σ) (a : Action) (duration : Nat) (success : Bool) : Engine σ :=
  (e.count (·.record (duration * 1000000))).note
    (.performance a.type a.componentId duration success)

/-- Calls the host, not waiting. -/
def callAtOnce (h : Host σ) (e : Engine σ) (c : Call) : Engine σ :=
  let (_, host) := h.reply c e.host
  { e.note (.called c) with host }

/-- The properties of the report on an action that succeeded. -/
def reportOn (a : Action) (r : Analytics) (duration : Nat) : Fields :=
  let typed := r.properties.insert "actionType" (.str a.type)
  let placed :=
    match a.componentId with
    | some id => typed.insert "componentId" (.str id)
    | none => typed
  if r.trackPerformance then
    placed.insert "durationMs" (.num (.real (Metrics.milliseconds (duration * 1000000))))
  else placed

/-- Reports on an action that succeeded, if it asks for that. -/
def report (h : Host σ) (e : Engine σ) (a : Action) (duration : Nat) : Engine σ :=
  match a.analytics with
  | none => e
  | some r => e.callAtOnce h (Verb.reportCall h.offers r.event (.obj (reportOn a r duration)))

/-- Forgets when actions were executed and which are in flight. -/
def clearCache (e : Engine σ) : Engine σ := { e with lastRun := [], inFlight := [] }

/-- Changes the shared data. -/
def onContext (e : Engine σ) (f : Context → Context) : Engine σ :=
  { e with context := f e.context }

/-- A condition holds in the shared data with an overlay. -/
def evaluate (e : Engine σ) (c : Condition) (overlay : Option Json) : Bool :=
  c.holds e.patterns (e.context.snapshot overlay)

/-- A payload with its templates expanded in the shared data with an overlay. -/
def interpolate (e : Engine σ) (payload : Fields) (overlay : Option Json) : Fields :=
  Json.interpolateFields (e.context.snapshot overlay) payload

end Engine

end RemoteScreen
