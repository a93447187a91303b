import RemoteScreen.Action.Basic
import RemoteScreen.Condition.Codec

/-!
# Action/Codec — actions as JSON

Only the type has to be there.  The payload is always written; what is absent is not.
-/

namespace RemoteScreen

namespace Backoff

/-- How a backoff is written. -/
def name : Backoff → String
  | linear => "linear"
  | exponential => "exponential"

/-- The backoff of a name. -/
def ofName? : String → Option Backoff
  | "linear" => some linear
  | "exponential" => some exponential
  | _ => none

end Backoff

namespace Retry

/-- How a retry policy is written. -/
def layout : Json.Source.Layout := ⟨"RetryConfig", ["maxAttempts", "delay", "backoff"]⟩

/-- The value that stands for a retry policy. -/
def toJson (r : Retry) : Json :=
  .obj (Keyed.ofList
    [("maxAttempts", .ofNat r.maxAttempts), ("delay", .ofNat r.delay),
     ("backoff", .str r.backoff.name)])

/-- Decodes a retry policy. -/
def decode (s : Json.Source) : Decoding Retry := do
  let (r, _) ← s.record layout ({} : Retry) fun field t _ r =>
    match field with
    | "maxAttempts" => return { r with maxAttempts := ← t.nat32 }
    | "delay" => return { r with delay := ← t.nat64 }
    | "backoff" =>
      return { r with backoff := ← t.name Backoff.ofName? "`linear` or `exponential`" }
    | _ => return r
  return r

/-- The retry policy that a value stands for. -/
def ofJson (j : Json) : Decoding Retry := decode (.ofJson j)

end Retry

namespace Analytics

/-- How a report is written. -/
def layout : Json.Source.Layout :=
  ⟨"AnalyticsConfig", ["event", "properties", "trackPerformance"]⟩

/-- The value that stands for a report. -/
def toJson (a : Analytics) : Json :=
  .obj (Keyed.ofList
    [("event", .str a.event), ("properties", .obj a.properties),
     ("trackPerformance", .bool a.trackPerformance)])

/-- A report on its way in. -/
structure Draft where
  event : Option String := none
  properties : Fields := []
  trackPerformance : Bool := false

/-- Decodes a report. -/
def decode (s : Json.Source) : Decoding Analytics := do
  let (d, ending) ← s.record layout ({} : Draft) fun field t _ d =>
    match field with
    | "event" => return { d with event := some (← t.string) }
    | "properties" => return { d with properties := ← t.fields }
    | "trackPerformance" => return { d with trackPerformance := ← t.bool }
    | _ => return d
  let event ← ending.require layout "event" d.event
  return { event, properties := d.properties, trackPerformance := d.trackPerformance }

end Analytics

namespace Action

/-- How an action is written. -/
def layout : Json.Source.Layout :=
  ⟨"ActionDescriptor", ["type", "payload", "condition", "throttle", "debounce", "retry",
    "fallback", "analytics", "componentId"]⟩

/-- The value that stands for an action. -/
def toJson : Action → Json
  | ⟨type, payload, condition, throttle, debounce, retry, fallback, analytics, componentId⟩ =>
    .obj (Keyed.ofPresent
      [("type", some (.str type)), ("payload", some (.obj payload)),
       ("condition", condition.map Condition.toJson), ("throttle", throttle.map .ofNat),
       ("debounce", debounce.map .ofNat), ("retry", retry.map Retry.toJson),
       ("fallback",
         match fallback with
         | some next => some (toJson next)
         | none => none),
       ("analytics", analytics.map Analytics.toJson), ("componentId", componentId.map .str)])

/-- An action on its way in. -/
structure Draft where
  type : Option String := none
  payload : Fields := []
  condition : Option Condition := none
  throttle : Option Nat := none
  debounce : Option Nat := none
  retry : Option Retry := none
  fallback : Option Action := none
  analytics : Option Analytics := none
  componentId : Option String := none

/-- Decodes an action. -/
def decode (s : Json.Source) : Decoding Action := do
  let (d, ending) ← s.record layout ({} : Draft) fun field t _ d =>
    match field with
    | "type" => return { d with type := some (← t.string) }
    | "payload" => return { d with payload := ← t.fields }
    | "condition" => return { d with condition := ← t.optional Condition.decode }
    | "throttle" => return { d with throttle := ← t.optional Json.Source.nat64 }
    | "debounce" => return { d with debounce := ← t.optional Json.Source.nat64 }
    | "retry" => return { d with retry := ← t.optional Retry.decode }
    | "fallback" =>
      if t.isNull then return { d with fallback := none }
      else return { d with fallback := some (← decode t) }
    | "analytics" => return { d with analytics := ← t.optional Analytics.decode }
    | "componentId" => return { d with componentId := ← t.optional Json.Source.string }
    | _ => return d
  let type ← ending.require layout "type" d.type
  return {
    type, payload := d.payload, condition := d.condition, throttle := d.throttle
    debounce := d.debounce, retry := d.retry, fallback := d.fallback, analytics := d.analytics
    componentId := d.componentId }
termination_by sizeOf s

/-- The action that a value stands for. -/
def ofJson (j : Json) : Decoding Action := decode (.ofJson j)

end Action

end RemoteScreen
