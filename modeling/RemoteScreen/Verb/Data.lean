import RemoteScreen.Verb.Basic

/-!
# Verb/Data — verbs on data: the host's state, its store, its screens, its reports

Each checks its payload and that the host offers what it takes before it calls the host.  Reports
and log entries need no capability: a report goes to the log if nobody else takes it.
-/

namespace RemoteScreen.Verb

/-- The type of the action that updates the host's state. -/
def stateUpdate : String := "state/update"

/-- The updates that a payload asks for. -/
def updatesOf (i : VerbInput) : Except VerbError Json :=
  match i.payload.get? "updates", i.optional "key" with
  | some (.obj updates), _ => .ok (.obj updates)
  | some other, _ => .error (.invalidField "updates" ("expected object, got " ++ other.text))
  | none, some key => .ok (.obj [(key, i.valueOr "value")])
  | none, none => .error (.missingField "key")

/-- Updates the host's state. -/
def updateState : Verb := fun i =>
  let checked := do
    let updates ← updatesOf i
    i.need .state "state"
    return updates
  Script.withValue checked fun updates =>
    .call (.dispatch ⟨stateUpdate, updates⟩) Script.asReplied

/-- Hands an action to the host's state as it is. -/
def dispatch : Verb := fun i =>
  let checked := do
    let type ← i.required "type"
    i.need .state "state"
    return type
  Script.withValue checked fun type =>
    .call (.dispatch ⟨type, i.valueOr "payload"⟩) Script.asReplied

/-- Asks for a screen, or all of them, to be delivered again. -/
def refresh : Verb := fun i =>
  Script.withValue (i.need .screens "screen source") fun _ =>
    .call (.refresh (i.optional "screen")) Script.asReplied

/-- Writes a value where a payload asks for it. -/
def storeAs (i : VerbInput) (value : Json) : Script :=
  match i.optional "storeAs" with
  | some path => .write path value .ok
  | none => .ok

/-- Reads, writes or removes an entry of the host's store. -/
def storage : Verb := fun i =>
  let checked := do
    let operation ← i.required "operation"
    let key ← i.required "key"
    i.need .storage "storage"
    return (operation, key)
  Script.withValue checked fun (operation, key) =>
    match operation with
    | "get" => .call (.storeGet key) (Script.withReply fun v => storeAs i (v.getD .null))
    | "set" => .call (.storeSet key (i.valueOr "value")) Script.asReplied
    | "remove" => .call (.storeRemove key) Script.asReplied
    | other =>
      .fail (.invalidField "operation" ("unknown storage operation '" ++ other ++ "'"))

/-- The properties of a report, with the component under its own name unless it is taken. -/
def propertiesOf (i : VerbInput) : Fields :=
  let given := (i.payload.get? "properties" >>= Json.fields?).getD []
  match i.componentId with
  | some id => if given.contains "componentId" then given else given.insert "componentId" (.str id)
  | none => given

/-- The log entry of a report. -/
def reportEntry (event : String) (properties : Json) : LogEntry :=
  ⟨.info, "analytics", [("event", event), ("properties", properties.text)]⟩

/-- Hands a report to the host, or else to the log. -/
def reportCall (offers : Capability → Bool) (event : String) (properties : Json) : Call :=
  if offers .analytics then .track event properties else .log (reportEntry event properties)

/-- Reports an event. -/
def analytics : Verb := fun i =>
  Script.withValue (i.required "event") fun event =>
    .call (reportCall i.offers event (.obj (propertiesOf i))) fun _ => .ok

/-- The weight of a name; anything else weighs as much as information. -/
def levelOf : String → LogLevel
  | "trace" => .trace
  | "debug" => .debug
  | "warn" => .warn
  | "error" => .error
  | _ => .info

/-- Writes to the log. -/
def log : Verb := fun i =>
  Script.withValue (i.required "message") fun message =>
    .call (.log ⟨levelOf ((i.optional "level").getD "info"), message,
      [("component", i.componentId.getD "-")]⟩) fun _ => .ok

end RemoteScreen.Verb
