import RemoteScreen.Engine.Basic

/-!
# Engine/Flight — a dispatch on its way

A dispatch goes through **links**: the action itself, and those that stand in for it one after the
other when it fails.  A link is skipped, or executed: its verb is tried until it succeeds or the
attempts run out.

A flight waits at three kinds of places: while it is debounced, while the host takes its time over a
call, and between attempts.  `Flight.poll` takes it from where it waits to where it next waits, or
to its end, without anything else happening in between.  A debounce and the time between attempts
are sleeps, also where they are asked to last no time; how long a sleep lasts, the host's clock
decides.

* `enter` — duplicates and throttled actions are skipped; debounced ones wait;
* `execute` — the condition is checked and the payload filled in, **both in one snapshot**;
* `runScript`, `tryOn` — one attempt, and the attempts from one on;
* `settle` — what is counted, told and reported of an execution that has ended.
-/

namespace RemoteScreen

namespace Dispatch

/-- The links of an action: itself, and its fallbacks, each under its own component or else that of
the link before. -/
def linksFrom (overlay input : Option Json) : Option String → Action → List Dispatch
  | componentId, a@⟨_, _, _, _, _, _, fallback, _, own⟩ =>
    { action := a.inheritComponent componentId, overlay, input }
      :: match fallback with
        | none => []
        | some next => linksFrom overlay input (own <|> componentId) next

/-- The links of a dispatch. -/
def links (d : Dispatch) : List Dispatch := linksFrom d.overlay d.input none d.action

end Dispatch

/-- An execution that has begun. -/
structure Execution where
  id : String
  started : Nat
  verb : Verb
  /-- What the verb works with, the same for all attempts. -/
  input : VerbInput
  /-- The attempt under way, counted from one. -/
  attempt : Nat := 1

/-- Where a link is after it has been taken as far as it goes without waiting. -/
inductive LinkState where
  /-- It is over, and so is the flight. -/
  | ended (result : Except ActionError Unit)
  /-- All attempts have failed. -/
  | failed (e : VerbError)
  | debouncing (wake : Nat)
  | calling (x : Execution) (c : Call) (next : c.Reply → Script) (wake : Nat)
  | backingOff (x : Execution) (wake : Nat)

/-- A dispatch on its way: the link it is at with those behind it, or its end. -/
inductive Flight where
  | arriving (links : List Dispatch)
  | debouncing (link : Dispatch) (rest : List Dispatch) (wake : Nat)
  | calling (link : Dispatch) (rest : List Dispatch) (x : Execution) (c : Call)
      (next : c.Reply → Script) (wake : Nat)
  | backingOff (link : Dispatch) (rest : List Dispatch) (x : Execution) (wake : Nat)
  | landed (result : Except ActionError Unit)

/-- The flight that a link is at, when there is no other link to go on with. -/
def LinkState.place (d : Dispatch) (rest : List Dispatch) : LinkState → Flight
  | ended result => .landed result
  | failed err => .landed (.error (.verb err))
  | debouncing wake => .debouncing d rest wake
  | calling x c next wake => .calling d rest x c next wake
  | backingOff x wake => .backingOff d rest x wake

/-- How far a script gets without waiting. -/
inductive ScriptState where
  | ended (result : Except VerbError Unit)
  | calling (c : Call) (next : c.Reply → Script) (wake : Nat)

namespace Engine

variable {σ : Type} (h : Host σ) (now : Nat)

/-- Runs a script until it ends or the host takes its time. -/
def runScript : Script → Engine σ → ScriptState × Engine σ
  | .done result, e => (.ended result, e)
  | .look next, e => runScript (next e.context.data) e
  | .write path v next, e => runScript next (e.onContext (·.set path v))
  | .call c next, e =>
    let e := e.note (.called c)
    match h.delay c e.host with
    | 0 =>
      let (r, host) := h.reply c e.host
      runScript (next r) { e with host }
    | n + 1 => (.calling c next (now + (n + 1)), e)

/-- Lets a link in, unless it is a duplicate or throttled; it waits if it is debounced. -/
def enter (d : Dispatch) (e : Engine σ) : Option LinkState × Engine σ :=
  if e.isMarked d then (some (.ended (.ok ())), e.skip d .alreadyPending)
  else
    let e := e.mark d
    if e.isThrottled now d.action then
      (some (.ended (.ok ())), (e.skip d .throttled).unmark d)
    else
      match d.action.debounce with
      | none => (none, e)
      | some delay =>
        match h.sleep delay e.host with
        | 0 => (none, e)
        | n + 1 => (some (.debouncing (now + (n + 1))), e)

/-- Ends an execution: counts, tells and reports. -/
def settle (d : Dispatch) (x : Execution) (result : Except VerbError Unit) (e : Engine σ) :
    LinkState × Engine σ :=
  let a := d.action
  let duration := now - x.started
  match result with
  | .ok () =>
    let e := (e.measure a duration true).count (·.countSucceeded)
    let e := e.publish (.succeeded x.id a.type duration)
    (.ended (.ok ()), (e.report h a duration).unmark d)
  | .error err =>
    let e := (e.measure a duration false).count (·.countFailed)
    let e := e.publish (.failed x.id a.type (ActionError.verb err).message)
    (.failed err, e.unmark d)

/-- Goes on with an attempt, and with those behind it. -/
def tryOn (d : Dispatch) (x : Execution) (script : Script) (e : Engine σ) :
    LinkState × Engine σ :=
  match runScript h now script e with
  | (.calling c next wake, e) => (.calling x c next wake, e)
  | (.ended (.ok ()), e) => settle h now d x (.ok ()) e
  | (.ended (.error err), e) =>
    if x.attempt < d.action.attempts then
      let delay := d.action.delayAfter x.attempt
      let pause := h.sleep delay e.host
      let e := (e.count (·.countRetried)).publish (.retrying x.id d.action.type x.attempt delay)
      match pause with
      | 0 =>
        tryOn d { x with attempt := x.attempt + 1 } (x.verb x.input) e
      | n + 1 => (.backingOff x (now + (n + 1)), e)
    else settle h now d x (.error err) e
termination_by d.action.attempts - x.attempt

/-- Tries once more. -/
def tryAgain (d : Dispatch) (x : Execution) (e : Engine σ) : LinkState × Engine σ :=
  let x := { x with attempt := x.attempt + 1 }
  tryOn h now d x (x.verb x.input) e

/-- The payload of a link in a snapshot; the value entered goes in as it is. -/
def payloadIn (d : Dispatch) (scope : Json) : Fields :=
  let payload := Json.interpolateFields scope d.action.payload
  match d.input with
  | some v => payload.insert "value" v
  | none => payload

/-- Begins the execution of a link with a verb. -/
def begin (d : Dispatch) (verb : Verb) (scope : Json) (e : Engine σ) : Execution × Engine σ :=
  let id := toString (e.runs + 1)
  let input : VerbInput :=
    { payload := payloadIn d scope, componentId := d.action.componentId
      offers := h.offers, config := e.config }
  ({ id, started := now, verb, input },
    { e with runs := e.runs + 1 }.publish (.started id d.action.type))

/-- Executes a link, if its condition holds. -/
def execute (d : Dispatch) (e : Engine σ) : LinkState × Engine σ :=
  let a := d.action
  let scope := e.context.snapshot d.overlay
  if a.condition.any (!·.holds e.patterns scope) then
    (.ended (.ok ()), (e.skip d .conditionFalse).unmark d)
  else
    let e := { e with lastRun := e.lastRun.insert a.type now }.count (·.countExecuted)
    match e.verbs.get? a.type with
    | none =>
      (.ended (.error (.unknownVerb a.type)),
        ((e.measure a 0 false).count (·.countFailed)).unmark d)
    | some verb =>
      let (x, e) := begin h now d verb scope e
      tryOn h now d x (verb x.input) e

/-- Takes a link from its arrival as far as it goes. -/
def arrive (d : Dispatch) (e : Engine σ) : LinkState × Engine σ :=
  match enter h now d e with
  | (some s, e) => (s, e)
  | (none, e) => execute h now d e

/-- Takes links as far as they go, each after the one before has failed. -/
def fly : List Dispatch → Engine σ → Flight × Engine σ
  | [], e => (.landed (.ok ()), e)
  | d :: rest, e =>
    match arrive h now d e with
    | (.failed err, e) =>
      match rest with
      | [] => (.landed (.error (.verb err)), e)
      | next :: rest => fly (next :: rest) e
    | (s, e) => (s.place d rest, e)

/-- Takes a flight on from where one of its links is. -/
def follow (d : Dispatch) (rest : List Dispatch) : LinkState × Engine σ → Flight × Engine σ
  | (.failed err, e) =>
    match rest with
    | [] => (.landed (.error (.verb err)), e)
    | next :: rest => fly h now (next :: rest) e
  | (s, e) => (s.place d rest, e)

end Engine

namespace Flight

variable {σ : Type}

/-- The flight of a dispatch. -/
def ofDispatch (d : Dispatch) : Flight := arriving d.links

/-- When the flight can go on; none if it has landed. -/
def wake? : Flight → Option Nat
  | arriving _ => some 0
  | debouncing _ _ wake | calling _ _ _ _ _ wake | backingOff _ _ _ wake => some wake
  | landed _ => none

/-- The link that is in flight. -/
def link? : Flight → Option Dispatch
  | debouncing d _ _ | calling d _ _ _ _ _ | backingOff d _ _ _ => some d
  | arriving _ | landed _ => none

/-- Takes a flight as far as it goes without waiting. -/
def poll (h : Host σ) (now : Nat) (f : Flight) (e : Engine σ) : Flight × Engine σ :=
  match f with
  | arriving links => Engine.fly h now links e
  | debouncing d rest wake =>
    if now < wake then (f, e) else Engine.follow h now d rest (Engine.execute h now d e)
  | calling d rest x c next wake =>
    if now < wake then (f, e)
    else
      let (r, host) := h.reply c e.host
      Engine.follow h now d rest (Engine.tryOn h now d x (next r) { e with host })
  | backingOff d rest x wake =>
    if now < wake then (f, e) else Engine.follow h now d rest (Engine.tryAgain h now d x e)
  | landed _ => (f, e)

/-- Gives a flight up. -/
def cancel (f : Flight) (e : Engine σ) : Engine σ :=
  match f.link? with
  | some d => e.unmark d
  | none => e

end Flight

end RemoteScreen
