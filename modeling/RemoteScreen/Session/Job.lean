import RemoteScreen.Session.Basic

/-!
# Session/Job — dispatches one after the other

A job is what an event, or a caller, sets off: some dispatches, each begun when the one before has
ended, however it has.  The last one's result is that of the job, unless nobody heeds it.
-/

namespace RemoteScreen

/-- The way a dispatch goes: through the session, or straight to the engine. -/
inductive Door where
  | session
  | engine
  deriving DecidableEq

/-- What is left of a job, or how it ended. -/
inductive JobState where
  | underWay (flight : Flight) (rest : List Dispatch)
  | ended (result : Except ActionError Unit)

/-- Dispatches one after the other. -/
structure Job where
  door : Door
  heeded : Bool
  state : JobState

namespace Session

variable {σ : Type}

/-- Begins a dispatch; one that the override handles is over at once. -/
def beginDispatch (s : Session σ) (door : Door) (d : Dispatch) : Flight × Session σ :=
  match door, s.override with
  | .session, some ask =>
    let s := s.note (.offered d.raw d.overlay)
    match ask d.raw d.overlay with
    | .handled => (.landed (.ok ()), s)
    | .declined | .broken _ => (.ofDispatch d, s)
  | _, _ => (.ofDispatch d, s)

/-- Begins a job of some dispatches. -/
def beginJob (s : Session σ) (door : Door) (heeded : Bool) : List Dispatch → Job × Session σ
  | [] => (⟨door, heeded, .ended (.ok ())⟩, s)
  | d :: rest =>
    let (f, s) := s.beginDispatch door d
    (⟨door, heeded, .underWay f rest⟩, s)

/-- Begins what a handler does with the value of its event. -/
def beginHandler (s : Session σ) (handler : Handler) (value : Option Json) : Job × Session σ :=
  match handler with
  | .inert => s.beginJob .session true []
  | .resetBoundary => s.resetBoundary.beginJob .session true []
  | .bound b =>
    let main := b.main value
    s.beginJob .session main.isSome ((b.echo value).toList ++ main.toList)

/-- Tells of a failure, if the dispatch went through the session and was not handled before. -/
def tell (s : Session σ) (door : Door) (result : Except ActionError Unit) : Session σ :=
  match door, result with
  | .session, .error e => s.note (.actionFailed e)
  | _, _ => s

/-- Takes a flight, and the dispatches behind it, as far as they go without waiting. -/
def pollFlight (h : Host σ) (now : Nat) (door : Door) (heeded : Bool) (f : Flight)
    (rest : List Dispatch) (s : Session σ) : JobState × Session σ :=
  match rest with
  | [] =>
    match f.poll h now s.engine with
    | (.landed result, engine) =>
      (.ended (if heeded then result else .ok ()), { s with engine }.tell door result)
    | (f, engine) => (.underWay f [], { s with engine })
  | d :: rest =>
    match f.poll h now s.engine with
    | (.landed result, engine) =>
      let (f, s) := ({ s with engine }.tell door result).beginDispatch door d
      pollFlight h now door heeded f rest s
    | (f, engine) => (.underWay f (d :: rest), { s with engine })

end Session

namespace Job

variable {σ : Type}

/-- Takes a job as far as it goes without waiting. -/
def poll (h : Host σ) (now : Nat) (j : Job) (s : Session σ) : Job × Session σ :=
  match j.state with
  | .underWay f rest =>
    let (state, s) := Session.pollFlight h now j.door j.heeded f rest s
    ({ j with state }, s)
  | .ended _ => (j, s)

/-- When the job can go on; none if it has ended. -/
def wake? (j : Job) : Option Nat :=
  match j.state with
  | .underWay f _ => f.wake?
  | .ended _ => none

/-- How the job ended. -/
def result? (j : Job) : Option (Except ActionError Unit) :=
  match j.state with
  | .underWay _ _ => none
  | .ended result => some result

/-- Gives a job up. -/
def cancel (j : Job) (s : Session σ) : Session σ :=
  match j.state with
  | .underWay f _ => s.onEngine f.cancel
  | .ended _ => s

end Job

end RemoteScreen
