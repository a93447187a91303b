import RemoteScreen.Session.Job

/-!
# Session/Timeline — work at its time, side by side

Work begins at its time and may be given up after a while.  At each instant all of it is looked at
in order and taken as far as it goes; then time passes to the next instant at which some of it can
go on.  What ends at the instant at which it would be given up is not given up.
-/

namespace RemoteScreen

/-- What work comes to at once: an answer, or a job that an answer is made of when it ends. -/
inductive Outcome (α : Type) where
  | answer (a : α)
  | job (j : Job) (answer : Except ActionError Unit → α)

/-- Work at its time. -/
structure Work (σ α : Type) where
  start : Nat
  /-- How long the work may take from its start. -/
  patience : Option Nat := none
  begin : Nat → Session σ → Outcome α × Session σ

/-- How far work is. -/
inductive WorkState (σ α : Type) where
  | awaiting (w : Work σ α)
  | running (deadline : Option Nat) (j : Job) (answer : Except ActionError Unit → α)
  | answered (a : α)
  | givenUp

namespace WorkState

variable {σ α : Type}

/-- Takes a job as far as it goes, and gives it up at its deadline. -/
def pollJob (h : Host σ) (now : Nat) (deadline : Option Nat) (j : Job)
    (answer : Except ActionError Unit → α) (s : Session σ) : WorkState σ α × Session σ :=
  let (j, s) := j.poll h now s
  match j.result? with
  | some result => (answered (answer result), s)
  | none =>
    if deadline.any (· ≤ now) then (givenUp, j.cancel s) else (running deadline j answer, s)

/-- Takes work as far as it goes. -/
def poll (h : Host σ) (now : Nat) (w : WorkState σ α) (s : Session σ) :
    WorkState σ α × Session σ :=
  match w with
  | awaiting work =>
    if now < work.start then (w, s)
    else
      match work.begin now s with
      | (.answer a, s) => (answered a, s)
      | (.job j answer, s) => pollJob h now (work.patience.map (work.start + ·)) j answer s
  | running deadline j answer => pollJob h now deadline j answer s
  | answered _ | givenUp => (w, s)

/-- The next instant at which work can go on; none if it is over. -/
def wake? : WorkState σ α → Option Nat
  | awaiting work => some work.start
  | running deadline j _ =>
    match deadline, j.wake? with
    | some a, some b => some (min a b)
    | some a, none => some a
    | none, b => b
  | answered _ | givenUp => none

end WorkState

namespace Timeline

variable {σ α : Type}

/-- Looks at all work at an instant. -/
def poll (h : Host σ) (now : Nat) :
    List (WorkState σ α) → Session σ → List (WorkState σ α) × Session σ
  | [], s => ([], s)
  | w :: ws, s =>
    let (w, s) := w.poll h now s
    let (ws, s) := poll h now ws s
    (w :: ws, s)

/-- The next instant at which some work can go on; none if all is over. -/
def wake? (ws : List (WorkState σ α)) : Option Nat := (ws.filterMap WorkState.wake?).min?

end Timeline

end RemoteScreen
