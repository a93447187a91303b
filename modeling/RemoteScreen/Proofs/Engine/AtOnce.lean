import RemoteScreen.Proofs.Engine.Told

/-!
# Proofs/Engine/AtOnce — dispatches that end where they begin

    ofDispatch d ──poll──▸ landed result

An action that says no more than what to run on what — no condition, no second attempt, nothing to
stand in for it — waits nowhere by itself, and its verb waits only for the host.  A verb that only
looks at the data has its result at once, and it is the result of the dispatch (`Flight.poll_bare`).
-/

namespace RemoteScreen

namespace Script

/-- The result of a script that only looks at some data. -/
def seeing (data : Json) : Script → Option (Except VerbError Unit)
  | done result => some result
  | look next => (next data).seeing data
  | write .. | call .. => none

/-- Reading a value first leaves nothing to see of a script but what follows the value, or its
error. -/
theorem seeing_withValue {α : Type} (data : Json) (x : Except VerbError α) (next : α → Script) :
    (withValue x next).seeing data = match x with
      | .ok a => (next a).seeing data
      | .error err => some (.error err) := by
  cases x <;> rfl

end Script

variable {σ : Type} (h : Host σ) (now : Nat)

/-- A script that only sees the data ends at once, and leaves the engine as it is. -/
theorem Engine.runScript_of_seeing {script : Script} {result : Except VerbError Unit} {e : Engine σ}
    (hs : script.seeing e.context.data = some result) :
    runScript h now script e = (.ended result, e) := by
  induction script with
  | done r =>
    cases hs
    rfl
  | look next ih => exact ih e.context.data hs
  | write | call => cases hs

/-- The dispatch of an action that says no more than what to run on what. -/
def Dispatch.bare (type : String) (payload : Fields) : Dispatch := { action := { type, payload } }

/-- What the verb of such an action works with. -/
def Engine.bareInput (e : Engine σ) (payload : Fields) : VerbInput where
  payload := Json.interpolateFields e.context.data payload
  componentId := none
  offers := h.offers
  config := e.config

variable {type : String} {payload : Fields} {verb : Verb} {result : Except VerbError Unit}
  {e : Engine σ}

/-- The only attempt ends the execution. -/
theorem Engine.tryOn_bare {x : Execution} {script : Script} (hx : x.attempt = 1)
    (hs : script.seeing e.context.data = some result) :
    tryOn h now (.bare type payload) x script e = settle h now (.bare type payload) x result e := by
  rw [tryOn, runScript_of_seeing h now hs]
  cases result with
  | ok _ => rfl
  | error err =>
    have hlast : ¬ x.attempt < (Dispatch.bare type payload).action.attempts := by
      rw [hx]
      exact Nat.lt_irrefl 1
    exact if_neg hlast

/-- **A dispatch whose verb only looks ends at once, as the verb does.** -/
theorem Flight.poll_bare (hidle : e.isMarked (.bare type payload) = false)
    (hverb : e.verbs.get? type = some verb)
    (hs : (verb (e.bareInput h payload)).seeing e.context.data = some result) :
    ((ofDispatch (.bare type payload)).poll h now e).1 = .landed (result.mapError .verb) := by
  let begun := (e.mark (.bare type payload)).begun h now (.bare type payload) verb
  have hlinks : (Dispatch.bare type payload).links = [.bare type payload] := rfl
  have hdebounce : ∀ delay ∈ (Dispatch.bare type payload).action.debounce,
      h.sleep delay e.host = 0 := fun delay hd => absurd hd (Option.not_mem_none delay)
  have hinput : begun.1.input = e.bareInput h payload := by
    show (Engine.begin h now (.bare type payload) verb (e.context.snapshot none) _).1.input = _
    rw [e.context.snapshot_none]
    rfl
  have hlooks : (verb begun.1.input).seeing begun.2.context.data = some result := by
    rw [hinput, (Engine.told_begun _ _ _).context]
    exact hs
  rw [ofDispatch, poll, hlinks, Engine.fly_begun hidle rfl hdebounce rfl hverb,
    Engine.tryOn_bare h now rfl hlooks]
  cases result <;> rfl

end RemoteScreen
