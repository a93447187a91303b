import RemoteScreen.Element.Basic

/-!
# Element/Trigger — an event reaches an element

    event ──▸ handler ──▸ what keeps the value ──▸ declared action
                                   │                     │
                                 unheard              outcome

An event that is bound sets off at most two dispatches, each handed to the sink of its handler when
the one before is over.  Only the outcome of the declared action is heard.
-/

namespace RemoteScreen

/-- Takes dispatches in: each has an outcome, and changes what the sink works on. -/
abbrev Sink (ε τ : Type) := Dispatch → τ → Except ε Unit × τ

variable {ε τ : Type}

namespace Handler

/-- Does what the handler does with the value of its event, the sinks being so. -/
def fire (sinks : Nat → Sink ε τ) (value : Option Json) (t : τ) : Handler → Except ε Unit × τ
  | inert | resetBoundary => (.ok (), t)
  | bound b =>
    let t :=
      match b.echo value with
      | some d => (sinks b.sink d t).2
      | none => t
    match b.main value with
    | some d => sinks b.sink d t
    | none => (.ok (), t)

end Handler

/-- Triggers an event, and tells whether anything is bound to it. -/
def Element.trigger (e : Element) (sinks : Nat → Sink ε τ) (event : String) (value : Option Json)
    (t : τ) : Except ε Bool × τ :=
  match e.handler? event with
  | none => (.ok false, t)
  | some handler =>
    let (outcome, t) := handler.fire sinks value t
    (outcome.map fun _ => true, t)

end RemoteScreen
