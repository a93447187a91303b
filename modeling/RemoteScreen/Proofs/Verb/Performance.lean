import RemoteScreen.Proofs.Engine.Snapshot

/-!
# Proofs/Verb/Performance — what a script does to others

    script ──looks──▸ · ──calls c──▸ · ──writes p v──▸ · ──▸ result
                          reply                               acts: called c reply, wrote p v

A script is a tree; a **performance** is one way through it, with the **acts** that others can see:
the calls with their replies, and the writes.  What it sees of the data and what the host replies is
left open, so a property of all performances holds whatever data and host a script meets.

* `Performs.of_ensures` — **what a script ensures, found by walking it once, branch by branch, holds
  of all its performances**;
* `exists_performs` — and there is one, whatever is replied;
* `Engine.runScript_unfolds` — **an engine that runs a script performs it**: what it notes are the
  calls, and its data has changed by the writes and by nothing else;
* `Move.returned_performs` — an attempt that comes to a result has performed its script.
-/

namespace RemoteScreen

/-- What a script does that others can see. -/
inductive Act where
  | called (c : Call) (reply : c.Reply)
  | wrote (path : String) (value : Json)

namespace Act

/-- The calls among acts. -/
def calls (acts : List Act) : List Call :=
  acts.filterMap fun
    | called c _ => some c
    | wrote _ _ => none

/-- The writes among acts. -/
def writes (acts : List Act) : List (String × Json) :=
  acts.filterMap fun
    | called _ _ => none
    | wrote path v => some (path, v)

/-- The shared data after acts, if nobody else writes to it. -/
def effect (acts : List Act) (c : Context) : Context :=
  (writes acts).foldl (fun c w => c.set w.1 w.2) c

@[simp] theorem calls_nil : calls [] = [] := rfl

@[simp] theorem calls_called (c : Call) (reply : c.Reply) (acts : List Act) :
    calls (called c reply :: acts) = c :: calls acts := rfl

end Act

/-! ## Checks -/

/-- What passes a check has a property. -/
def Passes {α : Type} (x : Except VerbError α) (P : α → Prop) : Prop := ∀ a, x = .ok a → P a

namespace Passes

variable {α β : Type} {x : Except VerbError α} {P : α → Prop} {Q : β → Prop}

theorem self : Passes x fun a => x = .ok a := fun _ ha => ha

theorem pure {a : α} (ha : P a) : Passes (Pure.pure a) P := fun _ h => Except.ok.inj h ▸ ha

theorem error {err : VerbError} : Passes (.error err) P := nofun

/-- **What passes one check after the other** has what the second makes of the first's. -/
theorem bind {f : α → Except VerbError β} (hx : Passes x P) (hf : ∀ a, P a → Passes (f a) Q) :
    Passes (x >>= f) Q := by
  cases x with
  | ok a => exact hf a (hx a rfl)
  | error err => exact error

/-- What passes where a capability is insisted on has it. -/
theorem need {i : VerbInput} {cap : Capability} {what : String} :
    Passes (i.need cap what) fun _ => i.offers cap = true := by
  intro _ h
  rw [VerbInput.need] at h
  split at h
  · assumption
  · cases h

end Passes

namespace Script

/-- **What can be left of a script after some acts**, whatever it has seen and been replied. -/
inductive Unfolds (s : Script) : List Act → Script → Prop where
  | refl : Unfolds s [] s
  | look {acts next} (u : Unfolds s acts (.look next)) (data : Json) : Unfolds s acts (next data)
  | write {acts path v next} (u : Unfolds s acts (.write path v next)) :
      Unfolds s (acts ++ [.wrote path v]) next
  | call {acts} {c : Call} {next : c.Reply → Script} (u : Unfolds s acts (.call c next))
      (reply : c.Reply) : Unfolds s (acts ++ [.called c reply]) (next reply)

/-- A script can come to a result by some acts. -/
def Performs (s : Script) (acts : List Act) (result : Except VerbError Unit) : Prop :=
  s.Unfolds acts (.done result)

/-- **Whatever a script sees and is replied**, its acts and its result are as they should. -/
def Ensures : Script → (List Act → Except VerbError Unit → Prop) → Prop
  | .done result, post => post [] result
  | .look next, post => ∀ data, (next data).Ensures post
  | .write path v next, post => next.Ensures fun acts => post (.wrote path v :: acts)
  | .call c next, post => ∀ reply, (next reply).Ensures fun acts => post (.called c reply :: acts)

/-! ## Unfolding -/

variable {s s' s'' : Script} {acts acts' : List Act} {result : Except VerbError Unit}

/-- What unfolds in two stretches unfolds in one. -/
theorem Unfolds.trans (u : s.Unfolds acts s') (u' : s'.Unfolds acts' s'') :
    s.Unfolds (acts ++ acts') s'' := by
  induction u' with
  | refl => rwa [List.append_nil]
  | look _ data ih => exact ih.look data
  | write _ ih => simpa using ih.write
  | call _ reply ih => simpa using ih.call reply

/-- **What is left of a script is what some acts leave of it.** -/
theorem reaches_iff : s.Reaches s' ↔ ∃ acts, s.Unfolds acts s' := by
  constructor
  · intro r
    induction r with
    | refl => exact ⟨[], .refl⟩
    | look _ data ih => exact ih.imp fun _ u => u.look data
    | write _ ih => exact ih.elim fun _ u => ⟨_, u.write⟩
    | call _ reply ih => exact ih.elim fun _ u => ⟨_, u.call reply⟩
  · rintro ⟨acts, u⟩
    induction u with
    | refl => exact .refl
    | look _ data ih => exact ih.look data
    | write _ ih => exact ih.write
    | call _ reply ih => exact ih.call reply

/-- What is left of a script ensures its part: the acts that led there are in the books. -/
theorem Unfolds.ensures {post : List Act → Except VerbError Unit → Prop} (u : s.Unfolds acts s')
    (he : s.Ensures post) : s'.Ensures fun acts' => post (acts ++ acts') := by
  induction u with
  | refl => exact he
  | look _ data ih => exact ih data
  | write _ ih => simpa [Ensures] using ih
  | call _ reply ih => simpa [Ensures] using ih reply

/-- **A performance is as the script ensures.** -/
theorem Performs.of_ensures {post : List Act → Except VerbError Unit → Prop}
    (p : s.Performs acts result) (he : s.Ensures post) : post acts result := by
  simpa [Ensures] using Unfolds.ensures p he

/-- A script comes to a result, whatever it sees and is replied. -/
theorem exists_performs (s : Script) (data : Json) (replies : (c : Call) → c.Reply) :
    ∃ acts result, s.Performs acts result ∧ ∀ c reply, .called c reply ∈ acts →
      reply = replies c := by
  induction s with
  | done result => exact ⟨[], result, .refl, nofun⟩
  | look next ih =>
    obtain ⟨acts, result, p, hreplies⟩ := ih data
    exact ⟨acts, result, (Unfolds.refl.look data).trans p, hreplies⟩
  | write path v next ih =>
    obtain ⟨acts, result, p, hreplies⟩ := ih
    refine ⟨_, result, Unfolds.refl.write.trans p, fun c reply h => ?_⟩
    exact hreplies c reply (by simpa using h)
  | call c next ih =>
    obtain ⟨acts, result, p, hreplies⟩ := ih (replies c)
    refine ⟨_, result, (Unfolds.refl.call (replies c)).trans p, fun c' reply h => ?_⟩
    rcases List.mem_cons.1 h with h | h
    · cases h
      rfl
    · exact hreplies c' reply h

/-! ## What the parts of a script ensure -/

variable {α : Type} {post : List Act → Except VerbError Unit → Prop}

/-- A script that goes on with a value ensures what it does with every value that may come. -/
theorem ensures_withValue {x : Except VerbError α} {P : α → Prop} {next : α → Script}
    (hx : Passes x P) (hok : ∀ a, P a → (next a).Ensures post)
    (herror : ∀ err, post [] (.error err)) : (withValue x next).Ensures post := by
  cases x with
  | ok a => exact hok a (hx a rfl)
  | error err => exact herror err

/-- A script that goes on with a reply ensures what it ensures with a value and with an error. -/
theorem ensures_withReply {next : α → Script} {reply : Except HostError α}
    (hok : ∀ a, reply = .ok a → (next a).Ensures post)
    (herror : ∀ err, post [] (.error (.host err))) : (withReply next reply).Ensures post := by
  cases hr : reply with
  | ok a => exact hok a hr
  | error err => exact herror err

end Script

/-! ## The engine performs what it runs -/

/-- What is left of a script where it has got to. -/
def ScriptState.script : ScriptState → Script
  | ended result => .done result
  | calling c next _ => .call c next

/-- The call that is waited for. -/
def ScriptState.pending : ScriptState → List Call
  | ended _ => []
  | calling c _ _ => [c]

variable {σ : Type} {h : Host σ} {now : Nat}

/-- **An engine that runs a script performs it**, up to its end or the call it waits for: it notes
the calls and no more, and writes what the script writes and no more. -/
theorem Engine.runScript_unfolds (s : Script) (e : Engine σ) :
    ∃ acts, s.Unfolds acts (runScript h now s e).1.script
      ∧ (runScript h now s e).2.context = Act.effect acts e.context
      ∧ (runScript h now s e).2.journal = e.journal
        ++ (Act.calls acts ++ (runScript h now s e).1.pending).map .called := by
  induction s generalizing e with
  | done result => exact ⟨[], .refl, rfl, by simp [runScript, ScriptState.pending]⟩
  | look next ih =>
    obtain ⟨acts, u, hc, hj⟩ := ih e.context.data e
    exact ⟨acts, (Script.Unfolds.refl.look _).trans u, hc, hj⟩
  | write path v next ih =>
    obtain ⟨acts, u, hc, hj⟩ := ih (e.onContext (·.set path v))
    exact ⟨.wrote path v :: acts, Script.Unfolds.refl.write.trans u, hc, hj⟩
  | call c next ih =>
    cases hd : h.delay c e.host with
    | zero =>
      rcases hr : h.reply c e.host with ⟨reply, host⟩
      rw [runScript_call_now hd hr]
      obtain ⟨acts, u, hc, hj⟩ := ih reply ((e.note (.called c)).withHost host)
      refine ⟨.called c reply :: acts, (Script.Unfolds.refl.call reply).trans u, hc, ?_⟩
      rw [hj]
      simp [Engine.note, Engine.withHost]
    | succ n =>
      rw [runScript_call_later hd]
      exact ⟨[], .refl, rfl, by simp [Engine.note, ScriptState.pending]⟩

/-- **An attempt that comes to a result has performed its verb's script.** -/
theorem Move.returned_performs {s e ds s' e'} (m : Move h now s e ds s' e') (hs : s.Faithful)
    {d : Dispatch} {x : Execution} {result : Except VerbError Unit}
    (hr : .returned d x result ∈ ds) : ∃ acts, (x.verb x.input).Performs acts result := by
  have of_running {rest} (hf : (Stage.running d rest x (.done result)).Faithful) :
      ∃ acts, (x.verb x.input).Performs acts result :=
    Script.reaches_iff.1 (Stage.faithful_running.1 hf)
  cases m with
  | succeed | retry | backOff | fail =>
    obtain ⟨rfl, rfl, rfl⟩ : d = _ ∧ x = _ ∧ result = _ := by simpa using hr
    exact of_running hs
  | _ => simp at hr

end RemoteScreen
