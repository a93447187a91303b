import Mathlib.Data.List.Basic
import RemoteScreen.Element.Trigger
import RemoteScreen.Proofs.Session.Typed

/-!
# Proofs/Session/Trigger — an event does in a session what it does with a sink

    session:  event ──▸ job ──▸ flight ──lands──▸ flight ──lands──▸ ended
    sink:     event ──▸ fire ─────────outcome────────────outcome──▸ outcome

In a session the handler of an event begins a job, and the job goes on whenever it is polled, with
anything going on in between.  **When it has ended, it has done what the handler does with a sink**
that answers as the flights of the job have landed (`Handler.Story.fire_eq`).
-/

namespace RemoteScreen

variable {σ : Type} {h : Host σ}

/-- What the flight of a dispatch lands with. -/
abbrev Landing := Except ActionError Unit

/-- A sink that has its answers ready, and notes the dispatches. -/
def Sink.replay : Sink ActionError (List Landing × List Dispatch) := fun d t =>
  (t.1.headD (.ok ()), t.1.tail, t.2 ++ [d])

namespace Session

/-- The outcomes of the flights that land while a job is polled, in order. -/
def landings (h : Host σ) (now : Nat) (door : Door) (f : Flight) (rest : List Dispatch)
    (s : Session σ) : List Landing :=
  match rest with
  | [] =>
    match f.poll h now s.engine with
    | (.landed result, _) => [result]
    | _ => []
  | d :: rest =>
    match f.poll h now s.engine with
    | (.landed result, engine) =>
      let (f, s) := ({ s with engine }.tell door result).beginDispatch door d
      result :: landings h now door f rest s
    | _ => []

end Session

/-- So many of the dispatches of a job have ended, with these outcomes, and the others are left. -/
def JobState.Past (dispatches : List Dispatch) (heeded : Bool) (outcomes : List Landing) :
    JobState → Prop
  | .underWay _ rest => ∃ past d, dispatches = past ++ d :: rest ∧ outcomes.length = past.length
  | .ended result => outcomes.length = dispatches.length
      ∧ result = if heeded then outcomes.getLast?.getD (.ok ()) else .ok ()

namespace Session

variable {dispatches : List Dispatch}

/-- **A poll of a job ends its dispatches one after the other**, however each of them ends. -/
theorem past_pollFlight (now : Nat) (door : Door) (heeded : Bool) (f : Flight)
    {rest : List Dispatch} (s : Session σ) {outcomes : List Landing} {past : List Dispatch}
    {d : Dispatch} (hd : dispatches = past ++ d :: rest) (hpast : outcomes.length = past.length) :
    (pollFlight h now door heeded f rest s).1.Past dispatches heeded
      (outcomes ++ landings h now door f rest s) := by
  induction rest generalizing f s outcomes past d with
  | nil =>
    rw [pollFlight, landings]
    rcases f.poll h now s.engine with ⟨f', engine⟩
    cases f' with
    | landed result =>
      refine ⟨by simp [hd, hpast], ?_⟩
      rw [List.getLast?_concat]
      rfl
    | arriving | debouncing | calling | backingOff =>
      rw [List.append_nil]
      exact ⟨past, d, hd, hpast⟩
  | cons d' rest ih =>
    rw [pollFlight, landings]
    rcases f.poll h now s.engine with ⟨f', engine⟩
    cases f' with
    | landed result =>
      have hnext : dispatches = (past ++ [d]) ++ d' :: rest := by simp [hd]
      have hended : (outcomes ++ [result]).length = (past ++ [d]).length := by simp [hpast]
      have hall := ih ((({ s with engine } : Session σ).tell door result).beginDispatch door d').1
        ((({ s with engine } : Session σ).tell door result).beginDispatch door d').2 hnext hended
      rw [List.append_assoc] at hall
      exact hall
    | arriving | debouncing | calling | backingOff =>
      rw [List.append_nil]
      exact ⟨past, d, hd, hpast⟩

/-- A job that begins heeds its handler, and has all its dispatches before it. -/
theorem past_beginJob (s : Session σ) (door : Door) (heeded : Bool) (dispatches : List Dispatch) :
    (s.beginJob door heeded dispatches).1.heeded = heeded
      ∧ (s.beginJob door heeded dispatches).1.state.Past dispatches heeded [] := by
  cases dispatches with
  | nil => exact ⟨rfl, rfl, by cases heeded <;> rfl⟩
  | cons d rest => exact ⟨rfl, [], d, rfl, rfl⟩

end Session

/-- The outcomes of the flights of a job that land in a poll. -/
def Job.landings (h : Host σ) (now : Nat) (j : Job) (s : Session σ) : List Landing :=
  match j.state with
  | .underWay f rest => Session.landings h now j.door f rest s
  | .ended _ => []

namespace Handler

/-- The outcome of the job counts: that of the declared action, if there is one. -/
def heeds (value : Option Json) : Handler → Bool
  | .bound b => (b.main value).isSome
  | .inert | .resetBoundary => true

/-- **What comes of an event in a session**: its handler begins a job, which is polled now and then,
in whatever state the session is by then.  The outcomes are those of the flights that have
landed. -/
inductive Story (h : Host σ) (handler : Handler) (value : Option Json) :
    List Landing → Job → Prop where
  | begin (s : Session σ) : Story h handler value [] (s.beginHandler handler value).1
  | poll {outcomes j} (c : Story h handler value outcomes j) (now : Nat) (s : Session σ) :
      Story h handler value (outcomes ++ j.landings h now s) (j.poll h now s).1

variable {handler : Handler} {value : Option Json} {outcomes : List Landing} {j : Job}

/-- **A story has come as far in what its handler dispatches as it has outcomes.** -/
theorem Story.past (c : Story h handler value outcomes j) :
    j.heeded = handler.heeds value
      ∧ j.state.Past (handler.dispatches value) (handler.heeds value) outcomes := by
  induction c with
  | begin s =>
    cases handler with
    | inert => exact s.past_beginJob .session true []
    | resetBoundary => exact s.resetBoundary.past_beginJob .session true []
    | bound b => exact s.past_beginJob .session _ _
  | @poll outcomes j c now s ih =>
    obtain ⟨hheeded, hpast⟩ := ih
    rw [Job.poll, Job.landings]
    cases hstate : j.state with
    | underWay f rest =>
      rw [hstate] at hpast
      obtain ⟨past, d, hd, hlength⟩ := hpast
      exact ⟨hheeded, hheeded ▸ Session.past_pollFlight now j.door j.heeded f s hd hlength⟩
    | ended result =>
      rw [List.append_nil, hstate]
      exact ⟨hheeded, hstate ▸ hpast⟩

/-- **What a handler does in a session is what it does with a sink** that answers as the flights of
its job have landed. -/
theorem Story.fire_eq (c : Story h handler value outcomes j) {result : Landing}
    (hj : j.result? = some result) :
    handler.fire (fun _ => Sink.replay) value (outcomes, [])
      = (result, [], handler.dispatches value) := by
  obtain ⟨-, hpast⟩ := c.past
  rw [Job.result?] at hj
  cases hstate : j.state with
  | underWay f rest =>
    rw [hstate] at hj
    cases hj
  | ended result' =>
    rw [hstate] at hj hpast
    obtain rfl := Option.some.inj hj
    obtain ⟨hlength, hresult⟩ := hpast
    cases handler with
    | inert | resetBoundary =>
      obtain rfl := List.length_eq_zero_iff.1 hlength
      rw [hresult]
      rfl
    | bound b =>
      rw [dispatches] at hlength ⊢
      rw [heeds] at hresult
      rw [hresult, fire]
      cases hecho : b.echo value <;> cases hmain : b.main value <;> rw [hecho, hmain] at hlength
      · obtain rfl := List.length_eq_zero_iff.1 hlength
        rfl
      · obtain ⟨r, rfl⟩ := List.length_eq_one_iff.1 hlength
        rfl
      · obtain ⟨r, rfl⟩ := List.length_eq_one_iff.1 hlength
        rfl
      · obtain ⟨r, r', rfl⟩ := List.length_eq_two.1 hlength
        rfl

end Handler

end RemoteScreen
