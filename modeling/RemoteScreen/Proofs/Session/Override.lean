import RemoteScreen.Proofs.Session.Errand

/-!
# Proofs/Session/Override — the override first, the engine then, and one word of a failure

    execute ──▸ job: ├── errand ──┤
    event   ──▸ job: ├── errand ──┤├── errand ──┤     what keeps the value, then what is declared

A job is nothing but the errands of its dispatches, one after the other: each step of it is made of
their strides (`Protocol`).  So **whatever a session is asked to do keeps to the protocol**
(`Job.Course.protocol`), dispatch by dispatch: the override is asked once, and the engine is given
the action once, as it was declared, if the override has not handled it; the hook for errors is
called once, if that comes to nothing (`Protocol.hooks`).
-/

namespace RemoteScreen

variable {σ : Type} {h : Host σ}

/-! ## Strides in a row -/

/-- Strides one after the other, with nothing in between. -/
inductive Joins : Session σ → List (Stride σ) → Session σ → Prop where
  | nil {s} : Joins s [] s
  | cons {s s' ts} {t : Stride σ} (ht : t.before = s) (j : Joins t.after ts s') :
      Joins s (t :: ts) s'

theorem Joins.hooks_eq {s s' : Session σ} {ts : List (Stride σ)} (j : Joins s ts s') :
    s'.hooks = s.hooks ++ ts.flatMap Stride.told := by
  induction j with
  | nil => exact (List.append_nil _).symm
  | @cons s s' ts t ht _ ih =>
    obtain rfl := ht
    rw [ih, t.hooks_eq, List.flatMap_cons, List.append_assoc]

/-- The hooks that are called in some steps. -/
def hooksIn (steps : List (Session σ × Session σ)) : List Record :=
  steps.flatMap fun step => step.2.hooks.drop step.1.hooks.length

/-- Steps of a session, each from what the session is by then, that are made of strides. -/
inductive MadeOf : List (Session σ × Session σ) → List (Stride σ) → Prop where
  | nil : MadeOf [] []
  | step {steps ts s part s'} (m : MadeOf steps ts) (j : Joins s part s') :
      MadeOf (steps ++ [(s, s')]) (ts ++ part)

namespace MadeOf

variable {steps : List (Session σ × Session σ)} {ts part : List (Stride σ)} {s s' : Session σ}

theorem one (j : Joins s part s') : MadeOf [(s, s')] part := .step .nil j

/-- A step in which nothing happens. -/
theorem idle (m : MadeOf steps ts) (s : Session σ) : MadeOf (steps ++ [(s, s)]) ts := by
  have hstep := m.step (.nil (s := s))
  rwa [List.append_nil] at hstep

/-- The hooks called in some steps are those of the strides they are made of. -/
theorem hooksIn_eq (m : MadeOf steps ts) : hooksIn steps = ts.flatMap Stride.told := by
  induction m with
  | nil => rfl
  | step m j ih =>
    rw [hooksIn, List.flatMap_append, List.flatMap_append, ← ih, List.flatMap_singleton]
    rw [j.hooks_eq, List.drop_left]
    rfl

end MadeOf

namespace Stride

variable (s : Session σ)

/-- A dispatch begins. -/
def begins (d : Dispatch) : Stride σ where
  before := s
  after := (s.beginDispatch .session d).2
  told := (s.answer? d).toList.map fun _ => d.offer
  hooks_eq := s.hooks_beginDispatch d

variable {s} {now : Nat} {f f' : Flight} {ds : List Deed} {e' : Engine σ} {result : Landing}

/-- A flight goes on. -/
def goesOn (run : Run h now (.resting f) s.engine ds f' e') : Stride σ where
  before := s
  after := { s with engine := e' }
  told := []
  hooks_eq := (Session.hooks_run run).trans (List.append_nil _).symm

/-- A flight goes on, and lands. -/
def lands (run : Run h now (.resting f) s.engine ds (.landed result) e') : Stride σ where
  before := s
  after := ({ s with engine := e' } : Session σ).tell .session result
  told := complaints result
  hooks_eq := (Session.hooks_tell _ _).trans (congrArg (· ++ _) (Session.hooks_run run))

end Stride

namespace Errand

/-- A dispatch has begun. -/
def begun (s : Session σ) (d : Dispatch) : Errand σ :=
  ⟨d, s.answer? d, [.begins s d], [], .underWay (s.beginDispatch .session d).1⟩

theorem course_begun (s : Session σ) (d : Dispatch) : (begun s d).Course h :=
  .begin d (.begins s d) rfl

end Errand

/-! ## A job is its errands -/

/-- How far a job is that has come to these errands: all but the last one are over. -/
def JobState.After (dispatches : List Dispatch) (heeded : Bool) (errands : List (Errand σ)) :
    JobState → Prop
  | .underWay f rest => dispatches = errands.map Errand.dispatch ++ rest
      ∧ ∃ outcomes : List Landing, errands.map Errand.state
        = outcomes.map ErrandState.ended ++ [ErrandState.underWay f]
  | .ended result => dispatches = errands.map Errand.dispatch
      ∧ ∃ outcomes : List Landing,
        errands.map Errand.state = outcomes.map ErrandState.ended
        ∧ result = if heeded then outcomes.getLast?.getD (.ok ()) else .ok ()

/-- A session has gone on by strides of these errands, which had taken some strides before. -/
structure Errands (h : Host σ) (dispatches : List Dispatch) (heeded : Bool)
    (before : List (Stride σ)) (s : Session σ) (out : JobState × Session σ)
    (errands : List (Errand σ)) (part : List (Stride σ)) : Prop where
  course : ∀ r ∈ errands, r.Course h
  strides : errands.flatMap Errand.strides = before ++ part
  joins : Joins s part out.2
  state : out.1.After dispatches heeded errands

section

variable {dispatches : List Dispatch} {heeded : Bool} {past : List (Errand σ)} {r : Errand σ}

/-- The last errand goes on by a stride. -/
theorem Errands.stride {out : JobState × Session σ} {t : Stride σ} {ds : List Deed}
    {state : ErrandState} (hpast : ∀ x ∈ past, x.Course h) (hr : (r.on t ds state).Course h)
    (ht : t.after = out.2) (hstate : out.1.After dispatches heeded (past ++ [r.on t ds state])) :
    Errands h dispatches heeded ((past ++ [r]).flatMap Errand.strides) t.before out
      (past ++ [r.on t ds state]) [t] where
  course := List.forall_mem_append.2 ⟨hpast, List.forall_mem_singleton.2 hr⟩
  strides := by simp [Errand.on]
  joins := .cons rfl (ht ▸ .nil)
  state := hstate

/-- The last errand ends, the next one begins, and it all goes on from there. -/
theorem Errands.next {out : JobState × Session σ} {t : Stride σ} {ds : List Deed}
    {state : ErrandState} {d : Dispatch} {errands : List (Errand σ)} {part : List (Stride σ)}
    (hall : Errands h dispatches heeded
      ((past ++ [r.on t ds state] ++ [Errand.begun t.after d]).flatMap Errand.strides)
      (t.after.beginDispatch .session d).2 out errands part) :
    Errands h dispatches heeded ((past ++ [r]).flatMap Errand.strides) t.before out errands
      (t :: .begins t.after d :: part) where
  course := hall.course
  strides := by simp [hall.strides, Errand.on, Errand.begun]
  joins := .cons rfl (.cons rfl hall.joins)
  state := hall.state

namespace Session

/-- **A poll of a job is strides of its errands**: their dispatches begin one after the other. -/
theorem Goes.errands {now f rest tr out} {s : Session σ}
    (g : Goes h now .session heeded f rest s tr out) {outcomes : List Landing}
    (hc : ∀ x ∈ past, x.Course h) (hcr : r.Course h)
    (hd : dispatches = past.map Errand.dispatch ++ r.dispatch :: rest)
    (hpast : past.map Errand.state = outcomes.map ErrandState.ended) (hr : r.state = .underWay f) :
    ∃ errands part, Errands h dispatches heeded ((past ++ [r]).flatMap Errand.strides) s out
      errands part := by
  induction g generalizing past r outcomes with
  | waits r' hf =>
    obtain ⟨ds, run⟩ := r'.run
    refine ⟨_, _, .stride (t := .goesOn run) hc (.waits hcr _ hr run hf rfl) rfl ⟨?_, ?_⟩⟩
    · simp [hd, Errand.on]
    · exact ⟨outcomes, by simp [hpast, Errand.on]⟩
  | @ended f tr result e' s r' =>
    obtain ⟨ds, run⟩ := r'.run
    refine ⟨_, _, .stride (t := .lands run) hc (.ends hcr _ hr run rfl) rfl ⟨?_, ?_⟩⟩
    · simp [hd, Errand.on]
    · refine ⟨outcomes ++ [result], by simp [hpast, Errand.on], ?_⟩
      rw [List.getLast?_concat]
      rfl
  | @next f d rest tr result e' s' begun tr' out s r' hs hb g ih =>
    obtain ⟨ds, run⟩ := r'.run
    obtain rfl := hs
    obtain rfl := hb
    let t : Stride σ := .lands run
    have hended : (r.on t ds (.ended result)).Course h := .ends hcr t hr run rfl
    have hcourse : ∀ x ∈ past ++ [r.on t ds (.ended result)], x.Course h :=
      List.forall_mem_append.2 ⟨hc, List.forall_mem_singleton.2 hended⟩
    have hover : (past ++ [r.on t ds (.ended result)]).map Errand.state
        = (outcomes ++ [result]).map ErrandState.ended := by simp [hpast, Errand.on]
    obtain ⟨errands, part, hall⟩ := ih hcourse (Errand.course_begun t.after d)
      (by simp [hd, Errand.on, Errand.begun]) hover rfl
    exact ⟨errands, _, hall.next (t := t)⟩

end Session

end

/-! ## Jobs -/

namespace Job

/-- **The courses of jobs** that go through the session, with each step that the session makes for
them: an action is executed, or an event reaches a handler that is bound to something; and the job
is polled now and then, in whatever state the session is by then. -/
inductive Course (h : Host σ) :
    List Dispatch → Bool → List (Session σ × Session σ) → Job → Prop where
  | execute (d : Dispatch) (s : Session σ) :
      Course h [d] true [(s, (s.beginJob .session true [d]).2)] (s.beginJob .session true [d]).1
  | event (b : Binding) (value : Option Json) (s : Session σ) :
      Course h ((Handler.bound b).dispatches value) ((Handler.bound b).heeds value)
        [(s, (s.beginHandler (.bound b) value).2)] (s.beginHandler (.bound b) value).1
  | poll {dispatches heeded steps j} (c : Course h dispatches heeded steps j) (now : Nat)
      (s : Session σ) :
      Course h dispatches heeded (steps ++ [(s, (j.poll h now s).2)]) (j.poll h now s).1

end Job

/-- **The protocol of a job**: its steps are the strides of its errands, one errand after the other,
and each of these keeps to the protocol of its dispatch. -/
structure Protocol (h : Host σ) (dispatches : List Dispatch) (heeded : Bool)
    (steps : List (Session σ × Session σ)) (state : JobState) (errands : List (Errand σ)) :
    Prop where
  course : ∀ r ∈ errands, r.Course h
  lawful : ∀ r ∈ errands, r.Lawful h
  strides : MadeOf steps (errands.flatMap Errand.strides)
  state : state.After dispatches heeded errands

/-- **The hooks that a job calls**: for each dispatch in turn, the override is asked, if there is
one, and the failure is told, if the dispatch has failed. -/
theorem Protocol.hooks {dispatches : List Dispatch} {heeded : Bool}
    {steps : List (Session σ × Session σ)} {state : JobState} {errands : List (Errand σ)}
    (p : Protocol h dispatches heeded steps state errands) :
    hooksIn steps = errands.flatMap fun r =>
      (r.answer.toList.map fun _ => r.dispatch.offer) ++ r.state.complaints := by
  rw [p.strides.hooksIn_eq, List.flatMap_assoc]
  exact List.flatMap_congr fun r hr => (p.lawful r hr).hooks

/-- **A job that begins keeps the protocol.** -/
theorem Session.protocol_beginJob (h : Host σ) (s : Session σ) (heeded : Bool)
    (dispatches : List Dispatch) :
    ∃ errands, Protocol h dispatches heeded [(s, (s.beginJob .session heeded dispatches).2)]
      (s.beginJob .session heeded dispatches).1.state errands := by
  cases dispatches with
  | nil =>
    have hresult : (.ok () : Landing) = if heeded then .ok () else .ok () := (ite_self _).symm
    exact ⟨[], ⟨by simp, by simp, .one .nil, rfl, [], rfl, hresult⟩⟩
  | cons d rest =>
    have hc : ∀ r ∈ [Errand.begun s d], r.Course h :=
      List.forall_mem_singleton.2 (Errand.course_begun s d)
    have hjoins : Joins s [.begins s d] (s.beginDispatch .session d).2 := .cons rfl .nil
    exact ⟨[.begun s d], ⟨hc, fun r hr => (hc r hr).lawful, .one hjoins, rfl, [], rfl⟩⟩

namespace Job

variable {dispatches : List Dispatch} {heeded : Bool} {steps : List (Session σ × Session σ)}
  {j : Job}

theorem Course.door_heeded (c : Course h dispatches heeded steps j) :
    j.door = .session ∧ j.heeded = heeded := by
  have hbegin (s : Session σ) (heeded : Bool) (dispatches : List Dispatch) :
      (s.beginJob .session heeded dispatches).1.door = .session
        ∧ (s.beginJob .session heeded dispatches).1.heeded = heeded := by
    cases dispatches <;> exact ⟨rfl, rfl⟩
  induction c with
  | execute d s => exact hbegin s true [d]
  | event b value s => exact hbegin s _ _
  | @poll dispatches heeded steps j c now s ih =>
    rw [Job.poll]
    cases j.state <;> exact ih

/-- **Whatever a session is asked to do keeps to the protocol**, dispatch by dispatch. -/
theorem Course.protocol (c : Course h dispatches heeded steps j) :
    ∃ errands, Protocol h dispatches heeded steps j.state errands := by
  induction c with
  | execute d s => exact s.protocol_beginJob h true [d]
  | event b value s => exact s.protocol_beginJob h _ _
  | @poll dispatches heeded steps j c now s ih =>
    obtain ⟨errands, p⟩ := ih
    obtain ⟨hdoor, hheeded⟩ := c.door_heeded
    have hstate := p.state
    rw [Job.poll]
    cases hj : j.state with
    | ended result =>
      exact ⟨errands, p.course, p.lawful, p.strides.idle s, hstate⟩
    | underWay f rest =>
      rw [hj] at hstate
      obtain ⟨hd, outcomes, hstates⟩ := hstate
      obtain ⟨past, last, rfl, hpast, hlast⟩ := List.map_eq_append_iff.1 hstates
      obtain ⟨r, rfl, hr⟩ := List.map_eq_singleton_iff.1 hlast
      obtain ⟨hcpast, hcr⟩ := List.forall_mem_append.1 p.course
      obtain ⟨tr, g⟩ := Session.goes_pollFlight h now .session heeded f rest s
      obtain ⟨errands, part, hall⟩ :=
        g.errands hcpast (List.forall_mem_singleton.1 hcr) (by simpa using hd) hpast hr
      rw [hdoor, hheeded]
      refine ⟨errands, hall.course, fun r hr => (hall.course r hr).lawful, ?_, hall.state⟩
      exact hall.strides ▸ p.strides.step hall.joins

end Job

/-! ## A host that keeps values itself -/

/-- A session whose host keeps values itself. -/
def keepingValues : Session Store :=
  { keepingSecret with
    override := some fun a _ => if a.type = "updateState" then .handled else .declined }

/-- What a field does whose action nobody knows. -/
def strayBinding : Binding := { phoneBinding with declared := some { type := "teleport" } }

/-- What is typed is kept; the action has failed, and is told of once. -/
theorem protocol_stray : ∃ (dispatches : List Dispatch)
    (steps : List (Session Store × Session Store)) (j : Job) (errands : List (Errand Store)),
    Job.Course Console.host dispatches true steps j
      ∧ Protocol Console.host dispatches true steps j.state errands
      ∧ j.result? = some (.error (.unknownVerb "teleport"))
      ∧ hooksIn steps =
        [ .offered { InputMeaning.phone.stateUpdate (some "phone") with
            payload := [("key", .str "phoneNumber"), ("value", .str "555")] } none,
          .offered { type := "teleport", payload := [("value", .str "555")] } none,
          .actionFailed (.unknownVerb "teleport") ] := by
  let begun := keepingValues.beginHandler (.bound strayBinding) (some (.str "555"))
  have c : Job.Course Console.host _ _ _ begun.1 := .event strayBinding _ keepingValues
  have c' := c.poll 0 begun.2
  obtain ⟨errands, p⟩ := c'.protocol
  exact ⟨_, _, _, errands, c', p, rfl, rfl⟩

end RemoteScreen
