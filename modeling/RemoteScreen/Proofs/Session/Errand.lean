import RemoteScreen.Proofs.Engine.Chain
import RemoteScreen.Proofs.Session.Trigger

/-!
# Proofs/Session/Errand — a dispatch through the session, from its begin to its end

    begin ──override: handled─────────────────────────────────▸ over, ok
      └────override: declined, broken, or none──▸ flight ──▸ over, result ──▸ told, if it failed

A session offers a dispatch to the override, runs what that does not handle, and tells of a failure.
The way of one dispatch is an **errand**: the **strides** in which the session goes on by it, each
from a state that it may find changed in any way, and the deeds of its flight.

* `Move.hooks` — a flight by itself calls none of the hooks of a session;
* `Errand.Course.lawful` — **every errand keeps to the protocol**, whatever goes on between its
  strides.
-/

namespace RemoteScreen

variable {σ : Type} {h : Host σ} {now : Nat}

/-! ## Hooks -/

/-- A hook of the session was called: the override, or the one that is told of failed actions. -/
def Record.isHook : Record → Bool
  | offered _ _ | actionFailed _ => true
  | called _ | performance _ _ _ _ | renderFailed _ | built _ _ => false

namespace Engine

/-- The calls of hooks, in order. -/
def hooks (e : Engine σ) : List Record := e.journal.filter Record.isHook

variable (e : Engine σ) (d : Dispatch)

theorem hooks_note_of_hook {r : Record} (hr : r.isHook = true) :
    (e.note r).hooks = e.hooks ++ [r] := by
  simp [hooks, note, hr]

/-- A record that is no hook's leaves the hooks alone. -/
theorem hooks_note {r : Record} (hr : r.isHook = false) : (e.note r).hooks = e.hooks := by
  simp [hooks, note, hr]

@[simp] theorem hooks_publish (event : Event) : (e.publish event).hooks = e.hooks := by
  rw [publish]
  split <;> rfl

@[simp] theorem hooks_skip (reason : SkipReason) : (e.skip d reason).hooks = e.hooks :=
  hooks_publish e _

@[simp] theorem hooks_count (f : Metrics → Metrics) : (e.count f).hooks = e.hooks := rfl

@[simp] theorem hooks_mark : (e.mark d).hooks = e.hooks := rfl

@[simp] theorem hooks_unmark : (e.unmark d).hooks = e.hooks := rfl

@[simp] theorem hooks_withHost (host : σ) : (e.withHost host).hooks = e.hooks := rfl

@[simp] theorem hooks_counted : (e.counted now d).hooks = e.hooks := rfl

@[simp] theorem hooks_measure (a : Action) (duration : Nat) (success : Bool) :
    (e.measure a duration success).hooks = e.hooks := hooks_note _ rfl

@[simp] theorem hooks_called (c : Call) : (e.note (.called c)).hooks = e.hooks := hooks_note e rfl

@[simp] theorem hooks_report (a : Action) (duration : Nat) :
    (e.report h a duration).hooks = e.hooks := by
  rw [report]
  split
  · rfl
  · exact hooks_called e _

@[simp] theorem hooks_retried (x : Execution) : (e.retried d x).hooks = e.hooks :=
  hooks_publish _ _

@[simp] theorem hooks_begun (verb : Verb) : (e.begun h now d verb).2.hooks = e.hooks :=
  hooks_publish _ _

/-- Settling an attempt calls no hook. -/
@[simp] theorem hooks_settle (x : Execution) (result : Except VerbError Unit) :
    (settle h now d x result e).2.hooks = e.hooks := by
  cases result <;> simp [settle]

end Engine

/-- **A move calls no hook.** -/
theorem Move.hooks {s e ds s' e'} (m : Move h now s e ds s' e') : e'.hooks = e.hooks := by
  cases m with
  | begin _ _ hb =>
    obtain rfl := congrArg Prod.snd hb
    exact Engine.hooks_begun _ _ _
  | write => rfl
  | _ => simp

/-- **A run of moves calls no hook of the session.** -/
theorem Run.hooks {s e ds f e'} (r : Run h now s e ds f e') : e'.hooks = e.hooks := by
  induction r with
  | rest => rfl
  | move m _ ih => exact ih.trans m.hooks

/-! ## Strides -/

/-- The override is asked about a dispatch. -/
def Dispatch.offer (d : Dispatch) : Record := .offered d.raw d.overlay

namespace Session

/-- The calls of hooks, in order. -/
def hooks (s : Session σ) : List Record := s.engine.hooks

/-- What the override answers to a dispatch, if there is one. -/
def answer? (s : Session σ) (d : Dispatch) : Option OverrideAnswer :=
  s.override.map fun ask => ask d.raw d.overlay

variable (s : Session σ) (d : Dispatch)

/-- **What is handled is over; anything else is the engine's**, as it was declared. -/
theorem beginDispatch_flight : (s.beginDispatch .session d).1
    = if s.answer? d = some .handled then .landed (.ok ()) else .ofDispatch d := by
  rw [beginDispatch.eq_def, answer?]
  cases s.override with
  | none => rfl
  | some ask =>
    simp only [Option.map_some, Option.some.injEq]
    cases ask d.raw d.overlay <;> rfl

/-- An override is asked, and nothing else is done. -/
theorem beginDispatch_session : (s.beginDispatch .session d).2
    = if (s.answer? d).isSome then s.note d.offer else s := by
  rw [beginDispatch.eq_def, answer?]
  cases s.override with
  | none => rfl
  | some ask =>
    simp only [Option.map_some]
    cases ask d.raw d.overlay <;> rfl

end Session

/-- What is told of the outcome of a dispatch. -/
def complaints : Landing → List Record
  | .ok () => []
  | .error e => [.actionFailed e]

/-- A session goes on by itself, and calls these hooks. -/
structure Stride (σ : Type) where
  before : Session σ
  after : Session σ
  told : List Record
  hooks_eq : after.hooks = before.hooks ++ told

namespace Stride

/-- The session goes on in its journal alone. -/
def Quiet (t : Stride σ) : Prop :=
  ∃ journal, t.after = t.before.onEngine fun e => { e with journal }

theorem told_eq {t : Stride σ} {told : List Record} (ht : t.after.hooks = t.before.hooks ++ told) :
    t.told = told := List.append_cancel_left (t.hooks_eq.symm.trans ht)

end Stride

namespace Session

/-- Beginning a dispatch asks the override, if there is one. -/
theorem hooks_beginDispatch (s : Session σ) (d : Dispatch) :
    (s.beginDispatch .session d).2.hooks
      = s.hooks ++ (s.answer? d).toList.map fun _ => d.offer := by
  rw [beginDispatch_session]
  cases s.answer? d with
  | none => exact (List.append_nil _).symm
  | some _ => exact Engine.hooks_note_of_hook _ rfl

/-- Telling a landing complains of an error, and of nothing else. -/
theorem hooks_tell (s : Session σ) (result : Landing) :
    (s.tell .session result).hooks = s.hooks ++ complaints result := by
  cases result with
  | ok => exact (List.append_nil _).symm
  | error e => exact Engine.hooks_note_of_hook _ rfl

/-- The session goes on by a flight, which calls no hook. -/
theorem hooks_run {s : Session σ} {f ds f' e'} (r : Run h now (.resting f) s.engine ds f' e') :
    ({ s with engine := e' } : Session σ).hooks = s.hooks := r.hooks

end Session

/-! ## Errands -/

/-- How far a dispatch is. -/
inductive ErrandState where
  | underWay (f : Flight)
  | ended (result : Landing)

/-- The way of a dispatch: what the override, if there is one, has answered, the strides so far with
the deeds of the flight in them, and how far it is. -/
structure Errand (σ : Type) where
  dispatch : Dispatch
  answer : Option OverrideAnswer
  strides : List (Stride σ)
  deeds : List Deed
  state : ErrandState

namespace Errand

/-- The errand after one more stride. -/
def on (r : Errand σ) (t : Stride σ) (ds : List Deed) (state : ErrandState) : Errand σ :=
  { r with strides := r.strides ++ [t], deeds := r.deeds ++ ds, state }

/-- **The courses of errands.**  A dispatch is begun, and its flight is polled now and then, in
whatever state the session is by then, until it has landed. -/
inductive Course (h : Host σ) : Errand σ → Prop where
  | begin (d : Dispatch) (t : Stride σ) {f}
      (hb : t.before.beginDispatch .session d = (f, t.after)) :
      Course h ⟨d, t.before.answer? d, [t], [], .underWay f⟩
  | waits {r : Errand σ} (c : Course h r) {f now ds f' e'} (t : Stride σ)
      (hr : r.state = .underWay f) (run : Run h now (.resting f) t.before.engine ds f' e')
      (hf : ∀ result, f' ≠ .landed result) (ht : t.after = { t.before with engine := e' }) :
      Course h (r.on t ds (.underWay f'))
  | ends {r : Errand σ} (c : Course h r) {f now ds result e'} (t : Stride σ)
      (hr : r.state = .underWay f)
      (run : Run h now (.resting f) t.before.engine ds (.landed result) e')
      (ht : t.after = ({ t.before with engine := e' } : Session σ).tell .session result) :
      Course h (r.on t ds (.ended result))

end Errand

/-! ## The protocol -/

/-- **What the engine does with a dispatch that it is given**, by a log of links. -/
structure Served (σ : Type) (d : Dispatch) (log : Log) (result : Landing) : Prop where
  /-- It is given the dispatch itself, with the action as it was declared. -/
  given : d.links.head? = some d ∧ log.head?.map Prod.fst = some d
  /-- Whatever else it dispatches stands in for that, one action after the other. -/
  dispatched : log.map Prod.fst <+: d.links
  chain : Chain (fun _ : Engine σ => True) d.links log result

namespace ErrandState

/-- What is told at the end. -/
def complaints : ErrandState → List Record
  | underWay _ => []
  | ended result => RemoteScreen.complaints result

/-- The engine serves the dispatch: it will, whatever goes on, or has done so. -/
def Serves (h : Host σ) (d : Dispatch) (deeds : List Deed) : ErrandState → Prop
  | underWay f => f.Lands h (fun _ => True)
      (fun deeds result => ∃ log, deeds = Log.deeds log ∧ Served σ d log result) deeds
  | ended result => ∃ log, deeds = Log.deeds log ∧ Served σ d log result

end ErrandState

/-- **The protocol of a dispatch.** -/
structure Errand.Lawful (h : Host σ) (r : Errand σ) : Prop where
  /-- An override is asked once, about the action with the value entered; and a failure is told
  once, when it is the outcome of all. -/
  hooks : r.strides.flatMap Stride.told
    = (r.answer.toList.map fun _ => r.dispatch.offer) ++ r.state.complaints
  /-- Where the override handles the action, the outcome is that all is well, and nothing else has
  gone on. -/
  handled : r.answer = some .handled → r.deeds = []
    ∧ (r.state = .underWay (.landed (.ok ())) ∨ r.state = .ended (.ok ()))
    ∧ ∀ t ∈ r.strides, t.Quiet
  /-- Where it does not, or where there is none, the engine serves the dispatch. -/
  passed : r.answer ≠ some .handled → r.state.Serves h r.dispatch r.deeds

theorem Dispatch.head?_links (d : Dispatch) : d.links.head? = some d := by
  have hself (a : Action) : a.inheritComponent none = a := by
    obtain ⟨_, _, _, _, _, _, _, _, own⟩ := a
    cases own <;> rfl
  obtain ⟨⟨_, _, _, _, _, _, _, _, _⟩, overlay, input⟩ := d
  rw [links, linksFrom.eq_def]
  exact congrArg (fun a => some ({ action := a, overlay, input } : Dispatch)) (hself _)

theorem Chain.dispatched {env : Engine σ → Prop} {links : List Dispatch} {log : Log}
    {result : Landing} (c : Chain env links log result) :
    log.map Prod.fst <+: links ∧ log.head?.map Prod.fst = links.head? := by
  induction c with
  | skipped | unknown | succeeded => exact ⟨by simp, rfl⟩
  | failed => exact ⟨by simp, rfl⟩
  | handedOver _ _ _ ih => exact ⟨by simpa using ih.1, rfl⟩

theorem Chain.served {d : Dispatch} {log : Log} {result : Landing}
    (c : Chain (fun _ : Engine σ => True) d.links log result) : Served σ d log result where
  given := ⟨d.head?_links, c.dispatched.2.trans d.head?_links⟩
  dispatched := c.dispatched.1
  chain := c

namespace Errand

theorem lawful_begin (d : Dispatch) (t : Stride σ)
    (ht : t.after = (t.before.beginDispatch .session d).2) :
    Lawful h ⟨d, t.before.answer? d, [t], [],
      .underWay (t.before.beginDispatch .session d).1⟩ where
  hooks := by
    have htold := t.told_eq (ht ▸ t.before.hooks_beginDispatch d)
    simp [htold, ErrandState.complaints]
  handled hanswer := by
    refine ⟨rfl, .inl ?_, fun t' ht' => ?_⟩
    · rw [Session.beginDispatch_flight, if_pos hanswer]
    · obtain rfl := List.mem_singleton.1 ht'
      rw [Session.beginDispatch_session, if_pos (Option.isSome_iff_exists.2 ⟨_, hanswer⟩)] at ht
      exact ⟨_, ht⟩
  passed hanswer := by
    rw [Session.beginDispatch_flight, if_neg hanswer]
    refine Flight.Lands.imp ?_ (Flight.lands_chain kept_true d)
    rintro deeds result ⟨log, rfl, c⟩
    exact ⟨log, rfl, c.served⟩

/-- **What is handled has nothing to wait for**: its flight does nothing, and lands. -/
theorem Lawful.run_handled {r : Errand σ} (hr : r.Lawful h) (hanswer : r.answer = some .handled)
    {f : Flight} (hf : r.state = .underWay f) {e ds f' e'}
    (run : Run h now (.resting f) e ds f' e') : ds = [] ∧ f' = .landed (.ok ()) ∧ e' = e := by
  obtain ⟨-, hstate | hstate, -⟩ := hr.handled hanswer
  · obtain rfl := ErrandState.underWay.inj (hf.symm.trans hstate)
    obtain ⟨hds, hf', he⟩ := run.unique (.rest (Flight.waits_landed _))
    exact ⟨hds, hf', he⟩
  · rw [hf] at hstate
    cases hstate

/-- What the engine serves it goes on to serve. -/
theorem Lawful.run_passed {r : Errand σ} (hr : r.Lawful h) (hanswer : r.answer ≠ some .handled)
    {f : Flight} (hf : r.state = .underWay f) {e ds f' e'}
    (run : Run h now (.resting f) e ds f' e') :
    (ErrandState.underWay f').Serves h r.dispatch (r.deeds ++ ds) := by
  have hserves := hr.passed hanswer
  rw [hf] at hserves
  exact Flight.Lands.settles hserves now e ds f' e' trivial run

/-- **Along its course an errand is lawful.** -/
theorem Course.lawful {r : Errand σ} (c : Course h r) : r.Lawful h := by
  induction c with
  | begin d t hb =>
    obtain rfl := congrArg Prod.fst hb
    exact lawful_begin d t (congrArg Prod.snd hb).symm
  | @waits r c f now ds f' e' t hr run hf ht ih =>
    have htold : t.told = [] := t.told_eq (by rw [ht, Session.hooks_run run, List.append_nil])
    refine ⟨?_, fun hanswer => ?_, fun hanswer => ih.run_passed hanswer hr run⟩
    · have hhooks := ih.hooks
      rw [hr] at hhooks
      simp [on, htold, hhooks, ErrandState.complaints]
    · exact absurd (ih.run_handled hanswer hr run).2.1 (hf _)
  | @ends r c f now ds result e' t hr run ht ih =>
    have htold : t.told = complaints result :=
      t.told_eq (by rw [ht, Session.hooks_tell, Session.hooks_run run])
    refine ⟨?_, fun hanswer => ?_, fun hanswer => ?_⟩
    · have hhooks := ih.hooks
      rw [hr] at hhooks
      simp [on, htold, hhooks, ErrandState.complaints]
    · obtain ⟨rfl, hresult, rfl⟩ := ih.run_handled hanswer hr run
      obtain rfl := Flight.landed.inj hresult
      obtain ⟨hdeeds, -, hquiet⟩ := ih.handled hanswer
      refine ⟨by simp [on, hdeeds], .inr rfl, fun t' ht' => ?_⟩
      rcases List.mem_append.1 ht' with ht' | ht'
      · exact hquiet t' ht'
      · obtain rfl := List.mem_singleton.1 ht'
        exact ⟨_, ht⟩
    · cases ih.run_passed hanswer hr run with
      | landed hserved => exact hserved
      | waits hw => cases hw

end Errand

end RemoteScreen
