import RemoteScreen.Proofs.Context
import RemoteScreen.Proofs.Engine.Move

/-!
# Proofs/Engine/Told — what only tells, and what else a move can change

Most of what an engine does only tells others of it: the journal, the counts, the events and the
host go on, and all that decides what the engine does next stays (`Engine.Told`).  What is left of a
move is little: it registers no verb, and it changes the shared data only by writes (`Move.acts`).
-/

namespace RemoteScreen

variable {σ : Type} {h : Host σ} {now : Nat}

/-- Others have been told; what the engine goes by has stayed. -/
structure Engine.Told (e e' : Engine σ) : Prop where
  verbs : e'.verbs = e.verbs
  patterns : e'.patterns = e.patterns
  config : e'.config = e.config
  context : e'.context = e.context
  inFlight : e'.inFlight = e.inFlight
  lastRun : e'.lastRun = e.lastRun
  runs : e'.runs = e.runs

namespace Engine

theorem Told.refl (e : Engine σ) : e.Told e := ⟨rfl, rfl, rfl, rfl, rfl, rfl, rfl⟩

theorem Told.trans {e₁ e₂ e₃ : Engine σ} (h₁ : e₁.Told e₂) (h₂ : e₂.Told e₃) : e₁.Told e₃ :=
  ⟨h₂.verbs.trans h₁.verbs, h₂.patterns.trans h₁.patterns, h₂.config.trans h₁.config,
    h₂.context.trans h₁.context, h₂.inFlight.trans h₁.inFlight, h₂.lastRun.trans h₁.lastRun,
    h₂.runs.trans h₁.runs⟩

/-- A record in the journal is only told. -/
theorem told_note (e : Engine σ) (r : Record) : e.Told (e.note r) :=
  ⟨rfl, rfl, rfl, rfl, rfl, rfl, rfl⟩

theorem told_count (e : Engine σ) (f : Metrics → Metrics) : e.Told (e.count f) :=
  ⟨rfl, rfl, rfl, rfl, rfl, rfl, rfl⟩

theorem told_withHost (e : Engine σ) (host : σ) : e.Told (e.withHost host) :=
  ⟨rfl, rfl, rfl, rfl, rfl, rfl, rfl⟩

/-- An event changes nothing the engine goes by, heard or not. -/
theorem told_publish (e : Engine σ) (event : Event) : e.Told (e.publish event) := by
  rw [publish]
  split
  · exact ⟨rfl, rfl, rfl, rfl, rfl, rfl, rfl⟩
  · exact .refl e

theorem told_skip (e : Engine σ) (d : Dispatch) (reason : SkipReason) : e.Told (e.skip d reason) :=
  told_publish e _

theorem told_measure (e : Engine σ) (a : Action) (duration : Nat) (success : Bool) :
    e.Told (e.measure a duration success) := (told_count e _).trans (told_note _ _)

theorem told_callAtOnce (e : Engine σ) (c : Call) : e.Told (e.callAtOnce h c) :=
  (told_note e (.called c)).trans (told_withHost _ _)

theorem told_report (e : Engine σ) (a : Action) (duration : Nat) :
    e.Told (e.report h a duration) := by
  rw [report]
  split
  · exact .refl e
  · exact told_callAtOnce e _

theorem told_retried (e : Engine σ) (d : Dispatch) (x : Execution) : e.Told (e.retried d x) :=
  (told_count e _).trans (told_publish _ _)

variable (h now) in
/-- **However an execution ends, others are told, and its marker goes.** -/
theorem settle_eq_unmark (e : Engine σ) (d : Dispatch) (x : Execution)
    (result : Except VerbError Unit) :
    ∃ e', e.Told e' ∧ (settle h now d x result e).2 = e'.unmark d := by
  have hended (success : Bool) (f : Metrics → Metrics) (event : Event) :
      e.Told (((e.measure d.action (now - x.started) success).count f).publish event) :=
    ((told_measure e _ _ _).trans (told_count _ _)).trans (told_publish _ _)
  cases result with
  | ok => exact ⟨_, (hended _ _ _).trans (told_report _ _ _), rfl⟩
  | error err => exact ⟨_, hended _ _ _, rfl⟩

/-- A beginning is told, after the execution has got its number. -/
theorem told_begun (e : Engine σ) (d : Dispatch) (verb : Verb) :
    Told { e.counted now d with runs := e.runs + 1 } (e.begun h now d verb).2 :=
  told_publish _ _

end Engine

/-! ## Moves -/

/-- What acting leaves of an engine: its verbs, what patterns mean to it, its settings, and the data
but for writes to it. -/
structure Engine.Acts (e e' : Engine σ) : Prop where
  verbs : e'.verbs = e.verbs
  patterns : e'.patterns = e.patterns
  config : e'.config = e.config
  context : Context.Writes e.context e'.context

namespace Engine

/-- An engine that only tells acts, as far as it goes. -/
theorem Told.acts {e e' : Engine σ} (t : e.Told e') : e.Acts e' :=
  ⟨t.verbs, t.patterns, t.config, t.context ▸ .refl⟩

theorem Acts.refl (e : Engine σ) : e.Acts e := (Told.refl e).acts

theorem Acts.trans {e₁ e₂ e₃ : Engine σ} (h₁ : e₁.Acts e₂) (h₂ : e₂.Acts e₃) : e₁.Acts e₃ :=
  ⟨h₂.verbs.trans h₁.verbs, h₂.patterns.trans h₁.patterns, h₂.config.trans h₁.config,
    h₁.context.trans h₂.context⟩

theorem acts_mark (e : Engine σ) (d : Dispatch) : e.Acts (e.mark d) := ⟨rfl, rfl, rfl, .refl⟩

theorem acts_unmark (e : Engine σ) (d : Dispatch) : e.Acts (e.unmark d) := ⟨rfl, rfl, rfl, .refl⟩

theorem acts_counted (e : Engine σ) (d : Dispatch) : e.Acts (e.counted now d) :=
  ⟨rfl, rfl, rfl, .refl⟩

/-- **Settling an attempt is an act**, whatever its result. -/
theorem acts_settle (e : Engine σ) (d : Dispatch) (x : Execution)
    (result : Except VerbError Unit) : e.Acts (settle h now d x result e).2 := by
  obtain ⟨e', ht, he⟩ := settle_eq_unmark h now e d x result
  rw [he]
  exact ht.acts.trans (acts_unmark e' d)

end Engine

open Engine in
/-- **A move registers no verb, and changes the data only by writes.** -/
theorem Move.acts {s e ds s' e'} (m : Move h now s e ds s' e') : e.Acts e' := by
  cases m with
  | nothing | pass | debounce | wake | look | again => exact .refl e
  | enter => exact acts_mark e _
  | duplicate => exact (told_skip e _ _).acts
  | throttle | refuse => exact (told_skip e _ _).acts.trans (acts_unmark _ _)
  | @unknown d =>
    have ht := (told_measure (e.counted now d) d.action 0 false).trans
      (told_count _ (·.countFailed))
    exact ((acts_counted e d).trans ht.acts).trans (acts_unmark _ d)
  | @begin d _ _ verb _ _ _ _ hb =>
    have ht : (e.begun h now d verb).2 = e' := congrArg Prod.snd hb
    rw [← ht]
    have hrun : e.Acts { e.counted now d with runs := e.runs + 1 } := ⟨rfl, rfl, rfl, .refl⟩
    exact hrun.trans (told_begun e d verb).acts
  | write => exact ⟨rfl, rfl, rfl, (Context.Write.set _ _).writes⟩
  | call => exact ((told_note e _).trans (told_withHost _ _)).acts
  | await => exact (told_note e _).acts
  | answer => exact (told_withHost e _).acts
  | succeed | fail => exact acts_settle e _ _ _
  | retry | backOff => exact (told_retried e _ _).acts

/-- **A run of moves only acts.** -/
theorem Run.acts {s e ds f e'} (r : Run h now s e ds f e') : e.Acts e' := by
  induction r with
  | rest => exact .refl _
  | move m _ ih => exact m.acts.trans ih

/-- **Polling a flight registers no verb, and changes the data only by writes.** -/
theorem Flight.poll_acts (f : Flight) (e : Engine σ) : e.Acts (f.poll h now e).2 := by
  obtain ⟨ds, r⟩ := Runs.poll h now f e
  exact r.acts

/-- Cancelling a flight only acts. -/
theorem Flight.cancel_acts (f : Flight) (e : Engine σ) : e.Acts (f.cancel e) := by
  rw [cancel]
  split
  · exact Engine.acts_unmark e _
  · exact .refl e

end RemoteScreen
