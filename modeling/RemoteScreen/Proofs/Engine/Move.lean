import RemoteScreen.Engine.Flight

/-!
# Proofs/Engine/Move — a flight, one move at a time

    arriving ──▸ admitted ──▸ (debouncing) ──▸ ready ──▸ running ⇄ (calling, backing off) ──▸ landed
        ▴                                                   │
        └──────────────── the next link, when all attempts fail

`Flight.poll` takes a flight from one wait to the next in one go.  Here the same way is cut into
**moves**, each with the one thing that it does to the engine and the **deeds** that tell of it, so
that what holds of every move holds of every poll.

* `Runs.poll` — **a poll is a run of moves**, from where the flight waits to where it next waits;
* `Run.unique` — **and the run has no choice**: deeds, place and engine are determined.
-/

namespace RemoteScreen

/-- What a flight does that tells its story. -/
inductive Deed where
  /-- A link is dispatched. -/
  | arrived (d : Dispatch)
  | skipped (d : Dispatch) (reason : SkipReason)
  /-- A link is counted as executed; none if its type has no verb. -/
  | executed (d : Dispatch) (verb : Option Verb)
  /-- The verb of a link is called for an attempt. -/
  | called (d : Dispatch) (x : Execution)
  /-- An attempt has come to its result. -/
  | returned (d : Dispatch) (x : Execution) (result : Except VerbError Unit)

/-- Where a flight is between two moves: where it may wait, or on its way. -/
inductive Stage where
  | resting (f : Flight)
  /-- No duplicate was in flight. -/
  | admitted (link : Dispatch) (rest : List Dispatch)
  /-- The debounce is over. -/
  | ready (link : Dispatch) (rest : List Dispatch)
  /-- An attempt is under way, with this much of its script to go. -/
  | running (link : Dispatch) (rest : List Dispatch) (x : Execution) (script : Script)

namespace Stage

/-- The flight has ended. -/
abbrev ended (result : Except ActionError Unit) : Stage := resting (.landed result)

/-- Where a flight goes on whose link has failed for good. -/
def afterFailure (rest : List Dispatch) (err : VerbError) : Stage :=
  match rest with
  | [] => ended (.error (.verb err))
  | next :: rest => resting (.arriving (next :: rest))

end Stage

namespace Execution

/-- The same execution at its next attempt. -/
def next (x : Execution) : Execution := { x with attempt := x.attempt + 1 }

end Execution

namespace Engine

variable {σ : Type}

/-- An execution is counted, and its time noted. -/
def counted (now : Nat) (d : Dispatch) (e : Engine σ) : Engine σ :=
  { e with lastRun := e.lastRun.insert d.action.type now }.count (·.countExecuted)

/-- A retry is counted and told. -/
def retried (d : Dispatch) (x : Execution) (e : Engine σ) : Engine σ :=
  (e.count (·.countRetried)).publish
    (.retrying x.id d.action.type x.attempt (d.action.delayAfter x.attempt))

/-- The host has gone on. -/
def withHost (e : Engine σ) (host : σ) : Engine σ := { e with host }

/-- The condition of a link keeps it from being executed. -/
def refuses (d : Dispatch) (e : Engine σ) : Bool :=
  d.action.condition.any (!·.holds e.patterns (e.context.snapshot d.overlay))

/-- The execution that begins for a link with a verb. -/
def begun (h : Host σ) (now : Nat) (d : Dispatch) (verb : Verb) (e : Engine σ) :
    Execution × Engine σ :=
  begin h now d verb (e.context.snapshot d.overlay) (e.counted now d)

end Engine

/-- **One move of a flight**, with its deeds. -/
inductive Move {σ : Type} (h : Host σ) (now : Nat) :
    Stage → Engine σ → List Deed → Stage → Engine σ → Prop where
  | nothing {e} : Move h now (.resting (.arriving [])) e [] (.ended (.ok ())) e
  | duplicate {d rest e} (hm : e.isMarked d = true) :
      Move h now (.resting (.arriving (d :: rest))) e [.arrived d, .skipped d .alreadyPending]
        (.ended (.ok ())) (e.skip d .alreadyPending)
  | enter {d rest e} (hm : e.isMarked d = false) :
      Move h now (.resting (.arriving (d :: rest))) e [.arrived d] (.admitted d rest) (e.mark d)
  | throttle {d rest e} (ht : e.isThrottled now d.action = true) :
      Move h now (.admitted d rest) e [.skipped d .throttled] (.ended (.ok ()))
        ((e.skip d .throttled).unmark d)
  | pass {d rest e} (ht : e.isThrottled now d.action = false)
      (hd : ∀ delay ∈ d.action.debounce, h.sleep delay e.host = 0) :
      Move h now (.admitted d rest) e [] (.ready d rest) e
  | debounce {d rest e delay n} (ht : e.isThrottled now d.action = false)
      (hd : d.action.debounce = some delay) (hs : h.sleep delay e.host = n + 1) :
      Move h now (.admitted d rest) e [] (.resting (.debouncing d rest (now + (n + 1)))) e
  | wake {d rest e wake} (hw : wake ≤ now) :
      Move h now (.resting (.debouncing d rest wake)) e [] (.ready d rest) e
  | refuse {d rest e} (hc : e.refuses d = true) :
      Move h now (.ready d rest) e [.skipped d .conditionFalse] (.ended (.ok ()))
        ((e.skip d .conditionFalse).unmark d)
  | unknown {d rest e} (hc : e.refuses d = false) (hv : e.verbs.get? d.action.type = none) :
      Move h now (.ready d rest) e [.executed d none]
        (.ended (.error (.unknownVerb d.action.type)))
        ((((e.counted now d).measure d.action 0 false).count (·.countFailed)).unmark d)
  | begin {d rest e verb x e'} (hc : e.refuses d = false)
      (hv : e.verbs.get? d.action.type = some verb) (hb : e.begun h now d verb = (x, e')) :
      Move h now (.ready d rest) e [.executed d (some verb), .called d x]
        (.running d rest x (verb x.input)) e'
  | look {d rest x next e} :
      Move h now (.running d rest x (.look next)) e [] (.running d rest x (next e.context.data)) e
  | write {d rest x path v next e} :
      Move h now (.running d rest x (.write path v next)) e [] (.running d rest x next)
        (e.onContext (·.set path v))
  | call {d rest x c next e r host} (hd : h.delay c e.host = 0)
      (hr : h.reply c e.host = (r, host)) :
      Move h now (.running d rest x (.call c next)) e [] (.running d rest x (next r))
        ((e.note (.called c)).withHost host)
  | await {d rest x c next e n} (hd : h.delay c e.host = n + 1) :
      Move h now (.running d rest x (.call c next)) e []
        (.resting (.calling d rest x c next (now + (n + 1)))) (e.note (.called c))
  | answer {d rest x c next wake e r host} (hw : wake ≤ now)
      (hr : h.reply c e.host = (r, host)) :
      Move h now (.resting (.calling d rest x c next wake)) e [] (.running d rest x (next r))
        (e.withHost host)
  | succeed {d rest x e} :
      Move h now (.running d rest x (.done (.ok ()))) e [.returned d x (.ok ())] (.ended (.ok ()))
        (Engine.settle h now d x (.ok ()) e).2
  | retry {d rest x err e} (ha : x.attempt < d.action.attempts)
      (hs : h.sleep (d.action.delayAfter x.attempt) e.host = 0) :
      Move h now (.running d rest x (.done (.error err))) e
        [.returned d x (.error err), .called d x.next]
        (.running d rest x.next (x.verb x.input)) (e.retried d x)
  | backOff {d rest x err e n} (ha : x.attempt < d.action.attempts)
      (hs : h.sleep (d.action.delayAfter x.attempt) e.host = n + 1) :
      Move h now (.running d rest x (.done (.error err))) e [.returned d x (.error err)]
        (.resting (.backingOff d rest x (now + (n + 1)))) (e.retried d x)
  | again {d rest x wake e} (hw : wake ≤ now) :
      Move h now (.resting (.backingOff d rest x wake)) e [.called d x.next]
        (.running d rest x.next (x.verb x.input)) e
  | fail {d rest x err e} (ha : ¬ x.attempt < d.action.attempts) :
      Move h now (.running d rest x (.done (.error err))) e [.returned d x (.error err)]
        (.afterFailure rest err) (Engine.settle h now d x (.error err) e).2

namespace Flight

/-- The flight cannot go on now. -/
def waits (now : Nat) (f : Flight) : Prop := ∀ wake, f.wake? = some wake → now < wake

end Flight

/-- **A run of moves**, from a stage to where the flight next waits or lands, with all its deeds. -/
inductive Run {σ : Type} (h : Host σ) (now : Nat) :
    Stage → Engine σ → List Deed → Flight → Engine σ → Prop where
  | rest {f e} (hf : f.waits now) : Run h now (.resting f) e [] f e
  | move {s e ds s' e' ds' f e''} (m : Move h now s e ds s' e') (r : Run h now s' e' ds' f e'') :
      Run h now s e (ds ++ ds') f e''

variable {σ : Type} {h : Host σ} {now : Nat}

/-! ## Waiting -/

/-- A sleep lasts as long as asked for, or longer. -/
theorem Host.le_sleep (h : Host σ) (duration : Nat) (s : σ) : duration ≤ h.sleep duration s :=
  Nat.le_add_right _ _

/-- A debounce that is over at once is none, or one of no length. -/
theorem Host.getD_eq_zero_of_sleep {s : σ} {debounce : Option Nat}
    (hd : ∀ delay ∈ debounce, h.sleep delay s = 0) : debounce.getD 0 = 0 := by
  cases debounce with
  | none => rfl
  | some delay => exact Nat.le_zero.1 (hd delay rfl ▸ h.le_sleep delay s)

namespace Flight

@[simp] theorem waits_landed (r : Except ActionError Unit) : (landed r).waits now :=
  fun _ hw => by simp [wake?] at hw

/-- Before a link arrives there is nothing to wait for. -/
theorem not_waits_arriving (links : List Dispatch) : ¬ (arriving links).waits now :=
  fun hf => absurd (hf 0 rfl) (Nat.not_lt_zero now)

/-- A debouncing flight waits until its wake. -/
@[simp] theorem waits_debouncing {d rest wake} :
    (debouncing d rest wake).waits now ↔ now < wake := by
  simp [waits, wake?]

@[simp] theorem waits_calling {d rest x c next wake} :
    (calling d rest x c next wake).waits now ↔ now < wake := by
  simp [waits, wake?]

@[simp] theorem waits_backingOff {d rest x wake} :
    (backingOff d rest x wake).waits now ↔ now < wake := by
  simp [waits, wake?]

end Flight

/-! ## A poll is a run -/

namespace Engine

theorem fly_cons (d : Dispatch) (rest : List Dispatch) (e : Engine σ) :
    fly h now (d :: rest) e = follow h now d rest (arrive h now d e) := by
  rw [fly, follow.eq_def]

/-- A call that is answered without delay lets the script go on at once. -/
theorem runScript_call_now {c : Call} {next : c.Reply → Script} {e : Engine σ} {r host}
    (hd : h.delay c e.host = 0) (hr : h.reply c e.host = (r, host)) :
    runScript h now (.call c next) e
      = runScript h now (next r) ((e.note (.called c)).withHost host) := by
  have hd' : h.delay c (e.note (.called c)).host = 0 := hd
  have hr' : h.reply c (e.note (.called c)).host = (r, host) := hr
  rw [runScript]
  simp only [hd', hr']
  rfl

/-- A call that takes time is made, and the script waits for it. -/
theorem runScript_call_later {c : Call} {next : c.Reply → Script} {e : Engine σ} {n : Nat}
    (hd : h.delay c e.host = n + 1) :
    runScript h now (.call c next) e = (.calling c next (now + (n + 1)), e.note (.called c)) := by
  have hd' : h.delay c (e.note (.called c)).host = n + 1 := hd
  rw [runScript]
  simp only [hd']

section Execute

variable {d : Dispatch} {rest : List Dispatch} {verb : Verb} {e : Engine σ}

/-- A link whose condition does not hold is skipped, and its chain succeeds. -/
theorem execute_refused (hc : e.refuses d = true) :
    execute h now d e = (.ended (.ok ()), (e.skip d .conditionFalse).unmark d) := by
  rw [refuses] at hc
  simp only [execute, hc, if_true]

/-- A link whose type has no verb counts as executed and failed at once. -/
theorem execute_unknown (hc : e.refuses d = false) (hv : e.verbs.get? d.action.type = none) :
    execute h now d e = (.ended (.error (.unknownVerb d.action.type)),
      (((e.counted now d).measure d.action 0 false).count (·.countFailed)).unmark d) := by
  have hv' : (e.counted now d).verbs.get? d.action.type = none := hv
  rw [refuses] at hc
  rw [counted] at hv' ⊢
  simp only [execute, hc, hv', Bool.false_eq_true, if_false]

/-- A link that is not refused goes on to its first attempt. -/
theorem execute_begun (hc : e.refuses d = false) (hv : e.verbs.get? d.action.type = some verb) :
    execute h now d e = tryOn h now d (e.begun h now d verb).1 (verb (e.begun h now d verb).1.input)
      (e.begun h now d verb).2 := by
  have hv' : (e.counted now d).verbs.get? d.action.type = some verb := hv
  rw [refuses] at hc
  rw [counted] at hv'
  simp only [execute, hc, hv', Bool.false_eq_true, if_false]
  rfl

/-- A link that is let in and does not wait is executed. -/
theorem arrive_let (hm : e.isMarked d = false) (ht : (e.mark d).isThrottled now d.action = false)
    (hd : ∀ delay ∈ d.action.debounce, h.sleep delay e.host = 0) :
    arrive h now d e = execute h now d (e.mark d) := by
  rw [arrive, enter]
  simp only [hm, ht, Bool.false_eq_true, if_false]
  cases hdebounce : d.action.debounce with
  | none => rfl
  | some delay =>
    have hs : h.sleep delay (e.mark d).host = 0 := hd delay hdebounce
    simp only [hs]

/-- It goes on to its first attempt, if it is not refused. -/
theorem fly_begun (hm : e.isMarked d = false) (ht : (e.mark d).isThrottled now d.action = false)
    (hd : ∀ delay ∈ d.action.debounce, h.sleep delay e.host = 0) (hc : (e.mark d).refuses d = false)
    (hv : e.verbs.get? d.action.type = some verb) :
    fly h now (d :: rest) e
      = follow h now d rest (tryOn h now d ((e.mark d).begun h now d verb).1
          (verb ((e.mark d).begun h now d verb).1.input) ((e.mark d).begun h now d verb).2) := by
  rw [fly_cons, arrive_let hm ht hd, execute_begun hc hv]

end Execute

end Engine

/-- A run, its deeds left open. -/
def Runs (h : Host σ) (now : Nat) (s : Stage) (e : Engine σ) (out : Flight × Engine σ) : Prop :=
  ∃ ds, Run h now s e ds out.1 out.2

namespace Runs

/-- A flight that waits has run as far as it can. -/
theorem here {f : Flight} (hf : f.waits now) (e : Engine σ) : Runs h now (.resting f) e (f, e) :=
  ⟨[], .rest hf⟩

/-- A move before a run makes a longer run. -/
theorem move {s e ds s' e'} {out : Flight × Engine σ} (m : Move h now s e ds s' e')
    (r : Runs h now s' e' out) : Runs h now s e out := by
  obtain ⟨ds', r⟩ := r
  exact ⟨ds ++ ds', .move m r⟩

/-- An attempt that runs a script leads to where the script waits, or on from its result. -/
def Leads (h : Host σ) (now : Nat) (d : Dispatch) (rest : List Dispatch) (x : Execution)
    (script : Script) (e : Engine σ) : ScriptState × Engine σ → Prop
  | (.ended result, e') => ∀ out, Runs h now (.running d rest x (.done result)) e' out →
      Runs h now (.running d rest x script) e out
  | (.calling c next wake, e') =>
      Runs h now (.running d rest x script) e (.calling d rest x c next wake, e')

/-- A move within an attempt comes before where its script leads. -/
theorem Leads.move {d rest x script ds script' e e'} {out : ScriptState × Engine σ}
    (m : Move h now (.running d rest x script) e ds (.running d rest x script') e')
    (l : Leads h now d rest x script' e' out) : Leads h now d rest x script e out := by
  match out, l with
  | (.ended _, _), l => exact fun out r => Runs.move m (l out r)
  | (.calling _ _ _, _), l => exact Runs.move m l

/-- **Running a script is a run of moves.** -/
theorem runScript {d rest x} (script : Script) (e : Engine σ) :
    Leads h now d rest x script e (Engine.runScript h now script e) := by
  induction script generalizing e with
  | done result => exact fun _ r => r
  | look next ih => exact .move .look (ih e.context.data e)
  | write path v next ih => exact .move .write (ih (e.onContext (·.set path v)))
  | call c next ih =>
    cases hd : h.delay c e.host with
    | zero =>
      rcases hr : h.reply c e.host with ⟨r, host⟩
      rw [Engine.runScript_call_now hd hr]
      exact .move (.call hd hr) (ih r ((e.note (.called c)).withHost host))
    | succ n =>
      rw [Engine.runScript_call_later hd]
      exact Runs.move (.await hd) (here (by simp) _)

/-- The links behind one fly as a run of moves. -/
def Fly (h : Host σ) (now : Nat) (rest : List Dispatch) : Prop :=
  ∀ e, Runs h now (.resting (.arriving rest)) e (Engine.fly h now rest e)

variable {d : Dispatch} {rest : List Dispatch}

/-- After a link has failed for good, following up is a run of moves if flying on is one. -/
theorem afterFailure (hrest : Fly h now rest) (err : VerbError) (e : Engine σ) :
    Runs h now (.afterFailure rest err) e (Engine.follow h now d rest (.failed err, e)) := by
  cases rest with
  | nil => exact here (by simp) e
  | cons next rest => exact hrest e

/-- **So is trying on**, from an attempt under way to where the flight next waits. -/
theorem tryOn (hrest : Fly h now rest) (x : Execution) (script : Script) (e : Engine σ) :
    Runs h now (.running d rest x script) e
      (Engine.follow h now d rest (Engine.tryOn h now d x script e)) := by
  rw [Engine.tryOn]
  have hs : Leads h now d rest x script e (Engine.runScript h now script e) := runScript script e
  split
  · next c next wake e' he =>
    rw [he] at hs
    exact hs
  · next e' he =>
    rw [he] at hs
    exact hs _ (move .succeed (here (by simp) _))
  · next err e' he =>
    rw [he] at hs
    refine hs _ ?_
    by_cases ha : x.attempt < d.action.attempts
    · simp only [ha, if_true]
      cases hs : h.sleep (d.action.delayAfter x.attempt) e'.host with
      | zero => exact move (.retry ha hs) (tryOn hrest x.next (x.verb x.input) (e'.retried d x))
      | succ n => exact move (.backOff ha hs) (here (by simp) _)
    · simp only [ha, if_false]
      exact move (.fail ha) (afterFailure hrest err _)
termination_by d.action.attempts - x.attempt
decreasing_by
  simp only [Execution.next]
  omega

theorem execute (hrest : Fly h now rest) (e : Engine σ) :
    Runs h now (.ready d rest) e (Engine.follow h now d rest (Engine.execute h now d e)) := by
  cases hc : e.refuses d with
  | true =>
    rw [Engine.execute_refused hc]
    exact move (.refuse hc) (here (by simp) _)
  | false =>
    cases hv : e.verbs.get? d.action.type with
    | none =>
      rw [Engine.execute_unknown hc hv]
      exact move (.unknown hc hv) (here (by simp) _)
    | some verb =>
      rw [Engine.execute_begun hc hv]
      exact move (.begin hc hv rfl) (tryOn hrest _ _ _)

theorem arrive (hrest : Fly h now rest) (e : Engine σ) :
    Runs h now (.resting (.arriving (d :: rest))) e
      (Engine.follow h now d rest (Engine.arrive h now d e)) := by
  rw [Engine.arrive, Engine.enter]
  cases hm : e.isMarked d with
  | true => exact move (.duplicate hm) (here (by simp) _)
  | false =>
    refine move (.enter hm) ?_
    cases ht : (e.mark d).isThrottled now d.action with
    | true =>
      simp only [Bool.false_eq_true, if_false, ht, if_true]
      exact move (.throttle ht) (here (by simp) _)
    | false =>
      simp only [Bool.false_eq_true, if_false, ht]
      cases hd : d.action.debounce with
      | none => exact move (.pass ht (by simp [hd])) (execute hrest _)
      | some delay =>
        cases hs : h.sleep delay (e.mark d).host with
        | zero =>
          simp only [hs]
          exact move (.pass ht (by simpa [hd] using hs)) (execute hrest _)
        | succ n =>
          simp only [hs]
          exact move (.debounce ht hd hs) (here (by simp) _)

/-- **Flying a chain is a run of moves**, by induction on its links. -/
theorem fly (links : List Dispatch) : Fly h now links := by
  induction links with
  | nil => exact fun e => move .nothing (here (by simp) e)
  | cons d rest ih =>
    intro e
    rw [Engine.fly_cons]
    exact arrive ih e

/-- **A poll is a run of moves.** -/
theorem poll (h : Host σ) (now : Nat) (f : Flight) (e : Engine σ) :
    Runs h now (.resting f) e (f.poll h now e) := by
  cases f with
  | arriving links => exact fly links e
  | debouncing d rest wake =>
    rw [Flight.poll]
    split
    · next hw => exact here (Flight.waits_debouncing.2 hw) e
    · next hw => exact move (.wake (Nat.le_of_not_lt hw)) (execute (fly rest) e)
  | calling d rest x c next wake =>
    rw [Flight.poll]
    split
    · next hw => exact here (Flight.waits_calling.2 hw) e
    · next hw => exact move (.answer (Nat.le_of_not_lt hw) rfl) (tryOn (fly rest) x _ _)
  | backingOff d rest x wake =>
    rw [Flight.poll]
    split
    · next hw => exact here (Flight.waits_backingOff.2 hw) e
    · next hw => exact move (.again (Nat.le_of_not_lt hw)) (tryOn (fly rest) x.next _ e)
  | landed r => exact here (Flight.waits_landed r) e

end Runs

/-! ## A run has no choice -/

/-- **A move has no choice.** -/
theorem Move.unique {s e ds s' e' ds₁ s₁ e₁} (m : Move h now s e ds s' e')
    (m₁ : Move h now s e ds₁ s₁ e₁) : ds = ds₁ ∧ s' = s₁ ∧ e' = e₁ := by
  cases m <;> cases m₁ <;> simp_all

/-- A flight that moves does not wait. -/
theorem Move.not_waits {f e ds s' e'} (m : Move h now (.resting f) e ds s' e') :
    ¬ f.waits now := by
  cases m with
  | nothing | duplicate | enter => exact Flight.not_waits_arriving _
  | wake hw => exact fun hf => Nat.not_lt.2 hw (Flight.waits_debouncing.1 hf)
  | answer hw => exact fun hf => Nat.not_lt.2 hw (Flight.waits_calling.1 hf)
  | again hw => exact fun hf => Nat.not_lt.2 hw (Flight.waits_backingOff.1 hf)

/-- **The deeds of a run, where it ends and what it leaves behind are determined.** -/
theorem Run.unique {s e ds f e' ds₁ f₁ e₁} (r : Run h now s e ds f e')
    (r₁ : Run h now s e ds₁ f₁ e₁) : ds = ds₁ ∧ f = f₁ ∧ e' = e₁ := by
  induction r generalizing ds₁ with
  | rest hf =>
    cases r₁ with
    | rest _ => exact ⟨rfl, rfl, rfl⟩
    | move m _ => exact absurd hf m.not_waits
  | move m _ ih =>
    cases r₁ with
    | rest hf => exact absurd hf m.not_waits
    | move m₁ r₁ =>
      obtain ⟨rfl, rfl, rfl⟩ := m.unique m₁
      obtain ⟨rfl, rfl, rfl⟩ := ih r₁
      exact ⟨rfl, rfl, rfl⟩

/-- **A run from where a flight waits is a poll.** -/
theorem Run.poll_eq {f e ds f' e'} (r : Run h now (.resting f) e ds f' e') :
    f.poll h now e = (f', e') := by
  obtain ⟨ds', r'⟩ := Runs.poll h now f e
  obtain ⟨-, hf, he⟩ := r'.unique r
  exact Prod.ext hf he

end RemoteScreen
