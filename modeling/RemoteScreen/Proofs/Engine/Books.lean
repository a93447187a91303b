import RemoteScreen.Host.Console
import RemoteScreen.Library.Standard
import RemoteScreen.Proofs.Engine.Effort
import RemoteScreen.Proofs.Metrics

/-!
# Proofs/Engine/Books — the counters balance

    executed ──▸ (retried, …) ──▸ succeeded or failed, with its duration measured

Every deed has its entry in the metrics (`Deed.book`), and a move enters its deeds and nothing else
(`Move.books`); the performance hook hears of the same ends (`Move.measures`).  So as long as nobody
else writes in the books (`Ledger`), at every instant, in the middle of a turn too:

    executed = succeeded + failed + under way
    retried + reached a verb = verbs called + pausing

* `Ledger.balanced` — **whatever happens to an engine and its flights, the books balance**, with all
  flights and all their links counted in.
-/

namespace RemoteScreen

variable {σ : Type} {h : Host σ} {now : Nat}

/-! ## What is entered of a deed -/

namespace Deed

/-- A link is counted as executed. -/
def isExecution : Deed → Bool
  | executed _ _ => true
  | arrived _ | skipped _ _ | called _ _ | returned _ _ _ => false

/-- An execution has a verb to call. -/
def isReached : Deed → Bool
  | executed _ verb => verb.isSome
  | arrived _ | skipped _ _ | called _ _ | returned _ _ _ => false

/-- The verb of a link is called. -/
def isCall : Deed → Bool
  | called _ _ => true
  | arrived _ | skipped _ _ | executed _ _ | returned _ _ _ => false

/-- An attempt has failed that is not the last one. -/
def isRetry : Deed → Bool
  | returned d x (.error _) => x.attempt < d.action.attempts
  | returned _ _ (.ok _) | arrived _ | skipped _ _ | executed _ _ | called _ _ => false

/-- How long an execution took that ends now, and whether it has succeeded. -/
def ending? (now : Nat) : Deed → Option (Nat × Bool)
  | executed _ none => some (0, false)
  | returned _ x (.ok _) => some (now - x.started, true)
  | returned d x (.error _) =>
    if x.attempt < d.action.attempts then none else some (now - x.started, false)
  | executed _ (some _) | arrived _ | skipped _ _ | called _ _ => none

/-- Enters a deed in the metrics. -/
def book (now : Nat) (deed : Deed) (m : Metrics) : Metrics :=
  let m := if deed.isExecution then m.countExecuted else m
  let m := if deed.isRetry then m.countRetried else m
  match deed.ending? now with
  | some (duration, true) => (m.record (duration * 1000000)).countSucceeded
  | some (duration, false) => (m.record (duration * 1000000)).countFailed
  | none => m

/-- **Every entry but for the durations adds one at most.** -/
theorem book_eq (now : Nat) (deed : Deed) (m : Metrics) :
    deed.book now m =
      { m with
        executed := m.executed + deed.isExecution.toNat
        succeeded := m.succeeded + (((deed.ending? now).map (·.2)).getD false).toNat
        failed := m.failed + (((deed.ending? now).map (!·.2)).getD false).toNat
        retried := m.retried + deed.isRetry.toNat
        durations :=
          (deed.ending? now).elim m.durations fun p => (m.record (p.1 * 1000000)).durations } := by
  simp only [book]
  split <;> split <;> split <;> simp_all [Metrics.countExecuted, Metrics.countRetried,
    Metrics.record, Metrics.countSucceeded, Metrics.countFailed]

section Returned

variable {d : Dispatch} {x : Execution} {err : VerbError}

theorem ending?_retried (ha : x.attempt < d.action.attempts) :
    ending? now (.returned d x (.error err)) = none := if_pos ha

theorem ending?_failed (ha : ¬ x.attempt < d.action.attempts) :
    ending? now (.returned d x (.error err)) = some (now - x.started, false) := if_neg ha

/-- An error with an attempt left counts a retry and nothing else. -/
theorem book_retried (ha : x.attempt < d.action.attempts) (m : Metrics) :
    book now (.returned d x (.error err)) m = m.countRetried := by
  simp [book, isExecution, isRetry, ending?_retried ha, ha]

/-- An error with no attempt left records the time taken and counts a failure. -/
theorem book_failed (ha : ¬ x.attempt < d.action.attempts) (m : Metrics) :
    book now (.returned d x (.error err)) m
      = (m.record ((now - x.started) * 1000000)).countFailed := by
  simp [book, isExecution, isRetry, ending?_failed ha, ha]

end Returned

end Deed

/-- The execution waits for its next attempt. -/
def Effort.isPausing (w : Effort) : Bool := w.due.isSome

/-- What the performance hook is told: how long an execution took, and whether it succeeded. -/
def Record.measure? : Record → Option (Nat × Bool)
  | performance _ _ duration success => some (duration, success)
  | called _ | offered _ _ | actionFailed _ | renderFailed _ | built _ _ => none

namespace Engine

theorem metrics_publish (e : Engine σ) (event : Event) : (e.publish event).metrics = e.metrics := by
  rw [publish]
  split <;> rfl

theorem metrics_report (e : Engine σ) (a : Action) (duration : Nat) :
    (e.report h a duration).metrics = e.metrics := by
  rw [report]
  split <;> rfl

/-- The journal has gone on, and the hook was told of these ends. -/
def Notes (e e' : Engine σ) (ends : List (Nat × Bool)) : Prop :=
  ∃ rs, e'.journal = e.journal ++ rs ∧ rs.filterMap Record.measure? = ends

theorem Notes.of_eq {e e' : Engine σ} (hj : e'.journal = e.journal) : e.Notes e' [] :=
  ⟨[], by simpa using hj, rfl⟩

theorem Notes.trans {e₁ e₂ e₃ : Engine σ} {ends ends' : List (Nat × Bool)} (n₁ : e₁.Notes e₂ ends)
    (n₂ : e₂.Notes e₃ ends') : e₁.Notes e₃ (ends ++ ends') := by
  obtain ⟨rs, hj, rfl⟩ := n₁
  obtain ⟨rs', hj', rfl⟩ := n₂
  exact ⟨rs ++ rs', by rw [hj', hj, List.append_assoc], List.filterMap_append⟩

theorem notes_publish (e : Engine σ) (event : Event) : e.Notes (e.publish event) [] := by
  refine .of_eq ?_
  rw [publish]
  split <;> rfl

theorem notes_call (e : Engine σ) (c : Call) : e.Notes (e.note (.called c)) [] :=
  ⟨[.called c], rfl, rfl⟩

/-- A measure notes one ending: how long it took and whether it succeeded. -/
theorem notes_measure (e : Engine σ) (a : Action) (duration : Nat) (success : Bool) :
    e.Notes (e.measure a duration success) [(duration, success)] := ⟨[_], rfl, rfl⟩

theorem notes_report (e : Engine σ) (a : Action) (duration : Nat) :
    e.Notes (e.report h a duration) [] := by
  rw [report]
  split
  · exact .of_eq rfl
  · exact (notes_call e _).trans (.of_eq rfl)

end Engine

/-- **However an execution ends, the hook is told once.** -/
theorem Engine.notes_settle (e : Engine σ) (d : Dispatch) (x : Execution)
    (result : Except VerbError Unit) :
    e.Notes (settle h now d x result e).2 [(now - x.started, result.isOk)] := by
  have hended (success : Bool) (f : Metrics → Metrics) (event : Event) :
      e.Notes (((e.measure d.action (now - x.started) success).count f).publish event)
        [(now - x.started, success)] :=
    ((notes_measure e _ _ _).trans (.of_eq rfl)).trans (notes_publish _ _)
  cases result with
  | ok => exact (hended true _ _).trans ((notes_report _ _ _).trans (.of_eq rfl))
  | error err => exact (hended false _ _).trans (.of_eq rfl)

/-! ## Move by move -/

/-- **A move enters its deeds in the metrics, and nothing else.** -/
theorem Move.books {s e ds s' e'} (m : Move h now s e ds s' e') :
    e'.metrics = ds.foldl (fun m deed => deed.book now m) e.metrics := by
  cases m with
  | nothing | pass | debounce | wake | look | write | call | await | answer | enter | again => rfl
  | duplicate | throttle | refuse => exact Engine.metrics_publish e _
  | unknown => rfl
  | @begin d _ _ verb _ _ _ _ hb =>
    have he : (e.begun h now d verb).2.metrics = (e.counted now d).metrics :=
      Engine.metrics_publish _ _
    rw [hb] at he
    exact he
  | succeed => exact (Engine.metrics_report _ _ _).trans (Engine.metrics_publish _ _)
  | retry ha | backOff ha =>
    exact (Engine.metrics_publish _ _).trans (Deed.book_retried ha e.metrics).symm
  | fail ha => exact (Engine.metrics_publish _ _).trans (Deed.book_failed ha e.metrics).symm

/-- **The hook is told of every execution that ends, once.** -/
theorem Move.measures {s e ds s' e'} (m : Move h now s e ds s' e') :
    e.Notes e' (ds.filterMap (Deed.ending? now)) := by
  cases m with
  | nothing | pass | debounce | wake | look | write | answer | enter | again => exact .of_eq rfl
  | duplicate | throttle | refuse => exact (Engine.notes_publish e _).trans (.of_eq rfl)
  | unknown => exact (Engine.notes_measure _ _ _ _).trans (.of_eq rfl)
  | @begin d _ _ verb _ _ _ _ hb =>
    have he : e.Notes (e.begun h now d verb).2 [] := Engine.notes_publish _ _
    rw [hb] at he
    exact he
  | call | await => exact (Engine.notes_call e _).trans (.of_eq rfl)
  | succeed => exact Engine.notes_settle e _ _ (.ok ())
  | @retry d _ x err _ ha =>
    have hends : [Deed.returned d x (.error err), .called d x.next].filterMap (Deed.ending? now)
        = [] := by
      rw [List.filterMap_cons_none (Deed.ending?_retried ha)]
      rfl
    exact hends ▸ Engine.notes_publish _ _
  | backOff ha =>
    rw [List.filterMap_cons_none (Deed.ending?_retried ha)]
    exact Engine.notes_publish _ _
  | @fail _ _ _ err _ ha =>
    rw [List.filterMap_cons_some (Deed.ending?_failed ha)]
    exact Engine.notes_settle e _ _ (.error err)

/-- What a move begins is under way, until it ends. -/
theorem Trying.executing {w w' : Option Effort} {runs runs' : Nat} {ds : List Deed}
    (tr : Trying now w w' runs runs' ds) :
    (ds.filterMap (Deed.ending? now)).length + w'.isSome.toNat
      = ds.countP Deed.isExecution + w.isSome.toNat := by
  cases tr with
  | apart hw _ hd =>
    have hends : ds.filterMap (Deed.ending? now) = [] :=
      Deed.filterMap_of_apart hd (fun _ => rfl) fun _ _ => rfl
    have hnone : ds.countP Deed.isExecution = 0 :=
      Deed.countP_of_apart hd (fun _ => rfl) fun _ _ => rfl
    rw [hw, hends, hnone, List.length_nil]
  | unknown _ hw hw' | begun _ _ _ hw hw' => rw [hw, hw']; rfl
  | paused _ _ _ hw hw' ha | retried _ _ _ hw hw' ha =>
    rw [hw, hw', List.filterMap_cons_none (Deed.ending?_retried ha)]
    rfl
  | again _ _ _ hw hw' => rw [hw, hw']; rfl
  | ended _ _ result hw hw' ha =>
    cases result with
    | ok => rw [hw, hw']; rfl
    | error err =>
      rw [hw, hw', List.filterMap_cons_some (Deed.ending?_failed (ha.resolve_left nofun))]
      rfl

/-- After every attempt that has failed and is not the last one, the verb is called again, when the
pause is over. -/
theorem Trying.calling {w w' : Option Effort} {runs runs' : Nat} {ds : List Deed}
    (tr : Trying now w w' runs runs' ds) :
    ds.countP Deed.isRetry + ds.countP Deed.isReached + (w.any Effort.isPausing).toNat
      = ds.countP Deed.isCall + (w'.any Effort.isPausing).toNat := by
  cases tr with
  | apart hw _ hd =>
    have hretry : ds.countP Deed.isRetry = 0 :=
      Deed.countP_of_apart hd (fun _ => rfl) fun _ _ => rfl
    have hreached : ds.countP Deed.isReached = 0 :=
      Deed.countP_of_apart hd (fun _ => rfl) fun _ _ => rfl
    have hcall : ds.countP Deed.isCall = 0 := Deed.countP_of_apart hd (fun _ => rfl) fun _ _ => rfl
    rw [hw, hretry, hreached, hcall]
  | unknown _ hw hw' | begun _ _ _ hw hw' | again _ _ _ hw hw' => rw [hw, hw']; rfl
  | paused _ _ _ hw hw' ha | retried _ _ _ hw hw' ha =>
    rw [hw, hw']
    simp [Deed.isRetry, Deed.isReached, Deed.isCall, Effort.isPausing, ha]
  | ended _ _ result hw hw' ha =>
    rw [hw, hw']
    cases result with
    | ok => rfl
    | error err =>
      simp [Deed.isRetry, Deed.isReached, Deed.isCall, Effort.isPausing, ha.resolve_left nofun]

/-! ## What the metrics come to -/

/-- The ends of executions among deeds. -/
def endings (l : List (Nat × Deed)) : List (Nat × Bool) := l.filterMap fun p => p.2.ending? p.1

theorem endings_cons (x : Nat × Deed) (l : List (Nat × Deed)) :
    endings (x :: l) = (x.2.ending? x.1).toList ++ endings l := by
  rw [endings, List.filterMap_cons]
  cases x.2.ending? x.1 with
  | none | some => rfl

@[simp] theorem endings_append (l l' : List (Nat × Deed)) :
    endings (l ++ l') = endings l ++ endings l' := List.filterMap_append

@[simp] theorem endings_now (ds : List Deed) :
    endings (ds.map (now, ·)) = ds.filterMap (Deed.ending? now) := List.filterMap_map

namespace Metrics

/-- All but the results taken from a cache, which is no affair of flights. -/
def books (m : Metrics) : Metrics := { m with cacheHits := 0 }

/-- The window of durations alone. -/
def window (m : Metrics) : Metrics := { cap := m.cap, keep := m.keep, durations := m.durations }

/-- Metrics with deeds entered, each at its instant. -/
def enter (m : Metrics) (l : List (Nat × Deed)) : Metrics := l.foldl (fun m p => p.2.book p.1 m) m

/-- Metrics with the durations of executions that have ended, given in milliseconds. -/
def recordAll (m : Metrics) (ends : List (Nat × Bool)) : Metrics :=
  ends.foldl (fun m p => m.record (p.1 * 1000000)) m

/-- **The durations recorded one after the other are those that the window is on.** -/
theorem Windowed.recordAll {C K : Nat} {ds : List Nat} {m : Metrics} (hm : Windowed C K ds m)
    (hK : K ≤ C) (ends : List (Nat × Bool)) :
    Windowed C K (ds ++ ends.map (·.1 * 1000000)) (m.recordAll ends) := by
  induction ends generalizing ds m with
  | nil => rwa [List.map_nil, List.append_nil]
  | cons p ends ih =>
    rw [List.map_cons, List.append_cons]
    exact ih (hm.record hK (p.1 * 1000000))

/-- What of a deed is counted is counted of all. -/
theorem enter_eq {f : Metrics → Nat} {p : Nat × Deed → Bool}
    (hf : ∀ (m : Metrics) (x : Nat × Deed), f (x.2.book x.1 m) = f m + (p x).toNat) (m : Metrics)
    (l : List (Nat × Deed)) : f (m.enter l) = f m + l.countP p := by
  induction l generalizing m with
  | nil => rfl
  | cons x l ih =>
    rw [enter, List.foldl_cons, ← enter, ih, hf, countP_cons_toNat]
    omega

variable (m : Metrics) (l : List (Nat × Deed))

/-- Entering a history adds as many executions as it tells of. -/
theorem executed_enter : (m.enter l).executed = m.executed + l.countP (·.2.isExecution) :=
  enter_eq (fun m x => by rw [Deed.book_eq]) m l

/-- Entering a history adds as many retries as it tells of. -/
theorem retried_enter : (m.enter l).retried = m.retried + l.countP (·.2.isRetry) :=
  enter_eq (fun m x => by rw [Deed.book_eq]) m l

/-- Entering a history adds as many successes as there are endings in success. -/
theorem succeeded_enter : (m.enter l).succeeded = m.succeeded + (endings l).countP (·.2) := by
  rw [endings, List.countP_filterMap]
  exact enter_eq (fun m x => by rw [Deed.book_eq]) m l

/-- Entering a history adds as many failures as there are endings in failure. -/
theorem failed_enter : (m.enter l).failed = m.failed + (endings l).countP (!·.2) := by
  rw [endings, List.countP_filterMap]
  exact enter_eq (fun m x => by rw [Deed.book_eq]) m l

/-- Entering a history records its endings in the window, one after another. -/
theorem window_enter : (m.enter l).window = m.window.recordAll (endings l) := by
  induction l generalizing m with
  | nil => rfl
  | cons x l ih =>
    rw [enter, List.foldl_cons, ← enter, ih, Deed.book_eq, endings_cons]
    cases x.2.ending? x.1 with
    | none | some => rfl

theorem books_enter : (m.enter l).books = m.books.enter l := by
  induction l generalizing m with
  | nil => rfl
  | cons x l ih =>
    rw [enter, List.foldl_cons, ← enter, ih, Deed.book_eq, enter, enter, List.foldl_cons,
      Deed.book_eq]
    rfl

/-- Metrics that come of deeds, from nothing. -/
structure Entered (cap keep : Nat) (m : Metrics) (l : List (Nat × Deed)) : Prop where
  executed : m.executed = l.countP (·.2.isExecution)
  retried : m.retried = l.countP (·.2.isRetry)
  succeeded : m.succeeded = (endings l).countP (·.2)
  failed : m.failed = (endings l).countP (!·.2)
  window : m.window = (Metrics.new cap keep).recordAll (endings l)

variable {m l} in
/-- Metrics with the books of new ones with the deeds entered come of these deeds. -/
theorem Entered.of_books {cap keep : Nat} (hm : m.books = (Metrics.new cap keep).enter l) :
    m.Entered cap keep l where
  executed := by
    have hm := congrArg Metrics.executed hm
    rwa [executed_enter, new, Nat.zero_add] at hm
  retried := by
    have hm := congrArg Metrics.retried hm
    rwa [retried_enter, new, Nat.zero_add] at hm
  succeeded := by
    have hm := congrArg Metrics.succeeded hm
    rwa [succeeded_enter, new, Nat.zero_add] at hm
  failed := by
    have hm := congrArg Metrics.failed hm
    rwa [failed_enter, new, Nat.zero_add] at hm
  window := by
    have hm := congrArg Metrics.window hm
    rwa [window_enter] at hm

end Metrics

/-! ## What the hook is told -/

/-- What the performance hook is told in a move. -/
def Moment.measures (m : Moment h) : List (Nat × Bool) :=
  (m.engine'.journal.drop m.engine.journal.length).filterMap Record.measure?

/-- The measures of a moment are the endings among its deeds. -/
theorem Moment.measures_eq (m : Moment h) :
    m.measures = m.deeds.filterMap (Deed.ending? m.clock) := by
  obtain ⟨rs, hj, hrs⟩ := m.move.measures
  rw [measures, hj, List.drop_left, hrs]

/-- What the performance hook is told. -/
def Entry.measures : Entry h → List (Nat × Bool)
  | moved _ m => m.measures
  | gaveUp _ _ | cleared => []

/-- What the performance hook is told, in order. -/
def History.measures (H : History h) : List (Nat × Bool) := H.flatMap Entry.measures

/-- **The hook is told of all ends of executions.** -/
theorem History.measures_eq (H : History h) : H.measures = endings H.timed := by
  rw [timed, endings, List.filterMap_flatMap, measures]
  congr 1
  funext x
  cases x with
  | moved i m => exact m.measures_eq.trans (endings_now m.deeds).symm
  | gaveUp | cleared => rfl

/-- The links that start to be executed are those that are counted as executed. -/
theorem History.length_starts (H : History h) :
    H.starts.length = H.timed.countP (·.2.isExecution) := by
  rw [starts_eq, List.length_filterMap_eq_countP]
  refine List.countP_congr fun p _ => ?_
  obtain ⟨_, _ | _ | _ | _ | _⟩ := p <;> rfl

namespace Tower

open History

variable {t t' : Tower σ} {e : Engine σ} {n : Nat} {H : History h}

/-- Nobody has written in the books. -/
def Unbooked (t t' : Tower σ) : Prop := t'.engine.metrics.books = t.engine.metrics.books

/-- **A chronicle in which only moves are booked**: what else happens leaves the metrics as they
are, but for the results taken from a cache.  So they are not reset. -/
inductive Ledger (h : Host σ) (t : Tower σ) : History h → Tower σ → Prop where
  | refl : Ledger h t [] t
  | tail {H t' es t''} (l : Ledger h t H t') (st : Step h t' es t'')
      (hb : (∃ i m, es = [.moved i m]) ∨ t'.Unbooked t'') : Ledger h t (H ++ es) t''

theorem Ledger.chronicle (l : Ledger h t H t') : Chronicle h t H t' := by
  induction l with
  | refl => exact .refl
  | tail _ st _ ih => exact ih.tail st

/-- **A step that is no reset enters in the books just what it tells.** -/
theorem Step.books {es : History h} (st : Step h t es t')
    (hb : (∃ i m, es = [.moved i m]) ∨ t.Unbooked t') :
    t'.engine.metrics.books = t.engine.metrics.books.enter es.timed := by
  cases st with
  | @move _ i s ds s' e' ht hi m =>
    rw [timed_moved, ← Metrics.books_enter, Metrics.enter, List.foldl_map]
    exact congrArg Metrics.books m.books
  | launch | rest | pass | cancel | aside | clear =>
    rcases hb with ⟨i, m, hes⟩ | hb
    · cases hes
    · exact hb

/-- **The metrics are those of all deeds.** -/
theorem Ledger.books (l : Ledger h t H t') :
    t'.engine.metrics.books = t.engine.metrics.books.enter H.timed := by
  induction l with
  | refl => rfl
  | tail _ st hb ih =>
    rw [st.books hb, ih, timed_append, Metrics.enter, Metrics.enter, Metrics.enter,
      List.foldl_append]

/-- **What has begun has ended, or is under way.** -/
theorem Chronicle.executing (c : Chronicle h (.start e n) H t) (hk : H.Kept) :
    (endings H.timed).length + t.efforts.countP Option.isSome
      = H.timed.countP (·.2.isExecution) := by
  induction c with
  | refl => rfl
  | tail _ st ih =>
    have hk := kept_append.1 hk
    have ih := ih hk.1
    rw [timed_append, endings_append, List.length_append, List.countP_append]
    rcases (st.trying hk.2).countP (p := Option.isSome) rfl with
      ⟨hes, hcount⟩ | ⟨w, w', ds, hes, tr, hcount⟩
    · rw [hes, hcount, ← ih]
      rfl
    · have htr := tr.executing
      rw [hes, endings_now, countP_now]
      omega

/-- **A verb is called once for every execution that has one, and once after every attempt that
has failed and is not the last one**, but for pauses that are not over. -/
theorem Chronicle.calling (c : Chronicle h (.start e n) H t) (hk : H.Kept) :
    H.timed.countP (·.2.isRetry) + H.timed.countP (·.2.isReached)
      = H.timed.countP (·.2.isCall) + t.efforts.countP (·.any Effort.isPausing) := by
  induction c with
  | refl => rfl
  | tail _ st ih =>
    have hk := kept_append.1 hk
    have ih := ih hk.1
    rw [timed_append, List.countP_append, List.countP_append, List.countP_append]
    rcases (st.trying hk.2).countP (p := (·.any Effort.isPausing)) rfl with
      ⟨hes, hcount⟩ | ⟨w, w', ds, hes, tr, hcount⟩
    · rw [hes, hcount]
      exact ih
    · have htr := tr.calling
      rw [hes, countP_now, countP_now, countP_now]
      omega

/-- The books balance. -/
structure Balanced (cap keep : Nat) (H : History h) (t : Tower σ) : Prop where
  /-- Every link that starts to be executed is counted, one without a verb too. -/
  executed : t.engine.metrics.executed = H.starts.length
  /-- Of those counted, the others are under way. -/
  ended : t.engine.metrics.executed = t.engine.metrics.succeeded + t.engine.metrics.failed
    + t.efforts.countP Option.isSome
  measured : H.measures.length = t.engine.metrics.succeeded + t.engine.metrics.failed
  succeeded : H.measures.countP (·.2) = t.engine.metrics.succeeded
  /-- The durations are those that the hook is told, of which the window keeps the latest. -/
  window : t.engine.metrics.window = (Metrics.new cap keep).recordAll H.measures
  /-- One sample is recorded of every execution that has ended, in nanoseconds.  The window holds
  the latest of them, and how many it holds goes by their number alone. -/
  samples : ∃ samples : List Nat, samples = H.measures.map (·.1 * 1000000)
    ∧ samples.length = t.engine.metrics.succeeded + t.engine.metrics.failed
    ∧ Metrics.Windowed (max cap 1) (max (min keep cap) 1) samples t.engine.metrics
    ∧ t.engine.metrics.durations.length = Metrics.held (max cap 1) (max (min keep cap) 1)
      (t.engine.metrics.succeeded + t.engine.metrics.failed)
  retried : t.engine.metrics.retried + H.deeds.countP Deed.isReached
    = H.deeds.countP Deed.isCall + t.efforts.countP (·.any Effort.isPausing)
  /-- When no link is in flight, nothing is under way. -/
  idle : (∀ s, some s ∈ t.stages → s.link? = none) → t.efforts.countP Option.isSome = 0
    ∧ t.engine.metrics.retried + H.deeds.countP Deed.isReached = H.deeds.countP Deed.isCall

/-- When no link is in flight, no execution is under way. -/
theorem efforts_of_link? (ht : ∀ s, some s ∈ t.stages → s.link? = none) :
    ∀ w ∈ t.efforts, w = none := by
  intro w hw
  obtain ⟨o, ho, rfl⟩ := List.mem_map.1 hw
  cases o with
  | none => rfl
  | some s => exact Stage.effort?_of_link? (ht s ho)

/-- **What the metrics come to.** -/
theorem Ledger.entered {cap keep : Nat} (he : e.metrics = .new cap keep)
    (l : Ledger h (.start e n) H t) : t.engine.metrics.Entered cap keep H.timed := by
  refine .of_books ?_
  rw [l.books, start, he]
  rfl

/-- **The books balance, whatever happens to an engine and its flights.** -/
theorem Ledger.balanced {cap keep : Nat} (he : e.metrics = .new cap keep)
    (l : Ledger h (.start e n) H t) (hk : H.Kept) : Balanced cap keep H t := by
  have hm := l.entered he
  have hends : H.measures.length = t.engine.metrics.succeeded + t.engine.metrics.failed := by
    rw [hm.succeeded, hm.failed, measures_eq]
    simpa using List.length_eq_countP_add_countP (fun x : Nat × Bool => x.2)
  have hexecuting := l.chronicle.executing hk
  have hcalling := l.chronicle.calling hk
  rw [← measures_eq, hends, ← hm.executed] at hexecuting
  rw [← hm.retried, ← countP_deeds, ← countP_deeds] at hcalling
  have hwindow : t.engine.metrics.window = (Metrics.new cap keep).recordAll H.measures := by
    rw [hm.window, measures_eq]
  have hwindowed : Metrics.Windowed (max cap 1) (max (min keep cap) 1)
      (H.measures.map (·.1 * 1000000)) t.engine.metrics.window :=
    hwindow ▸ (Metrics.windowed_new cap keep).recordAll (by omega) H.measures
  have hsamples : (H.measures.map (·.1 * 1000000)).length
      = t.engine.metrics.succeeded + t.engine.metrics.failed := by rw [List.length_map, hends]
  refine ⟨by rw [hm.executed, length_starts], hexecuting.symm, hends, ?_, hwindow,
    ⟨_, rfl, hsamples, ⟨hwindowed.cap_eq, hwindowed.keep_eq, hwindowed.durations_eq⟩, ?_⟩, hcalling,
    fun ht => ⟨?_, ?_⟩⟩
  · rw [hm.succeeded, measures_eq]
  · rw [← hsamples]
    exact hwindowed.length (by omega)
  · exact List.countP_eq_zero.2 fun w hw => by simp [efforts_of_link? ht w hw]
  · have hnone : t.efforts.countP (·.any Effort.isPausing) = 0 :=
      List.countP_eq_zero.2 fun w hw => by simp [efforts_of_link? ht w hw]
    rwa [hnone, Nat.add_zero] at hcalling

/-- An action that fails for want of a screen to go to, and is tried twice. -/
def lost : Dispatch := { action := { type := "navigate", retry := some ⟨2, 0, .linear⟩ } }

/-- An engine with somebody who listens. -/
def listened : Engine Store :=
  { Engine.new .standard {} .empty [] with bus := ((Bus.new 8).subscribe).2 }

/-- Its bus when the action has failed. -/
def busOfLost : Bus where
  room := 8
  sent := 3
  kept :=
    [.started "1" "navigate", .retrying "1" "navigate" 1 0,
      .failed "1" "navigate" "Verb failed: Missing required payload field 'navigateTo'"]
  positions := [some 0]

/-- The lost navigation fails, is retried once and fails again, all in one go. -/
theorem run_lost : ∃ ds e', Run Console.host 0 (.resting (.ofDispatch lost)) listened ds
      (.landed (.error (.verb (.missingField "navigateTo")))) e'
    ∧ e'.bus = busOfLost ∧ e'.metrics.executed = 1 ∧ e'.metrics.retried = 1 := by
  have hv : (Verb.builtins .standard).get? "navigate" = some Verb.navigate := rfl
  refine ⟨_, _, .move (.enter ?_) (.move (.pass ?_ ?_) (.move (.begin ?_ hv rfl)
    (.move (@Move.retry _ _ _ _ _ _ (.missingField "navigateTo") _ ?_ ?_)
    (.move (@Move.fail _ _ _ _ _ _ (.missingField "navigateTo") _ ?_)
    (.rest (Flight.waits_landed _)))))), ?_⟩
  all_goals decide +kernel

/-- **The books balance after a failed navigation**, with one execution and one retry in them. -/
theorem balanced_lost : ∃ (H : History Console.host) (t : Tower Store),
    Ledger Console.host (.start listened 0) H t ∧ H.Kept ∧ t.engine.metrics.executed = 1
      ∧ t.engine.metrics.retried = 1 ∧ Balanced 100 50 H t := by
  obtain ⟨ds, e', r, -, hexecuted, hretried⟩ := run_lost
  have l₀ : Ledger Console.host (.start listened 0) []
      ⟨listened, [some (.resting (.ofDispatch lost))], 0, none⟩ :=
    .tail .refl (.launch lost rfl) (.inr rfl)
  obtain ⟨H, hH, l⟩ := Run.turn (C := Ledger Console.host _) (i := 0)
    (fun l st => l.tail st (.inl ⟨_, _, rfl⟩))
    (fun l st he => by simpa using l.tail st (.inr (by rw [Unbooked, he]))) r rfl (.inl rfl) rfl l₀
  have hk : History.Kept H := hH.kept
  exact ⟨_, _, l, hk, hexecuted, hretried, l.balanced rfl hk⟩

end Tower

end RemoteScreen
