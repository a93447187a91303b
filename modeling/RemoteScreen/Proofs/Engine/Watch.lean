import RemoteScreen.Proofs.Engine.Books
import RemoteScreen.Proofs.Event.Follow

/-!
# Proofs/Engine/Watch — the events are those of the deeds

    skipped          ──▸ Skipped              returned, with attempts left  ──▸ Retrying
    called at first  ──▸ Started              returned, and that was all    ──▸ Succeeded, Failed

A move publishes one event at most, that of its deeds (`Move.publishes`).  Somebody who listens from
the start and keeps up (`Watch`) gets the events of all deeds and no others, in order
(`Watch.events`): those that it has seen, and then those that wait for it.
-/

namespace RemoteScreen

variable {σ : Type} {h : Host σ} {now : Nat}

/-- The event that tells of a deed. -/
def Deed.event? (now : Nat) : Deed → Option Event
  | skipped d reason => some (.skipped d.action.type reason)
  | called d x => if x.attempt = 1 then some (.started x.id d.action.type) else none
  | returned d x (.ok _) => some (.succeeded x.id d.action.type (now - x.started))
  | returned d x (.error err) =>
    if x.attempt < d.action.attempts then
      some (.retrying x.id d.action.type x.attempt (d.action.delayAfter x.attempt))
    else some (.failed x.id d.action.type (ActionError.verb err).message)
  | arrived _ | executed _ _ => none

/-- The event is the last that is told of a link. -/
def Event.isTerminal : Event → Bool
  | skipped _ _ | succeeded _ _ _ | failed _ _ _ => true
  | started _ _ | retrying _ _ _ _ => false

namespace Deed

variable {d : Dispatch} {x : Execution} {err : VerbError}

/-- The first call of an execution is told as its start. -/
theorem event?_begun (ha : x.attempt = 1) :
    event? now (.called d x) = some (.started x.id d.action.type) := if_pos ha

theorem event?_again (ha : x.attempt ≠ 1) : event? now (.called d x) = none := if_neg ha

/-- An error with an attempt left is told as a retry, with the delay to come. -/
theorem event?_retried (ha : x.attempt < d.action.attempts) :
    event? now (.returned d x (.error err))
      = some (.retrying x.id d.action.type x.attempt (d.action.delayAfter x.attempt)) := if_pos ha

/-- An error with no attempt left is told as a failure. -/
theorem event?_failed (ha : ¬ x.attempt < d.action.attempts) :
    event? now (.returned d x (.error err))
      = some (.failed x.id d.action.type (ActionError.verb err).message) := if_neg ha

end Deed

/-! ## Move by move -/

namespace Engine

theorem bus_publish (e : Engine σ) (event : Event) : (e.publish event).bus = e.bus.tell event := by
  rw [publish, Bus.tell]
  cases e.bus.publish event with
  | ok | error => rfl

theorem bus_report (e : Engine σ) (a : Action) (duration : Nat) :
    (e.report h a duration).bus = e.bus := by
  rw [report]
  split <;> rfl

end Engine

/-- **A move publishes the events of its deeds.** -/
theorem Move.publishes {s e ds s' e'} (m : Move h now s e ds s' e')
    (hs : Effort.Counted s.effort?) :
    e'.bus = (ds.filterMap (Deed.event? now)).foldl Bus.tell e.bus := by
  cases m with
  | nothing | enter | pass | debounce | wake | look | write | call | await | answer | unknown => rfl
  | duplicate | throttle | refuse => exact Engine.bus_publish e _
  | @begin d _ _ verb x _ _ _ hb =>
    have hx : x.attempt = 1 := congrArg (·.1.attempt) hb.symm
    have he : (e.begun h now d verb).2.bus = e.bus.tell (.started x.id d.action.type) := by
      rw [← congrArg (·.1.id) hb]
      exact Engine.bus_publish _ _
    rw [hb] at he
    rw [List.filterMap_cons_none rfl, List.filterMap_cons_some (Deed.event?_begun hx)]
    exact he
  | succeed => exact (Engine.bus_report _ _ _).trans (Engine.bus_publish _ _)
  | @retry d _ x err _ ha =>
    have hx : x.next.attempt ≠ 1 := Nat.ne_of_gt (Nat.succ_lt_succ (hs _ rfl))
    rw [List.filterMap_cons_some (Deed.event?_retried ha),
      List.filterMap_cons_none (Deed.event?_again hx)]
    exact Engine.bus_publish _ _
  | backOff ha =>
    rw [List.filterMap_cons_some (Deed.event?_retried ha)]
    exact Engine.bus_publish _ _
  | @again d _ x =>
    have hx : x.next.attempt ≠ 1 := Nat.ne_of_gt (Nat.succ_lt_succ (hs _ rfl))
    rw [List.filterMap_cons_none (Deed.event?_again hx)]
    rfl
  | fail ha =>
    rw [List.filterMap_cons_some (Deed.event?_failed ha)]
    exact Engine.bus_publish _ _

/-! ## What is told -/

/-- The events that tell of deeds. -/
def eventsOf (l : List (Nat × Deed)) : List Event := l.filterMap fun p => p.2.event? p.1

@[simp] theorem eventsOf_append (l l' : List (Nat × Deed)) :
    eventsOf (l ++ l') = eventsOf l ++ eventsOf l' := List.filterMap_append

/-- The events that tell of what has happened. -/
def History.events (H : History h) : List Event := eventsOf H.timed

@[simp] theorem History.events_append (H H' : History h) :
    (H ++ H').events = H.events ++ H'.events := by
  rw [events, timed_append, eventsOf_append, events, events]

/-- The events of a moment are those of its deeds, at its clock. -/
theorem History.events_moved (i : Nat) (m : Moment h) :
    events [.moved i m] = m.deeds.filterMap (Deed.event? m.clock) := by
  rw [events, timed_moved, eventsOf, List.filterMap_map]
  rfl

namespace Tower

variable {t t' : Tower σ} {e : Engine σ} {n r : Nat} {H : History h} {seen : List Event}

/-- **A chronicle with somebody who listens**, and the events seen so far.  What is not a move does
not disturb it, whatever else happens on the bus; between turns it may get an event. -/
inductive Watch (h : Host σ) (r : Nat) (t : Tower σ) : List Event → History h → Tower σ → Prop where
  | refl : Watch h r t [] [] t
  | tail {seen H t' es t''} (w : Watch h r t seen H t') (st : Step h t' es t'')
      (hb : (∃ i m, es = [.moved i m]) ∨ t'.engine.bus.Undisturbed r t''.engine.bus) :
      Watch h r t seen (H ++ es) t''
  | get {seen H t' ev bus} (w : Watch h r t seen H t') (ht : t'.turn = none)
      (hg : t'.engine.bus.Gives r ev bus) :
      Watch h r t (seen ++ [ev]) H { t' with engine := { t'.engine with bus } }

/-- What is watched is a chronicle. -/
theorem Watch.chronicle (w : Watch h r t seen H t') : Chronicle h t H t' := by
  induction w with
  | refl => exact .refl
  | tail _ st _ ih => exact ih.tail st
  | @get _ H t' _ bus _ ht _ ih =>
    have st : Step h t' [] { t' with engine := { t'.engine with bus } } :=
      .aside ht ⟨rfl, rfl, rfl, rfl⟩
    simpa using ih.tail st

/-- What a step tells of waits for somebody who keeps up. -/
theorem Step.publishes {es : History h} {p : Nat} (c : Chronicle h (.start e n) H t)
    (st : Step h t es t') (ha : t.engine.bus.At r p)
    (hb : (∃ i m, es = [.moved i m]) ∨ t.engine.bus.Undisturbed r t'.engine.bus) :
    t'.engine.bus.At r p ∧ (t'.engine.bus.KeepsUp r →
      t.engine.bus.KeepsUp r ∧ t'.engine.bus.waiting r = t.engine.bus.waiting r ++ es.events) := by
  cases st with
  | move ht hi m =>
    rw [History.events_moved, m.publishes (c.attempt_pos hi)]
    exact ha.tellAll _
  | launch | rest | pass | cancel | aside | clear =>
    rcases hb with ⟨i, m, hes⟩ | hu
    · cases hes
    · exact ⟨ha.undisturbed hu, fun hk =>
        ⟨hu.keepsUp.1 hk, hu.waiting.trans (List.append_nil _).symm⟩⟩

/-- **Who listens from the start and keeps up gets the events of all deeds**, once and in order:
those that it has seen, and then those that wait for it. -/
theorem Watch.events (ha : e.bus.At r e.bus.sent) (w : Watch h r (.start e n) seen H t)
    (hk : t.engine.bus.KeepsUp r) : seen ++ t.engine.bus.waiting r = H.events := by
  suffices hw : ∃ p, t.engine.bus.At r p
      ∧ (t.engine.bus.KeepsUp r → seen ++ t.engine.bus.waiting r = H.events) by
    obtain ⟨_, _, hall⟩ := hw
    exact hall hk
  clear hk
  induction w with
  | refl => exact ⟨_, ha, fun _ => ha.waiting_of_sent⟩
  | @tail seen H t' es t'' w st hb ih =>
    obtain ⟨p, ha, hall⟩ := ih
    obtain ⟨ha', htold⟩ := st.publishes w.chronicle ha hb
    refine ⟨p, ha', fun hk => ?_⟩
    obtain ⟨hk, hwaiting⟩ := htold hk
    rw [hwaiting, ← List.append_assoc, hall hk, History.events_append]
  | @get seen H t' ev bus w ht hg ih =>
    obtain ⟨p, ha, hall⟩ := ih
    obtain ⟨ha', hk, hwaiting⟩ := ha.gives hg
    refine ⟨p + 1, ha', fun _ => ?_⟩
    rw [← hall hk, hwaiting, List.append_assoc]
    rfl

/-- A dispatch on its own, with somebody who listens and with nobody else in the books. -/
theorem Run.watched {d : Dispatch} {ds : List Deed} {f : Flight} {e' : Engine σ} (r : Nat)
    (ru : Run h n (.resting (.ofDispatch d)) e ds f e') :
    ∃ H : History h, H.IsTurn 0 n ds
      ∧ Watch h r (.start e n) [] H ⟨e', [some (.resting f)], n, none⟩
      ∧ Ledger h (.start e n) H ⟨e', [some (.resting f)], n, none⟩ := by
  let t : Tower σ := ⟨e, [some (.resting (.ofDispatch d))], n, none⟩
  have w : Watch h r (.start e n) [] [] t := .tail .refl (.launch d rfl) (.inr (.refl _ _))
  have l : Ledger h (.start e n) [] t := .tail .refl (.launch d rfl) (.inr rfl)
  obtain ⟨H, hH, w', l'⟩ := Run.turn (t := t) (i := 0)
    (C := fun H t => Watch h r (.start e n) [] H t ∧ Ledger h (.start e n) H t)
    (fun c st => ⟨c.1.tail st (.inl ⟨_, _, rfl⟩), c.2.tail st (.inl ⟨_, _, rfl⟩)⟩)
    (fun c st he => ⟨by simpa using c.1.tail st (.inr (he ▸ .refl _ _)),
      by simpa using c.2.tail st (.inr (by rw [Unbooked, he]))⟩)
    ru rfl (.inl rfl) rfl ⟨w, l⟩
  exact ⟨H, hH, w', l'⟩

/-- The subscriber of the listened engine has just come, and has all events before it. -/
theorem at_listened : listened.bus.At 0 listened.bus.sent := Bus.at_subscribe (Nat.le_refl 0)

/-- The action that is lost, with somebody who listens and has not looked yet. -/
theorem watched_lost : ∃ (H : History Console.host) (t : Tower Store),
    Watch Console.host 0 (.start listened 0) [] H t ∧ Ledger Console.host (.start listened 0) H t
      ∧ t.engine.bus.KeepsUp 0 ∧ H.Kept ∧ t.engine.bus.waiting 0 = busOfLost.kept := by
  obtain ⟨ds, e', ru, hbus, -⟩ := run_lost
  obtain ⟨H, hH, w, l⟩ := Run.watched 0 ru
  refine ⟨H, _, w, l, ?_, hH.kept, ?_⟩
  · rw [hbus]
    exact ⟨0, rfl, Nat.le_refl 0⟩
  · rw [hbus]
    rfl

end Tower

end RemoteScreen
