import RemoteScreen.Proofs.Engine.Saga
import RemoteScreen.Proofs.Engine.Watch

/-!
# Proofs/Engine/Lifecycle — what is told of one execution

    Started ── Retrying 1 ── … ── Retrying k ──▸ Succeeded
                                             └─▸ Failed ──▸ (Started of the fallback)

Of an execution exactly its deeds are told (`eventsOf_filter`), and these are those of its saga.

* `Watch.lifecycle` — **the events of an execution that has ended are exactly such a word**, those
  of one under way a beginning of it, and a fallback starts after its parent has failed.
-/

namespace RemoteScreen

variable {σ : Type} {h : Host σ} {now : Nat}

/-! ## What is told of it -/

/-- An event is of the execution that its deed is of. -/
theorem Deed.id?_of_event? {deed : Deed} {event : Event} (he : deed.event? now = some event) :
    event.id? = deed.id? := by
  cases deed with
  | arrived | executed => cases he
  | skipped =>
    obtain rfl := Option.some.inj he
    rfl
  | called d x =>
    simp only [event?] at he
    split at he
    · obtain rfl := Option.some.inj he
      rfl
    · cases he
  | returned d x result =>
    cases result with
    | ok =>
      obtain rfl := Option.some.inj he
      rfl
    | error err =>
      simp only [event?] at he
      split at he <;>
      · obtain rfl := Option.some.inj he
        rfl

/-- **What is told of an execution tells of its deeds.** -/
theorem eventsOf_filter (id : String) (l : List (Nat × Deed)) :
    (eventsOf l).filter (·.id? = some id) = eventsOf (deedsOf id l) := by
  induction l with
  | nil => rfl
  | cons p l ih =>
    cases he : p.2.event? p.1 with
    | none =>
      by_cases hid : p.2.id? = some id <;> simpa [eventsOf, deedsOf, he, hid] using ih
    | some event =>
      have heq : event.id? = p.2.id? := Deed.id?_of_event? he
      by_cases hid : p.2.id? = some id <;> simpa [eventsOf, deedsOf, he, hid, heq] using ih

/-- What is told of an execution of a link before its end: that it has started, and then of each
attempt that has failed, with the time to wait. -/
def Dispatch.opening (d : Dispatch) (id : String) (failures : Nat) : List Event :=
  .started id d.action.type :: (List.range failures).map fun k =>
    .retrying id d.action.type (k + 1) (d.action.delayAfter (k + 1))

/-- What is told of its end. -/
def Dispatch.ending (d : Dispatch) (x : Execution) (last : Attempt) : Event :=
  match last.result with
  | .ok _ => .succeeded x.id d.action.type (last.returned - x.started)
  | .error err => .failed x.id d.action.type (ActionError.verb err).message

namespace Failures

variable {d : Dispatch} {failures : List Attempt} {due : Nat} (hf : Failures d failures due)

include hf

/-- The events of failed attempts and one more call open the story of an execution. -/
theorem events (x : Execution) (called : Nat) :
    eventsOf (Attempt.deeds d x 1 failures ++ [(called, .called d (x.nth (failures.length + 1)))])
      = d.opening x.id failures.length := by
  induction hf generalizing called with
  | none => simp [Attempt.deeds, eventsOf, Deed.event?, Execution.nth, Dispatch.opening]
  | @more failures due a err hf hdue herr hl ih =>
    have hlen : 1 + failures.length = failures.length + 1 := Nat.add_comm _ _
    have hretried : eventsOf [(a.returned, .returned d (x.nth (failures.length + 1)) a.result),
        (called, .called d (x.nth (failures.length + 1 + 1)))]
        = [.retrying x.id d.action.type (failures.length + 1)
            (d.action.delayAfter (failures.length + 1))] := by
      simp [eventsOf, Deed.event?, herr, Execution.nth, hl]
    have hdeeds : Attempt.deeds d x 1 (failures ++ [a])
          ++ [(called, .called d (x.nth ((failures ++ [a]).length + 1)))]
        = (Attempt.deeds d x 1 failures ++ [(a.called, .called d (x.nth (failures.length + 1)))])
          ++ [(a.returned, .returned d (x.nth (failures.length + 1)) a.result),
            (called, .called d (x.nth (failures.length + 1 + 1)))] := by
      rw [Attempt.deeds_concat, hlen]
      simp
    rw [hdeeds, eventsOf_append, ih, hretried]
    simp [Dispatch.opening, List.range_succ]

/-- When the execution waits, this is all. -/
theorem events_pausing (x : Execution) (hne : failures ≠ []) :
    eventsOf (Attempt.deeds d x 1 failures) = d.opening x.id failures.length := by
  have hlen : failures.length ≠ 0 := fun h => hne (List.length_eq_zero_iff.1 h)
  have hall := hf.events x 0
  rw [eventsOf_append] at hall
  simpa [eventsOf, Deed.event?, Execution.nth, hlen] using hall

/-- When the last attempt has come back, its end is told. -/
theorem events_over (x : Execution) {last : Attempt}
    (hlast : last.result = .ok () ∨ failures.length + 1 = d.action.attempts) :
    eventsOf (Attempt.deeds d x 1 (failures ++ [last]))
      = d.opening x.id failures.length ++ [d.ending x last] := by
  have hlen : 1 + failures.length = failures.length + 1 := Nat.add_comm _ _
  have hending : eventsOf [(last.returned, .returned d (x.nth (failures.length + 1)) last.result)]
      = [d.ending x last] := by
    cases hr : last.result with
    | ok => simp [eventsOf, Deed.event?, Dispatch.ending, hr, Execution.nth]
    | error err =>
      have hattempts : ¬ failures.length + 1 < d.action.attempts := by
        rcases hlast with hok | hlength
        · cases hr.symm.trans hok
        · omega
      simp [eventsOf, Deed.event?, Dispatch.ending, hr, Execution.nth, hattempts]
  rw [Attempt.deeds_concat, hlen, ← List.singleton_append, ← List.append_assoc, eventsOf_append,
    hf.events, hending]

end Failures

namespace Tower

open History

variable {t : Tower σ} {H : History h} {told seen : List Event} {id : String} {i r n : Nat}
  {e : Engine σ}

/-- **An execution that is over**: how often its verb was called and with what results, and that
its events are exactly those of that. -/
inductive Finished (H : History h) (told : List Event) (id : String) : Prop where
  | intro {d : Dispatch} {x : Execution} {failures : List Attempt} {last : Attempt}
      (hx : x.id = id)
      (hH : deedsOf id H.timed = Attempt.deeds d x 1 (failures ++ [last]))
      (hattempts : failures.length < d.action.attempts)
      (hfailed : ∀ a ∈ failures, ∃ err, a.result = .error err)
      (hlast : last.result = .ok () ∨ failures.length + 1 = d.action.attempts)
      (hspaced : ∀ (k : Nat) (a b : Attempt), (failures ++ [last])[k]? = some a →
        (failures ++ [last])[k + 1]? = some b →
        a.returned + d.action.delayAfter (k + 1) ≤ b.called)
      (htold : told.filter (·.id? = some id)
        = d.opening id failures.length ++ [d.ending x last])

/-- **An execution that is under way** has told of its beginning. -/
inductive Unfinished (t : Tower σ) (told : List Event) (id : String) : Prop where
  | intro {w : Effort} {failures : Nat} (hi : ∃ i, t.Tries i w) (hw : w.id = id)
      (htold : told.filter (·.id? = some id) = w.link.opening id failures)

/-- **Of every execution with an event there is either a whole story, or a beginning.** -/
theorem Sagas.story (sg : Sagas H t) (hid : ∃ event ∈ H.events, event.id? = some id) :
    Finished H H.events id ∨ Unfinished t H.events id := by
  have htold : H.events.filter (·.id? = some id) = eventsOf (deedsOf id H.timed) :=
    eventsOf_filter id H.timed
  cases sg.saga id with
  | unborn hu =>
    obtain ⟨event, hevent, hid⟩ := hid
    have hmem : event ∈ H.events.filter (·.id? = some id) :=
      List.mem_filter.2 ⟨hevent, decide_eq_true hid⟩
    rw [htold, hu.deeds] at hmem
    cases hmem
  | @trying i d x failures due called hi ho hx hf hdue ha hH =>
    have hopening := hf.events x called
    rw [← Execution.eq_nth ha, ← hH, hx] at hopening
    exact .inr ⟨⟨i, hi⟩, hx, htold.trans hopening⟩
  | @pausing i d x failures due wake hi ho hx hf hdue hne ha hH =>
    have hopening := hf.events_pausing x hne
    rw [← hH, hx] at hopening
    exact .inr ⟨⟨i, hi⟩, hx, htold.trans hopening⟩
  | @ended d x failures due last ht hx hf hdue hlast hH =>
    have hover := hf.events_over x hlast
    rw [← hH, hx] at hover
    exact .inl ⟨hx, hH, hf.length_lt, hf.failed, hlast, fun _ _ _ => hf.spaced hdue,
      htold.trans hover⟩

/-- No end is told of an execution that is under way. -/
theorem Unfinished.not_terminal (hu : Unfinished t told id) :
    ∀ event ∈ told, event.id? = some id → event.isTerminal = false := by
  intro event hevent hid
  obtain ⟨-, -, htold⟩ := hu
  have hmem : event ∈ told.filter (·.id? = some id) :=
    List.mem_filter.2 ⟨hevent, decide_eq_true hid⟩
  rw [htold, Dispatch.opening, List.mem_cons, List.mem_map] at hmem
  rcases hmem with rfl | ⟨k, -, rfl⟩ <;> rfl

/-! ## From a link to its fallback -/

end Tower

/-- A flight goes on to a fallback when the link before it has failed for good. -/
theorem Move.to_arriving {s s' : Stage} {e e' : Engine σ} {ds : List Deed} {d' : Dispatch}
    {rest : List Dispatch} (m : Move h now s e ds s' e')
    (hs : s' = .resting (.arriving (d' :: rest))) :
    ∃ d x err, s = .running d (d' :: rest) x (.done (.error err))
      ∧ ds = [.returned d x (.error err)] ∧ ¬ x.attempt < d.action.attempts := by
  cases m with
  | @fail _ behind _ _ _ ha =>
    cases behind with
    | nil => cases hs
    | cons =>
      cases hs
      exact ⟨_, _, _, rfl, rfl, ha⟩
  | _ => cases hs

/-- A link arrives where it is the next one. -/
theorem Move.from_arriving {s s' : Stage} {e e' : Engine σ} {ds : List Deed} {d : Dispatch}
    (m : Move h now s e ds s' e') (hd : .arrived d ∈ ds) :
    ∃ rest, s = .resting (.arriving (d :: rest)) := by
  cases m with
  | duplicate | enter =>
    obtain rfl : d = _ := by simpa using hd
    exact ⟨_, rfl⟩
  | _ => simp at hd

namespace Tower

open History

variable {t : Tower σ} {H : History h} {told seen : List Event} {id : String} {i r n : Nat}
  {e : Engine σ}

/-- **A fallback arrives when the link before it has failed for good**, which is told before
anything that starts in the flight from then on. -/
inductive HandedOver (told : List Event) (earlier : List (Moment h)) (d' : Dispatch)
    (later : List (Moment h)) : Prop where
  | intro {ms m d rest x err} (hms : earlier = ms ++ [m])
      (hs : m.stage = .running d (d' :: rest) x (.done (.error err)))
      (hd : m.deeds = [.returned d x (.error err)]) (ha : ¬ x.attempt < d.action.attempts)
      (htold : ∀ d'' x', .called d'' x' ∈ later.flatMap Moment.deeds → x'.attempt = 1 →
        [.failed x.id d.action.type (ActionError.verb err).message,
          .started x'.id d''.action.type].Sublist told)

/-- What is told of a deed is told. -/
theorem mem_events {m : Moment h} {deed : Deed} {event : Event} (hm : m ∈ own i H)
    (hd : deed ∈ m.deeds) (he : deed.event? m.clock = some event) : event ∈ H.events := by
  refine List.mem_filterMap.2 ⟨(m.clock, deed), ?_, he⟩
  exact List.mem_flatMap.2 ⟨_, mem_own.1 hm, List.mem_map.2 ⟨deed, hd, rfl⟩⟩

/-- **A fallback comes after its parent.** -/
theorem Chronicle.handedOver (c : Chronicle h (.start e n) H t) {past since : History h}
    {m : Moment h} (hH : H = past ++ .moved i m :: since) {d' : Dispatch}
    (hd : .arrived d' ∈ m.deeds) :
    own i past = [] ∨ HandedOver H.events (own i past) d' (own i since) := by
  obtain ⟨t₁, t₂, c₁, st, -⟩ := c.split hH
  obtain ⟨rest, hs⟩ := m.move.from_arriving hd
  have tr := (c₁.standing i).trail st.moment.2.1
  rw [hs] at tr
  rcases tr.last with ⟨-, hown, -⟩ | ⟨earlier, m₀, hown, hm₀, -⟩
  · exact .inl hown
  obtain ⟨d, x, err, hs₀, hds, ha⟩ := m₀.move.to_arriving hm₀
  refine .inr ⟨hown, hs₀, hds, ha, fun d'' x' hcalled hx' => ?_⟩
  have hfailed : .failed x.id d.action.type (ActionError.verb err).message ∈ past.events := by
    have hmem : m₀ ∈ own i past := hown ▸ List.mem_append_right _ List.mem_cons_self
    exact mem_events hmem (hds ▸ List.mem_cons_self) (Deed.event?_failed ha)
  have hstarted : .started x'.id d''.action.type ∈ since.events := by
    obtain ⟨m', hm', hcalled⟩ := List.mem_flatMap.1 hcalled
    exact mem_events hm' hcalled (Deed.event?_begun hx')
  have htold : H.events = past.events ++ (events [.moved i m] ++ since.events) := by
    rw [hH, ← List.singleton_append, events_append, events_append]
  rw [htold]
  exact (List.singleton_sublist.2 hfailed).append
    (List.singleton_sublist.2 (List.mem_append_right _ hstarted))

/-- **The life of an execution, as told.**  Whatever happens to an engine and its flights, short of
flights being given up, somebody who listens from the start and keeps up is told of every execution
that it has started, then of each attempt but the last one that it has failed, with the time to
wait, and in the end whether the last one has succeeded; the verb was called once more than attempts
are told of, and each time after the time to wait; and of an execution under way it is told the same
up to now.  A link is told to have failed before its fallback is told to start. -/
theorem Watch.lifecycle (ha : e.bus.At r e.bus.sent) (w : Watch h r (.start e n) seen H t)
    (hk : t.engine.bus.KeepsUp r) (hkept : H.Kept) :
    (∀ event ∈ seen ++ t.engine.bus.waiting r, ∀ id, event.id? = some id → event.isTerminal →
        Finished H (seen ++ t.engine.bus.waiting r) id)
      ∧ (∀ event ∈ seen ++ t.engine.bus.waiting r, ∀ id, event.id? = some id →
        Finished H (seen ++ t.engine.bus.waiting r) id
          ∨ Unfinished t (seen ++ t.engine.bus.waiting r) id)
      ∧ ∀ (i : Nat) (past since : History h) (m : Moment h) (d' : Dispatch),
        H = past ++ .moved i m :: since → .arrived d' ∈ m.deeds →
        own i past = []
          ∨ HandedOver (seen ++ t.engine.bus.waiting r) (own i past) d' (own i since) := by
  rw [w.events ha hk]
  have sg := w.chronicle.sagas hkept
  refine ⟨fun event hevent id hid hlast => ?_, fun event hevent id hid => ?_, ?_⟩
  · refine (sg.story ⟨event, hevent, hid⟩).resolve_right fun hu => ?_
    rw [hu.not_terminal event hevent hid] at hlast
    cases hlast
  · exact sg.story ⟨event, hevent, hid⟩
  · exact fun i past since m d' hH hd => w.chronicle.handedOver hH hd

/-- The subscriber of the lost navigation has received a finished life cycle. -/
theorem lifecycle_lost : ∃ (H : History Console.host) (t : Tower Store),
    Watch Console.host 0 (.start listened 0) [] H t ∧ t.engine.bus.KeepsUp 0 ∧ H.Kept
      ∧ t.engine.bus.waiting 0 = busOfLost.kept ∧ Finished H busOfLost.kept "1" := by
  obtain ⟨H, t, w, -, hk, hkept, hwaiting⟩ := watched_lost
  have hfinished : ∀ event ∈ busOfLost.kept, ∀ id, event.id? = some id → event.isTerminal →
      Finished H busOfLost.kept id := by
    rw [← hwaiting]
    exact (w.lifecycle at_listened hk hkept).1
  obtain ⟨event, hevent, hid, hlast⟩ :
      ∃ event ∈ busOfLost.kept, event.id? = some "1" ∧ event.isTerminal :=
    ⟨_, List.mem_of_getElem? (i := 2) rfl, rfl, rfl⟩
  exact ⟨H, t, w, hk, hkept, hwaiting, hfinished event hevent "1" hid hlast⟩

end Tower

end RemoteScreen
