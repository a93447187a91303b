import RemoteScreen.Library.Standard
import RemoteScreen.Proofs.Engine.Duplicate
import RemoteScreen.Proofs.Engine.Throttle
import RemoteScreen.Proofs.Engine.Watch

/-!
# Proofs/Engine/Skip — every skip has its reason, and no link gets lost

    arrived ──▸ (throttle, debounce, condition) ──▸ executed ──▸ attempt, …, attempt
       │                      │
       └──────────────────────┴──▸ skipped

* `Chronicle.justified` — **the reason of a skip is there when the link is skipped**: a link in
  flight, an execution that is recent, a condition that does not hold;
* `Chronicle.traceless` — **and all that the link has done is to tell of it**;
* `Chronicle.accounted` — a link that has arrived **is skipped, or executed once**, or else its
  debounce is not over, or it was given up in it.
-/

namespace RemoteScreen

variable {σ : Type} {h : Host σ} {now : Nat}

namespace Stage

/-- The link that has been let in and is not executed yet. -/
def awaits? : Stage → Option Dispatch
  | admitted d _ | ready d _ | resting (.debouncing d _ _) => some d
  | _ => none

/-- The link that is being executed. -/
def executes? : Stage → Option Dispatch
  | running d _ _ _ | resting (.calling d _ _ _ _ _) | resting (.backingOff d _ _ _) => some d
  | _ => none

/-- A link in flight awaits its execution or is being executed. -/
theorem link?_eq (s : Stage) : s.link? = s.awaits?.or s.executes? := by
  cases s with
  | resting f => cases f <;> rfl
  | admitted | ready | running => rfl

theorem awaits?_of_link? {s : Stage} (hs : s.link? = none) : s.awaits? = none :=
  (Option.or_eq_none_iff.1 (s.link?_eq ▸ hs)).1

theorem executes?_of_link? {s : Stage} (hs : s.link? = none) : s.executes? = none :=
  (Option.or_eq_none_iff.1 (s.link?_eq ▸ hs)).2

/-- A link that awaits its execution is not being executed. -/
theorem executes?_of_awaits? {s : Stage} {d : Dispatch} (hs : s.awaits? = some d) :
    s.executes? = none := by
  cases s with
  | resting f => cases f <;> first | rfl | cases hs
  | admitted | ready => rfl
  | running => cases hs

end Stage

/-! ## Move by move -/

namespace Engine

variable {e : Engine σ}

/-- A throttled action has a window, and its type was executed within it. -/
theorem exists_of_isThrottled {a : Action} (ht : e.isThrottled now a = true) :
    ∃ w last, a.throttle = some w ∧ e.lastRun.get? a.type = some last ∧ now - last < w := by
  rw [isThrottled] at ht
  split at ht
  · next w last hw hl => exact ⟨w, last, hw, hl, of_decide_eq_true ht⟩
  · cases ht

/-- A refused link has a condition that its own view of the data does not meet. -/
theorem exists_of_refuses {d : Dispatch} (hr : e.refuses d = true) :
    ∃ c, d.action.condition = some c
      ∧ c.holds e.patterns (e.context.snapshot d.overlay) = false := by
  rw [refuses] at hr
  cases hc : d.action.condition with
  | none => simp [hc] at hr
  | some c => exact ⟨c, rfl, by simpa [hc] using hr⟩

end Engine

/-- Where a link is skipped, and why. -/
inductive Skipping (now : Nat) (d : Dispatch) (s : Stage) (e : Engine σ) :
    SkipReason → List Deed → Prop where
  | alreadyPending {rest} (hs : s = .resting (.arriving (d :: rest))) (hm : e.isMarked d = true) :
      Skipping now d s e .alreadyPending [.arrived d, .skipped d .alreadyPending]
  | throttled {rest} (hs : s = .admitted d rest) (ht : e.isThrottled now d.action = true) :
      Skipping now d s e .throttled [.skipped d .throttled]
  | conditionFalse {rest} (hs : s = .ready d rest) (hr : e.refuses d = true) :
      Skipping now d s e .conditionFalse [.skipped d .conditionFalse]

/-- Nothing has changed but the markers. -/
def Engine.Silent (e e' : Engine σ) : Prop := e' = { e with inFlight := e'.inFlight }

/-- Nothing has changed but the markers, and that a skip was told of. -/
def Engine.Skips (e : Engine σ) (d : Dispatch) (reason : SkipReason) (e' : Engine σ) : Prop :=
  e' = { e with bus := (e.publish (.skipped d.action.type reason)).bus, inFlight := e'.inFlight }

/-- Skipping a link leaves only its count and its event behind. -/
theorem Engine.skips_skip (e : Engine σ) (d : Dispatch) (reason : SkipReason) :
    e.Skips d reason (e.skip d reason) := by
  rw [Skips, skip, publish]
  split <;> rfl

theorem Engine.skips_unmark (e : Engine σ) (d : Dispatch) (reason : SkipReason) :
    e.Skips d reason ((e.skip d reason).unmark d) := by
  rw [Skips, skip, publish]
  split <;> rfl

/-- **The skip waits for everybody who listens and keeps up**, one event behind all others. -/
theorem Engine.Skips.told {e e' : Engine σ} {d : Dispatch} {reason : SkipReason}
    (hs : e.Skips d reason e') {r p : Nat} (ha : e.bus.At r p) :
    e'.bus.sent = e.bus.sent + 1 ∧ e'.bus.At r p ∧ (e'.bus.KeepsUp r →
      e'.bus.waiting r = e.bus.waiting r ++ [.skipped d.action.type reason]) := by
  have hbus : e'.bus = e.bus.tell (.skipped d.action.type reason) := by
    rw [hs, bus_publish]
  obtain ⟨ha', hwaiting⟩ := ha.tell (.skipped d.action.type reason)
  rw [hbus]
  refine ⟨?_, ha', fun hk => (hwaiting hk).2⟩
  rw [ha.tell_eq]

/-- **A move that skips a link has its reason**, ends the chain well and leaves no other trace. -/
theorem Move.skipping {s e ds s' e'} (m : Move h now s e ds s' e') {d : Dispatch}
    {reason : SkipReason} (hd : .skipped d reason ∈ ds) :
    Skipping now d s e reason ds ∧ s' = .ended (.ok ()) ∧ e.Skips d reason e' := by
  cases m with
  | duplicate hm =>
    obtain ⟨rfl, rfl⟩ : d = _ ∧ reason = _ := by simpa using hd
    exact ⟨.alreadyPending rfl hm, rfl, e.skips_skip d _⟩
  | throttle ht =>
    obtain ⟨rfl, rfl⟩ : d = _ ∧ reason = _ := by simpa using hd
    exact ⟨.throttled rfl ht, rfl, e.skips_unmark d _⟩
  | refuse hr =>
    obtain ⟨rfl, rfl⟩ : d = _ ∧ reason = _ := by simpa using hd
    exact ⟨.conditionFalse rfl hr, rfl, e.skips_unmark d _⟩
  | _ => simp at hd

/-- A link comes to await its execution when it is let in, and then nothing happens. -/
theorem Move.to_awaits {s e ds s' e'} (m : Move h now s e ds s' e') {d : Dispatch}
    (hs : s'.awaits? = some d) :
    e.Silent e' ∧ (ds = [.arrived d] ∨ s.awaits? = some d ∧ ds = []) := by
  cases m with
  | enter =>
    obtain rfl : _ = d := Option.some.inj hs
    exact ⟨rfl, .inl rfl⟩
  | pass | debounce | wake => exact ⟨rfl, .inr ⟨hs, rfl⟩⟩
  | @fail _ behind => cases behind <;> cases hs
  | _ => cases hs

/-- A deed of an attempt to execute a link. -/
inductive Deed.IsAttempt (d : Dispatch) : Deed → Prop where
  | called (x : Execution) : IsAttempt d (.called d x)
  | returned (x : Execution) (result : Except VerbError Unit) : IsAttempt d (.returned d x result)

/-- A link is being executed, or none is in flight any more. -/
def Stage.Executes (s : Stage) (d : Dispatch) : Prop := s.executes? = some d ∨ s.link? = none

/-- What a move tells of the links of its flight. -/
inductive Telling (s s' : Stage) : List Deed → Prop where
  | nothing (ha : s'.awaits? = s.awaits?) (hx : s'.executes? = s.executes?) : Telling s s' []
  | duplicate (d : Dispatch) (hs : s.link? = none) (hs' : s'.link? = none) :
      Telling s s' [.arrived d, .skipped d .alreadyPending]
  | arrived (d : Dispatch) (hs : s.link? = none) (hs' : s'.awaits? = some d) :
      Telling s s' [.arrived d]
  | skipped (d : Dispatch) (reason : SkipReason) (hs : s.awaits? = some d)
      (hs' : s'.link? = none) : Telling s s' [.skipped d reason]
  | executed (d : Dispatch) (verb : Option Verb) {ds} (hs : s.awaits? = some d)
      (hs' : s'.Executes d) (hd : ∀ x ∈ ds, x.IsAttempt d) :
      Telling s s' (.executed d verb :: ds)
  | tried (d : Dispatch) {ds} (hs : s.executes? = some d) (hs' : s'.Executes d)
      (hd : ∀ x ∈ ds, x.IsAttempt d) : Telling s s' ds

/-- What a move tells fits the links before and after it. -/
theorem Move.telling {s e ds s' e'} (m : Move h now s e ds s' e') : Telling s s' ds := by
  cases m with
  | nothing | pass | debounce | wake | look | write | call | await | answer =>
    exact .nothing rfl rfl
  | duplicate => exact .duplicate _ rfl rfl
  | enter => exact .arrived _ rfl rfl
  | throttle | refuse => exact .skipped _ _ rfl rfl
  | unknown => exact .executed _ none rfl (.inr rfl) (by simp)
  | begin => exact .executed _ _ rfl (.inl rfl) (by simpa using .called _)
  | succeed => exact .tried _ rfl (.inr rfl) (by simpa using .returned _ _)
  | retry => exact .tried _ rfl (.inl rfl) (by simpa using ⟨.returned _ _, .called _⟩)
  | backOff => exact .tried _ rfl (.inl rfl) (by simpa using .returned _ _)
  | again => exact .tried _ rfl (.inl rfl) (by simpa using .called _)
  | @fail _ rest =>
    refine .tried _ rfl (.inr ?_) (by simpa using .returned _ _)
    cases rest <;> rfl

/-! ## Link by link -/

/-- The links of a flight that have arrived, each with its deeds since. -/
abbrev Links := List (Dispatch × List Deed)

/-- All deeds of links. -/
def Links.deeds (links : Links) : List Deed := links.flatMap fun p => .arrived p.1 :: p.2

@[simp] theorem Links.deeds_append (links links' : Links) :
    (links ++ links').deeds = links.deeds ++ links'.deeds := List.flatMap_append

@[simp] theorem Links.deeds_singleton (d : Dispatch) (ds : List Deed) :
    Links.deeds [(d, ds)] = .arrived d :: ds := by
  simp [Links.deeds]

/-- What has become of a link: it is skipped, or executed once. -/
inductive Verdict (d : Dispatch) : List Deed → Prop where
  | skipped (reason : SkipReason) : Verdict d [.skipped d reason]
  | executed (verb : Option Verb) {ds} (hd : ∀ x ∈ ds, x.IsAttempt d) :
      Verdict d (.executed d verb :: ds)

/-- **Flights by what has become of their links**: of all of them something has, but maybe of the
last one, which then awaits its execution. -/
inductive Tale : Links → Stage → Prop where
  | finished {links s} (hv : ∀ p ∈ links, Verdict p.1 p.2) (hs : s.link? = none) : Tale links s
  | awaiting {links d s} (hv : ∀ p ∈ links, Verdict p.1 p.2) (hs : s.awaits? = some d) :
      Tale (links ++ [(d, [])]) s
  | executing {links d verb ds s} (hv : ∀ p ∈ links, Verdict p.1 p.2)
      (hd : ∀ x ∈ ds, x.IsAttempt d) (hs : s.executes? = some d) :
      Tale (links ++ [(d, .executed d verb :: ds)]) s

/-- What holds of links and of one more holds of all. -/
theorem Links.forall_concat {P : Dispatch → List Deed → Prop} {links : Links} {d : Dispatch}
    {ds : List Deed} (hl : ∀ p ∈ links, P p.1 p.2) (hd : P d ds) :
    ∀ p ∈ links ++ [(d, ds)], P p.1 p.2 := by
  intro p hp
  rcases List.mem_append.1 hp with hp | hp
  · exact hl p hp
  · rw [List.mem_singleton.1 hp]
    exact hd

/-- A link that is executed is the last one, whether it goes on or has ended. -/
theorem Stage.Executes.tale {s : Stage} {d : Dispatch} (hs : s.Executes d) {links : Links}
    (hv : ∀ p ∈ links, Verdict p.1 p.2) (verb : Option Verb) {ds : List Deed}
    (hd : ∀ x ∈ ds, x.IsAttempt d) : Tale (links ++ [(d, .executed d verb :: ds)]) s := by
  rcases hs with hs | hs
  · exact .executing hv hd hs
  · exact .finished (Links.forall_concat hv (.executed verb hd)) hs

/-- **A move goes on with the tale of its flight.** -/
theorem Tale.move {links : Links} {s s' : Stage} {ds : List Deed} (ta : Tale links s)
    (te : Telling s s' ds) :
    ∃ links' : Links, links'.deeds = links.deeds ++ ds ∧ Tale links' s' := by
  cases ta with
  | finished hv hs =>
    cases te with
    | nothing ha hx =>
      refine ⟨links, (List.append_nil _).symm, .finished hv ?_⟩
      rw [Stage.link?_eq, ha, hx, ← Stage.link?_eq, hs]
    | duplicate d _ hs' =>
      exact ⟨links ++ [(d, [.skipped d .alreadyPending])], by simp,
        .finished (Links.forall_concat hv (.skipped _)) hs'⟩
    | arrived d _ hs' => exact ⟨_, by simp, .awaiting hv hs'⟩
    | skipped _ _ ha | executed _ _ ha => simp [Stage.awaits?_of_link? hs] at ha
    | tried _ hx => simp [Stage.executes?_of_link? hs] at hx
  | @awaiting links d _ hv hs =>
    cases te with
    | nothing ha hx => exact ⟨_, (List.append_nil _).symm, .awaiting hv (ha.trans hs)⟩
    | duplicate _ hn | arrived _ hn => simp [Stage.awaits?_of_link? hn] at hs
    | skipped d' reason ha hs' =>
      obtain rfl : d' = d := by simpa [ha] using hs
      exact ⟨links ++ [(d', [.skipped d' reason])], by simp,
        .finished (Links.forall_concat hv (.skipped reason)) hs'⟩
    | @executed d' verb ds ha hs' hd =>
      obtain rfl : d' = d := by simpa [ha] using hs
      exact ⟨links ++ [(d', .executed d' verb :: ds)], by simp, hs'.tale hv verb hd⟩
    | tried _ hx => simp [Stage.executes?_of_awaits? hs] at hx
  | @executing links d verb ds₀ _ hv hd₀ hs =>
    cases te with
    | nothing ha hx => exact ⟨_, (List.append_nil _).symm, .executing hv hd₀ (hx.trans hs)⟩
    | duplicate _ hn | arrived _ hn => simp [Stage.executes?_of_link? hn] at hs
    | skipped _ _ ha | executed _ _ ha => simp [Stage.executes?_of_awaits? ha] at hs
    | tried d' hx hs' hd =>
      obtain rfl : d' = d := by simpa [hx] using hs
      have hall : ∀ x ∈ ds₀ ++ ds, x.IsAttempt d' := fun x hx =>
        (List.mem_append.1 hx).elim (hd₀ x) (hd x)
      exact ⟨links ++ [(d', .executed d' verb :: (ds₀ ++ ds))], by simp, hs'.tale hv verb hall⟩

/-- **A link whose debounce is over is skipped or executed at once.** -/
theorem Run.of_debounced {d : Dispatch} {rest : List Dispatch} {wake : Nat} {e ds f e'}
    (r : Run h now (.resting (.debouncing d rest wake)) e ds f e') (hw : wake ≤ now) :
    ∃ ds', ds = .skipped d .conditionFalse :: ds' ∨ ∃ verb, ds = .executed d verb :: ds' := by
  cases r with
  | rest hf => exact absurd (Flight.waits_debouncing.1 hf) (Nat.not_lt.2 hw)
  | move m r =>
    cases m with
    | wake _ =>
      cases r with
      | move m r =>
        cases m with
        | refuse => exact ⟨_, .inl rfl⟩
        | unknown | begin => exact ⟨_, .inr ⟨_, rfl⟩⟩

namespace Tower

open History

variable {t t' : Tower σ} {i : Nat} {e : Engine σ} {n : Nat} {H : History h}

/-- **The moves of a flight tell its tale.** -/
theorem Trail.tale {ms : List (Moment h)} {s : Stage} (tr : Trail h ms s) :
    ∃ links : Links, links.deeds = ms.flatMap Moment.deeds ∧ Tale links s := by
  induction tr with
  | launched d => exact ⟨[], rfl, .finished (by simp) rfl⟩
  | @moved ms m tr ih =>
    obtain ⟨links, hl, ta⟩ := ih
    obtain ⟨links', hl', ta'⟩ := ta.move m.move.telling
    exact ⟨links', by rw [hl', hl, List.flatMap_append, List.flatMap_singleton], ta'⟩

/-- Until it is executed, nothing has happened to a link but that it has arrived. -/
theorem Trail.awaits {ms : List (Moment h)} {s : Stage} (tr : Trail h ms s) {d : Dispatch}
    (hs : s.awaits? = some d) :
    ∃ earlier during, ms = earlier ++ during ∧ during.flatMap Moment.deeds = [.arrived d]
      ∧ ∀ m ∈ during, m.engine.Silent m.engine' := by
  induction tr with
  | launched => cases hs
  | @moved ms m tr ih =>
    obtain ⟨hsilent, hd | ⟨hs₀, hd⟩⟩ := m.move.to_awaits hs
    · exact ⟨ms, [m], rfl, by simp [hd], by simpa using hsilent⟩
    · obtain ⟨earlier, during, rfl, hduring, hall⟩ := ih hs₀
      refine ⟨earlier, during ++ [m], List.append_assoc _ _ _, by simp [hduring, hd], ?_⟩
      intro m' hm'
      rcases List.mem_append.1 hm' with hm' | hm'
      · exact hall m' hm'
      · exact List.mem_singleton.1 hm' ▸ hsilent

/-! ## Why a link is skipped -/

/-- The reason for which a link is skipped is there. -/
inductive Justified (H : History h) (t : Tower σ) (i : Nat) (d : Dispatch) : SkipReason → Prop where
  /-- A link with its key is in flight. -/
  | alreadyPending {j d'} (hj : j ≠ i) (hlink : t.link? j = some d') (hk : d'.key = d.key) :
      Justified H t i d .alreadyPending
  /-- A link of its type started to be executed less than the throttle ago. -/
  | throttled {w d' start} (hw : d.action.throttle = some w) (hd' : (d', start) ∈ H.starts)
      (htype : d'.action.type = d.action.type) (hle : start ≤ t.clock) (hlt : t.clock < start + w) :
      Justified H t i d .throttled
  /-- Its debounce is over, and now its condition does not hold. -/
  | conditionFalse {cond past since} {m : Moment h} {rest : List Dispatch}
      (hc : d.action.condition = some cond)
      (hfalse : cond.holds t.engine.patterns (t.engine.context.snapshot d.overlay) = false)
      (hH : H = past ++ .moved i m :: since) (hm : m.stage = .admitted d rest)
      (hdebounce : m.clock + d.action.debounce.getD 0 ≤ t.clock) :
      Justified H t i d .conditionFalse

/-- **The reason of a skip is there when the link is skipped**, whatever was forgotten. -/
theorem Chronicle.justified (he : e.inFlight = []) (hl : e.lastRun = [])
    (c : Chronicle h (.start e n) H t) {m : Moment h} (st : Step h t [.moved i m] t')
    {d : Dispatch} {reason : SkipReason} (hd : .skipped d reason ∈ m.deeds) :
    Justified H t i d reason := by
  obtain ⟨-, hi, hclock, hengine, -⟩ := st.moment
  obtain ⟨hskipping, -, -⟩ := m.move.skipping hd
  rw [hclock, hengine] at hskipping
  generalize m.deeds = ds at hskipping
  cases hskipping with
  | alreadyPending hs hm =>
    obtain ⟨j, d', hlink, hk⟩ := c.exists_link he hm
    refine .alreadyPending (fun hji => ?_) hlink hk
    subst hji
    rw [hs] at hi
    simp [link?, stage?, hi, Stage.link?, Flight.link?] at hlink
  | throttled hs ht =>
    obtain ⟨w, last, hw, hlast, hlt⟩ := Engine.exists_of_isThrottled ht
    obtain ⟨d', htype, hstart⟩ := (c.dated hl).noted _ _ hlast
    have hle := (c.dated hl).past _ _ hstart
    exact .throttled hw hstart htype hle (by omega)
  | conditionFalse hs hr =>
    obtain ⟨cond, hc, hfalse⟩ := Engine.exists_of_refuses hr
    rw [hs] at hi
    obtain ⟨past, m₀, since, hH, hm₀, -, -, hle, -⟩ := c.checked hi
    exact .conditionFalse hc hfalse hH hm₀ hle

/-! ## What a skip leaves -/

/-- The moves of a flight end with the skip of a link that has done nothing else: it arrives, the
markers change, and the skip is told once. -/
structure Traceless (ms : List (Moment h)) (m : Moment h) (d : Dispatch) (reason : SkipReason) :
    Prop where
  during : ∃ earlier during, ms = earlier ++ during
    ∧ (during ++ [m]).flatMap Moment.deeds = [.arrived d, .skipped d reason]
    ∧ ∀ m' ∈ during, m'.engine.Silent m'.engine'
  skips : m.engine.Skips d reason m.engine'
  /-- Everybody who listens gets one event of it, and no other. -/
  told : ∀ r p, m.engine.bus.At r p → m.engine'.bus.sent = m.engine.bus.sent + 1
    ∧ m.engine'.bus.At r p ∧ (m.engine'.bus.KeepsUp r →
      m.engine'.bus.waiting r = m.engine.bus.waiting r ++ [.skipped d.action.type reason])
  ended : m.stage' = .ended (.ok ())

/-- **A link that is skipped has done nothing else.** -/
theorem Chronicle.traceless (c : Chronicle h (.start e n) H t) {m : Moment h}
    (st : Step h t [.moved i m] t') {d : Dispatch} {reason : SkipReason}
    (hd : .skipped d reason ∈ m.deeds) : Traceless (own i H) m d reason := by
  obtain ⟨hskipping, hended, hskips⟩ := m.move.skipping hd
  refine ⟨?_, hskips, fun r p ha => hskips.told ha, hended⟩
  have tr := (c.standing i).trail st.moment.2.1
  have hawaits (hs : m.stage.awaits? = some d) (hds : m.deeds = [.skipped d reason]) :
      ∃ earlier during, own i H = earlier ++ during
        ∧ (during ++ [m]).flatMap Moment.deeds = [.arrived d, .skipped d reason]
        ∧ ∀ m' ∈ during, m'.engine.Silent m'.engine' := by
    obtain ⟨earlier, during, hown, hduring, hall⟩ := tr.awaits hs
    exact ⟨earlier, during, hown, by simp [hduring, hds], hall⟩
  generalize hds : m.deeds = ds at hskipping
  cases hskipping with
  | alreadyPending =>
    exact ⟨own i H, [], (List.append_nil _).symm, by simp [hds], by simp⟩
  | throttled hs => exact hawaits (hs ▸ rfl) hds
  | conditionFalse hs => exact hawaits (hs ▸ rfl) hds

/-! ## What becomes of a link -/

/-- A link that has arrived is skipped or executed once, with these deeds; or it has done nothing
yet because its flight has the turn, or because it is debounced; or it was given up then. -/
inductive Account (H : History h) (t : Tower σ) (i : Nat) (d : Dispatch) : List Deed → Prop where
  | verdict {ds} (hv : Verdict d ds) : Account H t i d ds
  | moving {s} (ht : t.turn = some i) (hi : t.stages[i]? = some (some s))
      (hs : s.awaits? = some d) : Account H t i d []
  | debounced {rest wake} (hi : t.stages[i]? = some (some (.resting (.debouncing d rest wake)))) :
      Account H t i d []
  | givenUp {rest wake} (hf : .gaveUp i (.debouncing d rest wake) ∈ H) : Account H t i d []

/-- A flight that waits before it is admitted is debouncing. -/
theorem exists_debouncing {f : Flight} {d : Dispatch} (hs : (Stage.resting f).awaits? = some d) :
    ∃ rest wake, f = .debouncing d rest wake := by
  cases f with
  | debouncing d' rest wake =>
    obtain rfl : d' = d := Option.some.inj hs
    exact ⟨rest, wake, rfl⟩
  | _ => cases hs

/-- If of the last link nothing has become, there is an account of that. -/
theorem Tale.account {links : Links} {s : Stage} (ta : Tale links s)
    (hs : ∀ d, s.awaits? = some d → Account H t i d []) :
    ∀ p ∈ links, Account H t i p.1 p.2 := by
  cases ta with
  | finished hv => exact fun p hp => .verdict (hv p hp)
  | awaiting hv ha => exact Links.forall_concat (fun p hp => .verdict (hv p hp)) (hs _ ha)
  | executing hv hd =>
    exact Links.forall_concat (fun p hp => .verdict (hv p hp)) (.verdict (.executed _ hd))

/-- **Every link that has arrived is skipped, or executed once**, unless it is not yet time for it,
or it was given up before. -/
theorem Chronicle.accounted (c : Chronicle h (.start e n) H t) (i : Nat) :
    ∃ links : Links, links.deeds = (own i H).flatMap Moment.deeds
      ∧ ∀ p ∈ links, Account H t i p.1 p.2 := by
  cases c.standing i with
  | unlaunched _ hown => exact ⟨[], by rw [hown]; rfl, by simp⟩
  | @underWay s hi tr =>
    obtain ⟨links, hl, ta⟩ := tr.tale
    refine ⟨links, hl, Tale.account ta fun d hs => ?_⟩
    by_cases ht : t.turn = some i
    · exact .moving ht hi hs
    · obtain ⟨f, rfl, -⟩ := c.turns.others i s ht hi
      obtain ⟨rest, wake, rfl⟩ := exists_debouncing hs
      exact .debounced hi
  | givenUp _ hf tr =>
    obtain ⟨links, hl, ta⟩ := tr.tale
    refine ⟨links, hl, Tale.account ta fun d hs => ?_⟩
    obtain ⟨rest, wake, rfl⟩ := exists_debouncing hs
    exact .givenUp hf

/-- **Skips are justified and leave no trace, and no link gets lost.**  Whatever happens to an
engine and its flights, its memory being cleared included: a link is skipped only for a reason that
is there, and has done nothing but to arrive and to tell of it; every link that has arrived is
skipped, or executed once, or has waited until now, or until it was given up; and one that has
waited long enough is skipped or executed as soon as its flight is polled. -/
theorem Chronicle.skips (he : e.inFlight = []) (hl : e.lastRun = [])
    (c : Chronicle h (.start e n) H t) :
    (∀ (i : Nat) (m : Moment h) (t' : Tower σ) (d : Dispatch) (reason : SkipReason),
        Step h t [.moved i m] t' → .skipped d reason ∈ m.deeds →
          Justified H t i d reason ∧ Traceless (own i H) m d reason)
      ∧ (∀ i : Nat, ∃ links : Links, links.deeds = (own i H).flatMap Moment.deeds
          ∧ ∀ p ∈ links, Account H t i p.1 p.2)
      ∧ ∀ (i : Nat) (d : Dispatch) (rest : List Dispatch) (wake : Nat) (ds : List Deed) (f : Flight)
          (e' : Engine σ), t.stages[i]? = some (some (.resting (.debouncing d rest wake))) →
          wake ≤ t.clock → Run h t.clock (.resting (.debouncing d rest wake)) t.engine ds f e' →
          ∃ ds', ds = .skipped d .conditionFalse :: ds' ∨ ∃ verb, ds = .executed d verb :: ds' := by
  refine ⟨fun i m t' d reason st hd => ?_, c.accounted, ?_⟩
  · exact ⟨c.justified he hl st hd, c.traceless st hd⟩
  · intro i d rest wake ds f e' _ hw r
    exact r.of_debounced hw

/-- **The second buzz is skipped with its cause in the history**, and without a trace. -/
theorem skips_buzzRepeated : ∃ (H : History Console.host) (m : Moment Console.host)
    (t' : Tower Store),
    Chronicle Console.host (.start (.new .standard {} .empty []) 0) H buzzRepeated
      ∧ Step Console.host buzzRepeated [.moved 1 m] t' ∧ .skipped buzz .alreadyPending ∈ m.deeds
      ∧ Justified H buzzRepeated 1 buzz .alreadyPending
      ∧ Traceless (own 1 H) m buzz .alreadyPending
      ∧ ∃ links : Links, links.deeds = (own 0 H).flatMap Moment.deeds
          ∧ ∀ p ∈ links, Account H buzzRepeated 0 p.1 p.2 := by
  obtain ⟨m, since, -, -, c⟩ := chronicle_buzzRepeated
  have hmove : Move Console.host 0 (.resting (.ofDispatch buzz)) buzzRepeated.engine _ _ _ :=
    .duplicate isMarked_buzzRepeated
  have st := Step.move (i := 1) (t := buzzRepeated) (.inl rfl) rfl hmove
  have hd : Deed.skipped buzz .alreadyPending ∈ [.arrived buzz, .skipped buzz .alreadyPending] :=
    List.mem_cons_of_mem _ List.mem_cons_self
  obtain ⟨hskips, haccounted, -⟩ := c.skips rfl rfl
  obtain ⟨hjustified, htraceless⟩ := hskips 1 _ _ buzz _ st hd
  exact ⟨_, _, _, c, st, hd, hjustified, htraceless, haccounted 0⟩

end Tower

end RemoteScreen
