import RemoteScreen.Proofs.Engine.Skip
import RemoteScreen.Proofs.Engine.Watch

/-!
# Proofs/Engine/Tally — events and metrics tell the same

                 executed    succeeded    failed    retried
    told of      Started     Succeeded    Failed    Retrying
    and also     unknown                  unknown

Every deed that is entered in the metrics is told of by an event, but one: a link whose type has no
verb is counted as executed and as failed, and no event tells of it (`not_told_of_unknown`).  But
for those, who listens can count along (`Watch.tally`), and hears of every link once how it has
ended.
-/

namespace RemoteScreen

variable {σ : Type} {h : Host σ} {now : Nat}

/-! ## What can be counted -/

namespace Event

/-- An execution has started. -/
def isStarted : Event → Bool
  | started _ _ => true
  | skipped _ _ | retrying _ _ _ _ | succeeded _ _ _ | failed _ _ _ => false

/-- An attempt has failed that is not the last one. -/
def isRetrying : Event → Bool
  | retrying _ _ _ _ => true
  | started _ _ | skipped _ _ | succeeded _ _ _ | failed _ _ _ => false

/-- An execution has succeeded. -/
def isSucceeded : Event → Bool
  | succeeded _ _ _ => true
  | started _ _ | skipped _ _ | retrying _ _ _ _ | failed _ _ _ => false

/-- An execution has failed for good. -/
def isFailed : Event → Bool
  | failed _ _ _ => true
  | started _ _ | skipped _ _ | retrying _ _ _ _ | succeeded _ _ _ => false

end Event

namespace Deed

/-- A link is counted as executed whose type has no verb. -/
def isUnknown : Deed → Bool
  | executed _ verb => verb.isNone
  | arrived _ | skipped _ _ | called _ _ | returned _ _ _ => false

/-- The verb of a link is called for the first attempt. -/
def isFirstCall : Deed → Bool
  | called _ x => x.attempt = 1
  | arrived _ | skipped _ _ | executed _ _ | returned _ _ _ => false

/-- Nothing more is done of a link. -/
def isFinal : Deed → Bool
  | skipped _ _ | returned _ _ (.ok _) => true
  | executed _ verb => verb.isNone
  | returned d x (.error _) => ¬ x.attempt < d.action.attempts
  | arrived _ | called _ _ => false

end Deed

/-- The deed is told of by an event of a kind. -/
def Deed.tells (now : Nat) (p : Event → Bool) (deed : Deed) : Bool :=
  ((deed.event? now).map p).getD false

/-- **What is told of a deed, against what is entered of it.** -/
structure Deed.Matches (now : Nat) (deed : Deed) : Prop where
  started : deed.tells now Event.isStarted = deed.isFirstCall
  retrying : deed.tells now Event.isRetrying = deed.isRetry
  succeeded : deed.tells now Event.isSucceeded = ((deed.ending? now).map (·.2)).getD false
  failed : (deed.tells now Event.isFailed).toNat + deed.isUnknown.toNat
    = (((deed.ending? now).map (!·.2)).getD false).toNat
  terminal : (deed.tells now Event.isTerminal).toNat + deed.isUnknown.toNat = deed.isFinal.toNat

/-- **A deed and its event match** in what is counted. -/
theorem Deed.matches (now : Nat) (deed : Deed) : deed.Matches now := by
  cases deed with
  | arrived | skipped => exact ⟨rfl, rfl, rfl, rfl, rfl⟩
  | executed d verb =>
    cases verb with
    | none | some => exact ⟨rfl, rfl, rfl, rfl, rfl⟩
  | called d x =>
    by_cases hx : x.attempt = 1 <;> constructor <;>
      simp [tells, event?, isFirstCall, isRetry, ending?, isUnknown, isFinal, hx, Event.isStarted,
        Event.isRetrying, Event.isSucceeded, Event.isFailed, Event.isTerminal]
  | returned d x result =>
    cases result with
    | ok => exact ⟨rfl, rfl, rfl, rfl, rfl⟩
    | error err =>
      by_cases ha : x.attempt < d.action.attempts <;> constructor <;>
        simp [tells, event?, isFirstCall, isRetry, ending?, isUnknown, isFinal, ha,
          Event.isStarted, Event.isRetrying, Event.isSucceeded, Event.isFailed, Event.isTerminal]

/-- What is one or the other, and not both, is counted once. -/
theorem countP_add_countP {α : Type} {p q r : α → Bool}
    (hpq : ∀ a, (p a).toNat + (q a).toNat = (r a).toNat) (l : List α) :
    l.countP p + l.countP q = l.countP r := by
  induction l with
  | nil => rfl
  | cons a l ih =>
    have ha := hpq a
    rw [countP_cons_toNat, countP_cons_toNat, countP_cons_toNat]
    omega

/-- The events of a kind are counted by the deeds that they tell of. -/
theorem countP_eventsOf (p : Event → Bool) (l : List (Nat × Deed)) :
    (eventsOf l).countP p = l.countP fun x => x.2.tells x.1 p :=
  List.countP_filterMap

section Counts

variable (l : List (Nat × Deed))

/-- There are as many starts among the events as first calls among the deeds. -/
theorem countP_isStarted : (eventsOf l).countP Event.isStarted = l.countP (·.2.isFirstCall) := by
  simp only [countP_eventsOf, (Deed.matches _ _).started]

theorem countP_isRetrying : (eventsOf l).countP Event.isRetrying = l.countP (·.2.isRetry) := by
  simp only [countP_eventsOf, (Deed.matches _ _).retrying]

theorem countP_isSucceeded :
    (eventsOf l).countP Event.isSucceeded = (endings l).countP (·.2) := by
  rw [endings, List.countP_filterMap]
  simp only [countP_eventsOf, (Deed.matches _ _).succeeded]

/-- The failures fall short of the endings in failure by the links with no verb. -/
theorem countP_isFailed : (eventsOf l).countP Event.isFailed + l.countP (·.2.isUnknown)
    = (endings l).countP (!·.2) := by
  rw [endings, List.countP_filterMap, countP_eventsOf]
  exact countP_add_countP (fun x => (Deed.matches x.1 x.2).failed) l

/-- Every execution has a verb, or its type is unknown. -/
theorem countP_isReached : l.countP (·.2.isReached) + l.countP (·.2.isUnknown)
    = l.countP (·.2.isExecution) := by
  refine countP_add_countP (fun x => ?_) l
  obtain ⟨-, deed⟩ := x
  cases deed with
  | executed d verb => cases verb <;> rfl
  | arrived | skipped | called | returned => rfl

end Counts

/-- What is told of a link, by its deeds. -/
theorem countP_isTerminal (now : Nat) (ds : List Deed) :
    (ds.filterMap (Deed.event? now)).countP Event.isTerminal + ds.countP Deed.isUnknown
      = ds.countP Deed.isFinal := by
  rw [List.countP_filterMap]
  exact countP_add_countP (fun deed => (deed.matches now).terminal) ds

/-! ## Every execution starts once -/

/-- There are as many first calls as executions whose verb is reached. -/
theorem Trying.firstCalls {w w' : Option Effort} {runs runs' : Nat} {ds : List Deed}
    (tr : Trying now w w' runs runs' ds) (hw : Effort.Counted w) :
    ds.countP Deed.isFirstCall = ds.countP Deed.isReached := by
  have hnext (x : Execution) (hx : 0 < x.attempt) : x.next.attempt ≠ 1 :=
    Nat.ne_of_gt (Nat.succ_lt_succ hx)
  cases tr with
  | apart _ _ hd =>
    rw [Deed.countP_of_apart hd (fun _ => rfl) fun _ _ => rfl,
      Deed.countP_of_apart hd (fun _ => rfl) fun _ _ => rfl]
  | unknown | paused | ended => rfl
  | begun d verb x _ _ _ ha => simp [List.countP_cons, Deed.isFirstCall, Deed.isReached, ha]
  | retried d x _ hx | again d x _ hx =>
    simpa [List.countP_cons, Deed.isReached, Deed.isFirstCall] using hnext x (hw _ hx)

namespace Tower

open History

variable {t : Tower σ} {e : Engine σ} {n r i : Nat} {H : History h} {seen : List Event}

/-- In every flight of a chronicle the calls are counted. -/
theorem Chronicle.counted (c : Chronicle h (.start e n) H t) {w : Option Effort}
    (hw : w ∈ t.efforts) : Effort.Counted w := by
  obtain ⟨o, ho, rfl⟩ := List.mem_map.1 hw
  obtain ⟨i, hi⟩ := List.getElem?_of_mem ho
  cases o with
  | none => exact fun _ he => (nomatch he)
  | some s => exact c.attempt_pos hi

/-- **Every execution that has a verb starts once.** -/
theorem Chronicle.firstCalls (c : Chronicle h (.start e n) H t) (hk : H.Kept) :
    H.timed.countP (·.2.isFirstCall) = H.timed.countP (·.2.isReached) := by
  induction c with
  | refl => rfl
  | @tail H t es t' c st ih =>
    have hk := kept_append.1 hk
    have hes : es.timed.countP (·.2.isFirstCall) = es.timed.countP (·.2.isReached) := by
      have hef := st.trying hk.2
      generalize es.timed = l at hef
      cases hef with
      | kept | launched => rfl
      | moved hi _ tr =>
        rw [countP_now, countP_now]
        exact tr.firstCalls (c.counted (List.mem_of_getElem? hi))
    rw [timed_append, List.countP_append, List.countP_append, ih hk.1, hes]

end Tower

/-! ## Every link ends once -/

/-- What a move does of a link: it opens one, or closes one, or both, or goes on with one. -/
inductive Closing (s s' : Stage) : List Deed → Prop where
  | opened (d : Dispatch) (hs : s.link? = none) (hs' : s'.link? = some d) :
      Closing s s' [.arrived d]
  | refused (d : Dispatch) (reason : SkipReason) (hs : s.link? = none) (hs' : s'.link? = none) :
      Closing s s' [.arrived d, .skipped d reason]
  | goesOn {ds} (hs : s'.link? = s.link?) (hn : s.link? = none → ds = [])
      (ha : ∀ d, .arrived d ∉ ds) (hd : ds.countP Deed.isFinal = 0) : Closing s s' ds
  | closed {ds} (d : Dispatch) (hs : s.link? = some d) (hs' : s'.link? = none)
      (ha : ∀ d, .arrived d ∉ ds) (hd : ds.countP Deed.isFinal = 1) : Closing s s' ds

/-- **A move opens a link, closes one, does both or goes on with one.** -/
theorem Move.closing {s e ds s' e'} (m : Move h now s e ds s' e') : Closing s s' ds := by
  cases m with
  | nothing | pass | debounce | wake | look | write | call | await | answer =>
    exact .goesOn rfl (fun _ => rfl) (by simp) rfl
  | duplicate => exact .refused _ _ rfl rfl
  | enter => exact .opened _ rfl rfl
  | throttle | refuse | unknown | succeed => exact .closed _ rfl rfl (by simp) rfl
  | begin | again => exact .goesOn rfl nofun (by simp) rfl
  | retry ha | backOff ha =>
    exact .goesOn rfl nofun (by simp) (by simp [Deed.isFinal, ha])
  | @fail _ rest _ _ _ ha =>
    refine .closed _ rfl ?_ (by simp) (by simp [Deed.isFinal, ha])
    cases rest <;> rfl

/-- The deeds of a link that has come to its end. -/
structure Closed (ds : List Deed) : Prop where
  own : ∀ d, .arrived d ∉ ds
  final : ds.countP Deed.isFinal = 1

/-- **Flights by the ends of their links**: all have ended, but the one that is in flight. -/
inductive Chapters : Links → Stage → Prop where
  | closed {links s} (hl : ∀ p ∈ links, Closed p.2) (hs : s.link? = none) : Chapters links s
  | opened {links d ds s} (hl : ∀ p ∈ links, Closed p.2) (ha : ∀ d, .arrived d ∉ ds)
      (hd : ds.countP Deed.isFinal = 0) (hs : s.link? = some d) : Chapters (links ++ [(d, ds)]) s

/-- **A move goes on with the chapter of a link.** -/
theorem Chapters.move {links : Links} {s s' : Stage} {ds : List Deed} (ch : Chapters links s)
    (cl : Closing s s' ds) :
    ∃ links' : Links, links'.deeds = links.deeds ++ ds ∧ Chapters links' s' := by
  cases ch with
  | closed hl hs =>
    cases cl with
    | opened d _ hs' =>
      exact ⟨links ++ [(d, [])], by simp, .opened hl (by simp) rfl hs'⟩
    | refused d reason _ hs' =>
      refine ⟨links ++ [(d, [.skipped d reason])], by simp, .closed ?_ hs'⟩
      exact Links.forall_concat (P := fun _ ds => Closed ds) hl ⟨by simp, rfl⟩
    | goesOn hs' hn =>
      exact ⟨links, by rw [hn hs, List.append_nil], .closed hl (hs'.trans hs)⟩
    | closed _ hs₀ => simp [hs] at hs₀
  | @opened links d ds₀ _ hl ha hd hs =>
    cases cl with
    | opened _ hs₀ | refused _ _ hs₀ => simp [hs] at hs₀
    | goesOn hs' _ ha' hd' =>
      refine ⟨links ++ [(d, ds₀ ++ ds)], by simp, .opened hl ?_ ?_ (hs'.trans hs)⟩
      · exact fun d' hmem => (List.mem_append.1 hmem).elim (ha d') (ha' d')
      · rw [List.countP_append, hd, hd']
    | closed _ _ hs' ha' hd' =>
      refine ⟨links ++ [(d, ds₀ ++ ds)], by simp, .closed ?_ hs'⟩
      refine Links.forall_concat (P := fun _ ds => Closed ds) hl ⟨fun d' hmem => ?_, ?_⟩
      · exact (List.mem_append.1 hmem).elim (ha d') (ha' d')
      · rw [List.countP_append, hd, hd']

namespace Tower

open History

variable {t : Tower σ} {e : Engine σ} {n r i : Nat} {H : History h} {seen : List Event}

/-- **The moves of a flight end its links one after the other.** -/
theorem Trail.chapters {ms : List (Moment h)} {s : Stage} (tr : Trail h ms s) :
    ∃ links : Links, links.deeds = ms.flatMap Moment.deeds ∧ Chapters links s := by
  induction tr with
  | launched d => exact ⟨[], rfl, .closed (by simp) rfl⟩
  | @moved ms m tr ih =>
    obtain ⟨links, hl, ch⟩ := ih
    obtain ⟨links', hl', ch'⟩ := ch.move m.move.closing
    exact ⟨links', by rw [hl', hl, List.flatMap_append, List.flatMap_singleton], ch'⟩

/-- **All links of a flight have ended, if none is in flight.** -/
theorem Chronicle.closed (c : Chronicle h (.start e n) H t) (hk : H.Kept)
    (hi : ∀ s, t.stages[i]? = some (some s) → s.link? = none) :
    ∃ links : Links, links.deeds = (own i H).flatMap Moment.deeds ∧ ∀ p ∈ links, Closed p.2 := by
  cases c.standing i with
  | unlaunched _ hown => exact ⟨[], by rw [hown]; rfl, by simp⟩
  | underWay hs tr =>
    obtain ⟨links, hl, ch⟩ := tr.chapters
    cases ch with
    | closed hclosed => exact ⟨links, hl, hclosed⟩
    | opened _ _ _ hlink => simp [hi _ hs] at hlink
  | givenUp _ hf => exact absurd hf (hk i _)

/-- The events that are told count the same as the metrics, but for links of unknown types. -/
structure Tallied (H : History h) (told : List Event) (m : Metrics) : Prop where
  executed : told.countP Event.isStarted + H.deeds.countP Deed.isUnknown = m.executed
  succeeded : told.countP Event.isSucceeded = m.succeeded
  failed : told.countP Event.isFailed + H.deeds.countP Deed.isUnknown = m.failed
  retried : told.countP Event.isRetrying = m.retried

/-- **Events and metrics tell the same.**  Whatever happens to an engine and its flights, short of
flights being given up and of metrics being reset: at every instant the events that tell of starts,
retries and ends are as many as the metrics count, but for links whose type has no verb, which are
counted as executed and as failed; and of a flight with no link in flight, every link has told once
how it has ended, but for those. -/
theorem Watch.tally {cap keep : Nat} (he : e.metrics = .new cap keep)
    (ha : e.bus.At r e.bus.sent) (w : Watch h r (.start e n) seen H t)
    (l : Ledger h (.start e n) H t) (hk : t.engine.bus.KeepsUp r) (hkept : H.Kept) :
    Tallied H (seen ++ t.engine.bus.waiting r) t.engine.metrics
      ∧ ∀ i : Nat, (∀ s, t.stages[i]? = some (some s) → s.link? = none) →
        ∃ links : Links, links.deeds = (own i H).flatMap Moment.deeds
          ∧ ∀ p ∈ links, (∀ d, .arrived d ∉ p.2) ∧ ∀ now,
            (p.2.filterMap (Deed.event? now)).countP Event.isTerminal
              + p.2.countP Deed.isUnknown = 1 := by
  have hm := l.entered he
  rw [w.events ha hk, History.events]
  refine ⟨⟨?_, ?_, ?_, ?_⟩, fun i hi => ?_⟩
  · rw [countP_isStarted, w.chronicle.firstCalls hkept, countP_deeds, countP_isReached, hm.executed]
  · rw [countP_isSucceeded, hm.succeeded]
  · rw [countP_deeds, countP_isFailed, hm.failed]
  · rw [countP_isRetrying, hm.retried]
  · obtain ⟨links, hl, hclosed⟩ := w.chronicle.closed hkept hi
    exact ⟨links, hl, fun p hp => ⟨(hclosed p hp).own, fun now =>
      (countP_isTerminal now p.2).trans (hclosed p hp).final⟩⟩

/-- The tally of the lost navigation comes out even. -/
theorem tally_lost : ∃ (H : History Console.host) (t : Tower Store),
    Watch Console.host 0 (.start listened 0) [] H t ∧ Ledger Console.host (.start listened 0) H t
      ∧ t.engine.bus.KeepsUp 0 ∧ H.Kept ∧ t.engine.bus.waiting 0 = busOfLost.kept
      ∧ Tallied H busOfLost.kept t.engine.metrics := by
  obtain ⟨H, t, w, l, hk, hkept, hwaiting⟩ := watched_lost
  have htallied : Tallied H (t.engine.bus.waiting 0) t.engine.metrics :=
    (w.tally rfl at_listened l hk hkept).1
  exact ⟨H, t, w, l, hk, hkept, hwaiting, hwaiting ▸ htallied⟩

/-- An action of a type that has no verb. -/
def unheardOf : Dispatch := { action := { type := "teleport" } }

/-- An unknown verb is counted as executed, and the subscribers hear nothing of it. -/
theorem run_unheardOf : ∃ ds e', Run Console.host 0 (.resting (.ofDispatch unheardOf)) listened ds
      (.landed (.error (.unknownVerb "teleport"))) e'
    ∧ e'.bus = listened.bus ∧ e'.metrics.executed = 1 := by
  refine ⟨_, _, .move (.enter ?_) (.move (.pass ?_ ?_) (.move (.unknown ?_ ?_)
    (.rest (Flight.waits_landed _)))), ?_⟩
  all_goals decide +kernel

/-- **Of a link whose type has no verb nothing is told**, while it is counted as executed and as
failed. -/
theorem not_told_of_unknown :
    ¬ ∀ (seen : List Event) (H : History Console.host) (t : Tower Store),
      Watch Console.host 0 (.start listened 0) seen H t →
      Ledger Console.host (.start listened 0) H t → t.engine.bus.KeepsUp 0 → H.Kept →
      (∀ s, some s ∈ t.stages → s.link? = none) →
      (seen ++ t.engine.bus.waiting 0).countP Event.isStarted = t.engine.metrics.executed
        ∧ (seen ++ t.engine.bus.waiting 0).countP Event.isSucceeded = t.engine.metrics.succeeded
        ∧ (seen ++ t.engine.bus.waiting 0).countP Event.isFailed = t.engine.metrics.failed
        ∧ (seen ++ t.engine.bus.waiting 0).countP Event.isRetrying
          = t.engine.metrics.retried := by
  intro hall
  obtain ⟨ds, e', ru, hbus, hexecuted⟩ := run_unheardOf
  obtain ⟨H, hH, w, l⟩ := Run.watched 0 ru
  have hkeeps : e'.bus.KeepsUp 0 := by
    rw [hbus]
    exact ⟨0, rfl, Nat.le_refl 0⟩
  have hwaiting : e'.bus.waiting 0 = [] := by
    rw [hbus]
    rfl
  have hstarted : (e'.bus.waiting 0).countP Event.isStarted = e'.metrics.executed :=
    (hall [] H _ w l hkeeps hH.kept (by simp [Stage.link?, Flight.link?])).1
  rw [hwaiting, hexecuted] at hstarted
  cases hstarted

end Tower

end RemoteScreen
