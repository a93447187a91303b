import RemoteScreen.Host.Console
import RemoteScreen.Library.Standard
import RemoteScreen.Proofs.Engine.Chronicle

/-!
# Proofs/Engine/Throttle — how far apart executions of one type are

    let in ──▸ throttle checked ──▸ (debounce) ──▸ condition checked ──▸ executed, time noted
               └──────── at one instant ────────┘

The engine notes when a type was last executed, and looks the time up when a link is let in.  So the
times that are noted are those of executions (`Chronicle.dated`), and as long as nothing is
forgotten they are those of the latest ones (`Chronicle.latest`).

A link that is not debounced is executed at the instant at which its throttle is checked, and no
execution of its type is nearer than the throttle (`Chronicle.throttle_window`).  For one that is
debounced this holds of the instant at which it was let in, and of that instant only: two of them
can wait side by side (`not_throttled_sideBySide`).
-/

namespace RemoteScreen

variable {σ : Type} {h : Host σ} {now : Nat}

/-! ## What is noted -/

namespace Engine

@[simp] theorem lastRun_unmark (e : Engine σ) (d : Dispatch) : (e.unmark d).lastRun = e.lastRun :=
  rfl

theorem lastRun_skip (e : Engine σ) (d : Dispatch) (reason : SkipReason) :
    (e.skip d reason).lastRun = e.lastRun := (told_skip e d reason).lastRun

/-- Settling an attempt leaves the times of executions as they are. -/
theorem lastRun_settle (e : Engine σ) (d : Dispatch) (x : Execution)
    (result : Except VerbError Unit) : (settle h now d x result e).2.lastRun = e.lastRun := by
  obtain ⟨e', ht, he⟩ := settle_eq_unmark h now e d x result
  rw [he, lastRun_unmark, ht.lastRun]

end Engine

/-- What happens to the noted times when some links start to be executed. -/
inductive Dating (now : Nat) (started : List Dispatch) (times times' : Keyed Nat) : Prop where
  | kept (hd : started = []) (ht : times' = times)
  | dated (d : Dispatch) (hd : started = [d]) (ht : times' = times.insert d.action.type now)

/-- **A move notes the time of the link that it starts to execute, and no other.** -/
theorem Move.dating {s e ds s' e'} (m : Move h now s e ds s' e') :
    Dating now (ds.filterMap Deed.started?) e.lastRun e'.lastRun := by
  cases m with
  | nothing | enter | pass | debounce | wake | look | write | call | await | answer | again =>
    exact .kept rfl rfl
  | duplicate | throttle | refuse => exact .kept rfl (Engine.lastRun_skip e _ _)
  | @unknown d => exact .dated d rfl rfl
  | @begin d _ _ verb _ _ _ _ hb =>
    refine .dated d rfl ?_
    have ht : (e.begun h now d verb).2.lastRun = e.lastRun.insert d.action.type now :=
      (Engine.told_begun e d verb).lastRun
    rw [hb] at ht
    exact ht
  | succeed | fail => exact .kept rfl (Engine.lastRun_settle e _ _ _)
  | retry | backOff => exact .kept rfl (Engine.told_retried e _ _).lastRun

namespace Tower

open History

variable {t t' : Tower σ} {i : Nat}

/-- A step that forgets nothing notes the time of the link that starts to be executed. -/
theorem Step.dating {es : History h} (st : Step h t es t') (hc : .cleared ∉ es) :
    ∃ started, es.starts = started.map (·, t.clock)
      ∧ Dating t.clock started t.engine.lastRun t'.engine.lastRun := by
  cases st with
  | launch | rest | pass => exact ⟨[], rfl, .kept rfl rfl⟩
  | move ht hi m => exact ⟨_, List.append_nil _, m.dating⟩
  | @cancel _ _ f ht hi =>
    refine ⟨[], rfl, .kept rfl ?_⟩
    rw [Flight.cancel]
    split <;> rfl
  | aside ht he => exact ⟨[], rfl, .kept rfl he.lastRun⟩
  | clear => simp at hc

/-- Time never runs back. -/
theorem Step.clock_le {es : History h} (st : Step h t es t') : t.clock ≤ t'.clock := by
  cases st with
  | pass n => exact Nat.le_add_right _ n
  | launch | move | rest | cancel | aside | clear => exact Nat.le_refl _

/-- The times that are noted are those of executions, and none of these is to come. -/
structure Dated (H : History h) (t : Tower σ) : Prop where
  past : ∀ d n, (d, n) ∈ H.starts → n ≤ t.clock
  noted : ∀ type n, t.engine.lastRun.get? type = some n →
    ∃ d, d.action.type = type ∧ (d, n) ∈ H.starts

/-- The times that are noted are those of the latest executions. -/
def Latest (H : History h) (t : Tower σ) : Prop :=
  ∀ d n, (d, n) ∈ H.starts → ∃ last, t.engine.lastRun.get? d.action.type = some last ∧ n ≤ last

/-- **A step notes only times of executions.** -/
theorem Step.dated {H es : History h} (st : Step h t es t') (hD : Dated H t) :
    Dated (H ++ es) t' := by
  by_cases hc : .cleared ∈ es
  · cases st with
    | clear ht => exact ⟨by simpa [starts, Entry.starts] using hD.past, by simp [Engine.clearCache]⟩
    | _ => simp at hc
  · obtain ⟨started, hes, hdating⟩ := st.dating hc
    refine ⟨fun d n hn => ?_, fun type n hn => ?_⟩
    · rw [starts_append, hes] at hn
      rcases List.mem_append.1 hn with hn | hn
      · exact Nat.le_trans (hD.past d n hn) st.clock_le
      · obtain ⟨_, _, heq⟩ := List.mem_map.1 hn
        obtain rfl : t.clock = n := congrArg Prod.snd heq
        exact st.clock_le
    · rw [starts_append, hes]
      cases hdating with
      | kept hd ht =>
        rw [ht] at hn
        obtain ⟨d, hd, hm⟩ := hD.noted type n hn
        exact ⟨d, hd, List.mem_append_left _ hm⟩
      | dated d hd ht =>
        rw [ht, Keyed.get?_insert] at hn
        split at hn
        · next htype =>
          obtain rfl : t.clock = n := Option.some.inj hn
          exact ⟨d, htype, by simp [hd]⟩
        · obtain ⟨d', hd', hm⟩ := hD.noted type n hn
          exact ⟨d', hd', List.mem_append_left _ hm⟩

/-- **The times that are noted are those of executions.** -/
theorem Chronicle.dated {e : Engine σ} (he : e.lastRun = []) {n : Nat} {H : History h}
    (c : Chronicle h (.start e n) H t) : Dated H t := by
  induction c with
  | refl => exact ⟨by simp, by simp [start, he]⟩
  | tail _ st ih => exact st.dated ih

/-- Where nothing is cleared, the time noted for a type is that of its latest execution. -/
theorem Step.latest {H es : History h} (st : Step h t es t') (hc : .cleared ∉ es)
    (hD : Dated H t) (hL : Latest H t) : Latest (H ++ es) t' := by
  intro d n hn
  obtain ⟨started, hes, hdating⟩ := st.dating hc
  rw [starts_append, hes] at hn
  cases hdating with
  | kept hd ht =>
    rw [ht]
    exact hL d n (by simpa [hd] using hn)
  | dated d' hd ht =>
    rw [ht, Keyed.get?_insert]
    split
    · refine ⟨t.clock, rfl, ?_⟩
      rcases List.mem_append.1 hn with hn | hn
      · exact hD.past d n hn
      · have heq : d = d' ∧ n = t.clock := by simpa [hd] using hn
        exact Nat.le_of_eq heq.2
    · next htype =>
      rcases List.mem_append.1 hn with hn | hn
      · exact hL d n hn
      · have heq : d = d' ∧ n = t.clock := by simpa [hd] using hn
        exact absurd (heq.1 ▸ rfl) htype

/-- **As long as nothing is forgotten, the times that are noted are those of the latest
executions.** -/
theorem Chronicle.latest {e : Engine σ} (he : e.lastRun = []) {n : Nat} {H : History h}
    (c : Chronicle h (.start e n) H t) (hc : .cleared ∉ H) : Latest H t := by
  induction c with
  | refl => exact fun d n hn => by simp at hn
  | tail c st ih =>
    obtain ⟨hcH, hces⟩ := not_or.1 (mt List.mem_append.2 hc)
    exact st.latest hces (c.dated he) (ih hcH)

/-! ## When the throttle is checked -/

/-- An action that is not throttled lies a whole window after the time noted for its type. -/
theorem Engine.le_of_not_isThrottled {e : Engine σ} {a : Action} {w last : Nat}
    (ht : e.isThrottled now a = false) (hw : a.throttle = some w)
    (hl : e.lastRun.get? a.type = some last) (hle : last ≤ now) : last + w ≤ now := by
  rw [Engine.isThrottled, hw, hl] at ht
  have hfar : ¬ now - last < w := by simpa using ht
  omega

/-- A link that is not throttled is a throttle away from what was executed of its type. -/
theorem Latest.far {H : History h} (hL : Latest H t) (hD : Dated H t) {a : Action} {w : Nat}
    (ht : t.engine.isThrottled t.clock a = false) (hw : a.throttle = some w) :
    ∀ d n, (d, n) ∈ H.starts → d.action.type = a.type → n + w ≤ t.clock := by
  intro d n hn hd
  obtain ⟨last, hlast, hle⟩ := hL d n hn
  rw [hd] at hlast
  obtain ⟨d', -, hm⟩ := hD.noted _ _ hlast
  have hfar := Engine.le_of_not_isThrottled ht hw hlast (hD.past d' last hm)
  omega

/-- A link whose debounce is over was found not throttled when it was let in, as long ago as it is
debounced; and only just now if it is not. -/
theorem Chronicle.checked {e : Engine σ} {n : Nat} {H : History h}
    (c : Chronicle h (.start e n) H t) {d : Dispatch} {rest : List Dispatch}
    (hi : t.stages[i]? = some (some (.ready d rest))) :
    ∃ (past : History h) (m : Moment h) (since : History h), H = past ++ .moved i m :: since
      ∧ m.stage = .admitted d rest ∧ m.engine.isThrottled m.clock d.action = false
      ∧ ¬ since.Arrives i ∧ m.clock + d.action.debounce.getD 0 ≤ t.clock
      ∧ (d.action.debounce = none → m.clock = t.clock ∧ since = []) := by
  obtain ⟨past, m, rfl, hs, hclock, tr⟩ := c.last hi (by simp)
  obtain ⟨hds, -, ⟨hadmitted, ht, hzero⟩ | ⟨wake, hwaiting, hwake⟩⟩ := m.move.to_ready hs
  · refine ⟨past, m, [], rfl, hadmitted, ht, not_arrives_nil i, ?_, fun _ => ⟨hclock, rfl⟩⟩
    rw [hzero, Nat.add_zero]
    exact Nat.le_of_eq hclock
  · rw [hwaiting] at tr
    rcases tr.last with ⟨d', -, hs₀⟩ | ⟨earlier, m₀, hown, hs₀, -⟩
    · cases hs₀
    obtain ⟨hadmitted, -, -, ht, hsome, hsum⟩ := m₀.move.to_debouncing hs₀
    obtain ⟨past, between, rfl, -, hbetween⟩ := own_eq_append_cons hown
    refine ⟨past, m₀, between ++ [.moved i m], List.append_assoc _ _ _, hadmitted, ht, ?_, ?_, ?_⟩
    · rintro ⟨m', hm', d', hd'⟩
      rw [own_append, hbetween, List.nil_append, own_moved_self, List.mem_singleton] at hm'
      rw [hm', hds] at hd'
      simp at hd'
    · rw [← hclock]
      exact Nat.le_trans hsum hwake
    · intro hnone
      exact absurd hnone hsome

/-- **Executions of one type keep the distance of the throttle, as far as it is checked.**  Whatever
happens to an engine and its flights, short of its memory being cleared: a link that starts to be
executed was let in as long before as it is debounced, and when it was let in, the executions of
its type lay a throttle back.  If it is not debounced, they do so when it is executed. -/
theorem Chronicle.throttle_window {e : Engine σ} (he : e.lastRun = []) {n : Nat} {H : History h}
    (c : Chronicle h (.start e n) H t) (hc : .cleared ∉ H) {m : Moment h}
    (st : Step h t [.moved i m] t') {d : Dispatch} {verb : Option Verb}
    (hx : .executed d verb ∈ m.deeds) {w : Nat} (hw : d.action.throttle = some w) :
    (∃ (past : History h) (m₀ : Moment h) (since : History h) (rest : List Dispatch),
      H = past ++ .moved i m₀ :: since ∧ m₀.stage = .admitted d rest ∧ ¬ since.Arrives i
        ∧ m₀.clock + d.action.debounce.getD 0 ≤ m.clock
        ∧ ∀ d' n', (d', n') ∈ past.starts → d'.action.type = d.action.type →
            n' + w ≤ m₀.clock)
      ∧ (d.action.debounce = none → ∀ d' n', (d', n') ∈ H.starts →
          d'.action.type = d.action.type → n' + w ≤ m.clock) := by
  obtain ⟨-, hi, hclock, -, -⟩ := st.moment
  obtain ⟨rest, hready⟩ := m.move.from_ready hx
  rw [hready] at hi
  obtain ⟨past, m₀, since, hH, hs, ht, hsince, hle, hnow⟩ := c.checked hi
  obtain ⟨t₀, t₁, c₀, st₀, -⟩ := c.split hH
  have hcpast : .cleared ∉ past := fun hm => hc (hH ▸ List.mem_append_left _ hm)
  obtain ⟨-, -, hclock₀, heng₀, -⟩ := st₀.moment
  rw [hclock₀, heng₀] at ht
  have hfar := (c₀.latest he hcpast).far (c₀.dated he) ht hw
  rw [← hclock₀] at hfar
  rw [← hclock] at hle hnow
  refine ⟨⟨past, m₀, since, rest, hH, hs, hsince, hle, hfar⟩, fun hnone d' n' hn' htype => ?_⟩
  obtain ⟨hsame, rfl⟩ := hnow hnone
  rw [← hsame]
  refine hfar d' n' ?_ htype
  rw [hH, starts_append] at hn'
  rcases List.mem_append.1 hn' with hn' | hn'
  · exact hn'
  · obtain ⟨j, m', hm', verb', hx', -⟩ := mem_starts.1 hn'
    obtain ⟨rfl, rfl⟩ : j = i ∧ m' = m₀ := by simpa using hm'
    obtain ⟨rest', hs'⟩ := m'.move.from_ready hx'
    rw [hs] at hs'
    cases hs'

/-! ## Two that wait side by side -/

/-- A line for the log, at most one in a tenth of a second, after a while. -/
def notice (message : String) : Dispatch :=
  { action :=
      { type := "log", payload := [("message", .str message)]
        throttle := some 100, debounce := some 10 } }

/-- Two flights at an instant. -/
def sideBySide (e : Engine Store) (f g : Flight) (clock : Nat) : Tower Store :=
  { engine := e, stages := [some (.resting f), some (.resting g)], clock }

/-- Two lines that are asked for at once are both executed when their debounce is over. -/
theorem executed_sideBySide : ∃ (H : History Console.host) (t : Tower Store)
    (m : Moment Console.host) (t' : Tower Store),
    Chronicle Console.host (.start (.new .standard {} .empty []) 0) H t ∧ .cleared ∉ H
      ∧ Step Console.host t [.moved 1 m] t' ∧ (∃ verb, .executed (notice "two") verb ∈ m.deeds)
      ∧ m.clock = 10 ∧ (notice "one", 10) ∈ H.starts := by
  let e₀ : Engine Store := .new .standard {} .empty []
  let e₁ := e₀.mark (notice "one")
  let e₂ := e₁.mark (notice "two")
  let waiting (message : String) : Flight := .debouncing (notice message) [] 10
  have c : Chronicle Console.host (.start e₀ 0) []
      (sideBySide e₀ (.ofDispatch (notice "one")) (.ofDispatch (notice "two")) 0) :=
    .tail (.tail .refl (.launch (notice "one") rfl)) (.launch (notice "two") rfl)
  obtain ⟨H₁, hH₁, c₁⟩ := c.debounced (i := 0) rfl rfl rfl rfl rfl rfl
  obtain ⟨H₂, hH₂, c₂⟩ := c₁.debounced (i := 1) rfl rfl (by decide +kernel) rfl rfl rfl
  have c₂ : Chronicle Console.host (.start e₀ 0) (H₁ ++ H₂ ++ [])
      (sideBySide e₂ (waiting "one") (waiting "two") 10) := c₂.tail (.pass 10 rfl)
  have hv : (Verb.builtins .standard).get? "log" = some Verb.log := rfl
  let begun := e₂.begun Console.host 10 (notice "one") Verb.log
  have r : Runs Console.host 10 (.running (notice "one") [] begun.1 (Verb.log begun.1.input))
      begun.2 _ := Runs.tryOn (Runs.fly []) _ _ _
  generalize Engine.follow Console.host 10 (notice "one") [] _ = out at r
  obtain ⟨ds, r⟩ := r
  have r₃ : Run Console.host 10 (.resting (waiting "one")) e₂ _ out.1 out.2 :=
    .move (.wake (Nat.le_refl 10)) (.move (.begin rfl hv rfl) r)
  obtain ⟨H₃, hH₃, c₃⟩ := c₂.poll (i := 0) r₃ rfl rfl
  have hverbs : out.2.verbs.get? "log" = some Verb.log := by
    rw [r₃.acts.verbs]
    exact hv
  have c₃ : Chronicle Console.host (.start e₀ 0) (H₁ ++ H₂ ++ [] ++ H₃)
    (sideBySide out.2 out.1 (waiting "two") 10) := c₃
  have c₄ := c₃.tail (.move (i := 1) (.inl rfl) rfl (.wake (Nat.le_refl 10)))
  refine ⟨_, _, _, _, c₄, ?_, .move (.inr rfl) rfl (.begin rfl hverbs rfl), ?_, rfl, ?_⟩
  · simpa using ⟨hH₁.not_cleared, hH₂.not_cleared, hH₃.not_cleared⟩
  · exact ⟨_, List.mem_cons_self⟩
  · rw [starts_append, starts_append]
    refine List.mem_append_left _ (List.mem_append_right _ ?_)
    have hx : Deed.executed (notice "one") (some Verb.log) ∈ [.executed (notice "one")
        (some Verb.log), .called (notice "one") begun.1] ++ ds := List.mem_cons_self
    exact hH₃.mem_starts hx

/-- Two notices side by side: the second was admitted a window after all executions before it, and
is executed when its debounce is over. -/
theorem throttle_window_sideBySide : ∃ (H : History Console.host) (t : Tower Store)
    (m : Moment Console.host) (t' : Tower Store),
    Chronicle Console.host (.start (.new .standard {} .empty []) 0) H t ∧ .cleared ∉ H
      ∧ Step Console.host t [.moved 1 m] t' ∧ (∃ verb, .executed (notice "two") verb ∈ m.deeds)
      ∧ (notice "two").action.throttle = some 100
      ∧ ∃ (past : History Console.host) (m₀ : Moment Console.host) (since : History Console.host)
          (rest : List Dispatch),
        H = past ++ .moved 1 m₀ :: since ∧ m₀.stage = .admitted (notice "two") rest
          ∧ m₀.clock + 10 ≤ m.clock
          ∧ ∀ d n, (d, n) ∈ past.starts → d.action.type = "log" → n + 100 ≤ m₀.clock := by
  obtain ⟨H, t, m, t', c, hc, st, ⟨verb, hx⟩, -, -⟩ := executed_sideBySide
  obtain ⟨⟨past, m₀, since, rest, hH, hs, -, hle, hfar⟩, -⟩ :=
    c.throttle_window rfl hc st hx (w := 100) rfl
  exact ⟨H, t, m, t', c, hc, st, ⟨verb, hx⟩, rfl, past, m₀, since, rest, hH, hs, hle, hfar⟩

/-- **Executions that are debounced need not keep the distance.** -/
theorem not_throttled_sideBySide :
    ¬ ∀ (H : History Console.host) (t : Tower Store) (i : Nat) (m : Moment Console.host)
        (t' : Tower Store), Chronicle Console.host (.start (.new .standard {} .empty []) 0) H t →
      .cleared ∉ H → Step Console.host t [.moved i m] t' →
      ∀ d verb w, .executed d verb ∈ m.deeds → d.action.throttle = some w →
        ∀ d' n, (d', n) ∈ H.starts → d'.action.type = d.action.type → n + w ≤ m.clock := by
  intro hall
  obtain ⟨H, t, m, t', c, hc, st, ⟨verb, hx⟩, hclock, hstart⟩ := executed_sideBySide
  have hfar := hall H t 1 m t' c hc st _ verb 100 hx rfl _ 10 hstart rfl
  rw [hclock] at hfar
  exact absurd hfar (by decide)

end Tower

end RemoteScreen
