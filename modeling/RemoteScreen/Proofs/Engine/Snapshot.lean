import RemoteScreen.Library.Standard
import RemoteScreen.Proofs.Engine.Saga
import RemoteScreen.Proofs.Engine.Throttle

/-!
# Proofs/Engine/Snapshot — an execution goes by one snapshot

    let in ──(debounce)──▸ executed, called ──▸ … ──▸ called ──▸ … ──▸ called
                               │                        ▴                ▴
                           snapshot ──payload───────────┴────────────────┘

When its debounce is over, a link takes a snapshot of the data, with its overlay on top: the
condition is checked in it and the payload filled in, and that payload is handed on from attempt to
attempt.  The data may be written to at every wait in between.

* `Move.called` — what is called has just begun, or goes on with what was called before;
* `Chronicle.calls` — **executions are told apart by their ids, and each has begun somewhere**;
* `Chronicle.one_snapshot` — **condition and payload are of one snapshot, for all attempts**, and
  the overlay gets into the data by no way but what a verb writes.
-/

namespace RemoteScreen

variable {σ : Type} {h : Host σ} {now : Nat}

/-! ## What a verb goes on with -/

/-- **What can be left of a script**, whatever it has seen and been replied. -/
inductive Script.Reaches (s : Script) : Script → Prop where
  | refl : Reaches s s
  | look {next : Json → Script} (r : Reaches s (.look next)) (data : Json) : Reaches s (next data)
  | write {path v next} (r : Reaches s (.write path v next)) : Reaches s next
  | call {c : Call} {next : c.Reply → Script} (r : Reaches s (.call c next)) (reply : c.Reply) :
      Reaches s (next reply)

namespace Stage

/-- The attempt under way, with what is left of its script. -/
def script? : Stage → Option (Execution × Script)
  | running _ _ x script => some (x, script)
  | resting (.calling _ _ x c next _) => some (x, .call c next)
  | _ => none

/-- What is left of a script is left of what the verb makes of its input. -/
def Faithful (s : Stage) : Prop :=
  ∀ x script, s.script? = some (x, script) → (x.verb x.input).Reaches script

theorem faithful_of_none {s : Stage} (hs : s.script? = none) : s.Faithful := fun x script hx => by
  rw [hs] at hx
  cases hx

/-- A running stage is faithful if the verb on its input reaches the script. -/
theorem faithful_running {d : Dispatch} {rest : List Dispatch} {x : Execution} {script : Script} :
    (running d rest x script).Faithful ↔ (x.verb x.input).Reaches script := by
  refine ⟨fun hf => hf x script rfl, fun hr y script' hy => ?_⟩
  obtain ⟨rfl, rfl⟩ := Prod.mk.inj (Option.some.inj hy)
  exact hr

end Stage

/-- **A move goes on with the script of its attempt, or with a new one.** -/
theorem Move.faithful {s e ds s' e'} (m : Move h now s e ds s' e') (hs : s.Faithful) :
    s'.Faithful := by
  cases m with
  | look => exact Stage.faithful_running.2 (.look (Stage.faithful_running.1 hs) _)
  | write => exact Stage.faithful_running.2 (.write (Stage.faithful_running.1 hs))
  | call => exact Stage.faithful_running.2 (.call (Stage.faithful_running.1 hs) _)
  | await => exact hs
  | answer => exact Stage.faithful_running.2 (.call (hs _ _ rfl) _)
  | begin hc hv hb =>
    obtain rfl := congrArg Prod.fst hb
    exact Stage.faithful_running.2 .refl
  | retry | again => exact Stage.faithful_running.2 .refl
  | @fail _ rest => exact Stage.faithful_of_none (by cases rest <;> rfl)
  | _ => exact Stage.faithful_of_none rfl

/-! ## What is called -/

/-- **What is called has just begun, or goes on with what was called before**, and it is the verb of
the execution on its input. -/
theorem Move.called {s e ds s' e'} (m : Move h now s e ds s' e') {d : Dispatch} {x : Execution}
    (hx : .called d x ∈ ds) :
    (∃ rest, s' = .running d rest x (x.verb x.input))
      ∧ (x.Begins (fun _ => True) d e ∧ .executed d (some x.verb) ∈ ds
          ∧ x.id = toString (e.runs + 1) ∧ e'.runs = e.runs + 1
        ∨ ∃ y due, s.effort? = some ⟨d, y, due⟩ ∧ x = y.next) := by
  cases m with
  | @begin d' rest _ verb y _ hc hv hb =>
    obtain ⟨rfl, rfl⟩ : d = d' ∧ x = y := by simpa using hx
    have hr : (e.begun h now d verb).2.runs = e.runs + 1 := (Engine.told_begun e d verb).runs
    rw [hb] at hr
    obtain rfl := congrArg Prod.fst hb
    exact ⟨⟨rest, rfl⟩, .inl ⟨⟨trivial, hc, hv, rfl, rfl, rfl⟩, List.mem_cons_self, rfl, hr⟩⟩
  | @retry d' rest y =>
    obtain ⟨rfl, rfl⟩ : d = d' ∧ x = y.next := by simpa using hx
    exact ⟨⟨rest, rfl⟩, .inr ⟨y, none, rfl, rfl⟩⟩
  | @again d' rest y wake =>
    obtain ⟨rfl, rfl⟩ : d = d' ∧ x = y.next := by simpa using hx
    exact ⟨⟨rest, rfl⟩, .inr ⟨y, some wake, rfl, rfl⟩⟩
  | _ => simp at hx

/-- A move makes one call at most. -/
theorem Move.called_unique {s e ds s' e'} (m : Move h now s e ds s' e') {d d' : Dispatch}
    {x x' : Execution} (hx : .called d x ∈ ds) (hx' : .called d' x' ∈ ds) : d = d' ∧ x = x' := by
  cases m <;> simp_all

/-- An execution that is under way after a move has been called by it, or was under way before. -/
theorem Trying.effort {w w' : Option Effort} {runs runs' : Nat} {ds : List Deed}
    (tr : Trying now w w' runs runs' ds) {effort : Effort} (hw' : w' = some effort) :
    .called effort.link effort.execution ∈ ds
      ∨ ∃ due, w = some ⟨effort.link, effort.execution, due⟩ := by
  cases tr with
  | apart hw => exact .inr ⟨effort.due, hw ▸ hw'⟩
  | unknown _ _ hnone | ended _ _ _ _ hnone => simp [hnone] at hw'
  | begun d verb x _ hsome | retried d x _ _ hsome | again d x _ _ hsome =>
    obtain rfl : _ = effort := by simpa [hsome] using hw'
    exact .inl (by simp)
  | paused d x _ hw hsome =>
    obtain rfl : _ = effort := by simpa [hsome] using hw'
    exact .inr ⟨none, hw⟩

/-! ## What gets into the data -/

/-- **A move leaves the shared data alone, unless a verb writes to it.** -/
theorem Move.context {s e ds s' e'} (m : Move h now s e ds s' e') :
    e'.context = e.context
      ∨ ∃ d rest x path v next, s = .running d rest x (.write path v next)
        ∧ e'.context = e.context.set path v := by
  cases m with
  | write => exact .inr ⟨_, _, _, _, _, _, rfl, rfl⟩
  | duplicate | throttle | refuse => exact .inl (Engine.told_skip e _ _).context
  | @begin d _ _ verb _ _ _ _ hb =>
    obtain rfl := congrArg Prod.snd hb
    exact .inl (Engine.told_begun e d verb).context
  | retry | backOff => exact .inl (Engine.told_retried e _ _).context
  | succeed | fail =>
    obtain ⟨e₁, ht, he⟩ := Engine.settle_eq_unmark h now e _ _ _
    rw [he]
    exact .inl ht.context
  | _ => exact .inl rfl

/-! ## What is executed -/

/-- A link that is executed is permitted, and if its type has a verb, the verb is called on what the
link says. -/
theorem Move.executed {s e ds s' e'} (m : Move h now s e ds s' e') {d : Dispatch}
    {verb : Option Verb} (hx : .executed d verb ∈ ds) :
    e.refuses d = false
      ∧ ∀ v, verb = some v → ∃ x, .called d x ∈ ds ∧ x.verb = v
        ∧ x.Begins (fun _ => True) d e := by
  cases m with
  | unknown hc =>
    obtain ⟨rfl, rfl⟩ : d = _ ∧ verb = none := by simpa using hx
    exact ⟨hc, fun v hv => (nomatch hv)⟩
  | @begin d' _ _ verb' x _ hc hv hb =>
    obtain ⟨rfl, rfl⟩ : d = d' ∧ verb = some verb' := by simpa using hx
    obtain rfl := congrArg Prod.fst hb
    refine ⟨hc, fun v hv' => ⟨_, List.mem_cons_of_mem _ List.mem_cons_self, ?_, ?_⟩⟩
    · exact Option.some.inj hv'
    · exact ⟨trivial, hc, hv, rfl, rfl, rfl⟩
  | _ => simp at hx

/-- What is not refused has a condition that holds, if any. -/
theorem Engine.holds_of_not_refuses {e : Engine σ} {d : Dispatch} (hr : e.refuses d = false)
    {cond : Condition} (hc : d.action.condition = some cond) :
    cond.holds e.patterns (layer e.context.data d.overlay) = true := by
  rw [refuses, hc] at hr
  simpa [Context.snapshot] using hr

namespace Tower

open History

variable {t t' : Tower σ} {e : Engine σ} {n : Nat} {H : History h}

/-- It is told that the verb of a link is called. -/
structure Calls (H : History h) (i : Nat) (m : Moment h) (d : Dispatch) (x : Execution) : Prop where
  told : .moved i m ∈ H
  called : .called d x ∈ m.deeds

/-- An execution has begun with a move: its link is counted as executed, and its verb called. -/
structure Opens (m : Moment h) (d : Dispatch) (x : Execution) : Prop where
  executed : .executed d (some x.verb) ∈ m.deeds
  called : .called d x ∈ m.deeds
  begins : x.Begins (fun _ => True) d m.engine

/-- A call is the first one of its execution, or one that comes after. -/
def Follows (H : History h) (i : Nat) (m : Moment h) (d : Dispatch) (x : Execution) : Prop :=
  ∃ past m₀ since x₀, H = past ++ .moved i m₀ :: since ∧ Opens m₀ d x₀ ∧ x₀.id = x.id
    ∧ (m = m₀ ∨ .moved i m ∈ since)

/-- **How it stands with what was called**: ids are numbers that were given, and tell executions
apart; each call follows a beginning; and what is under way was called. -/
structure Told (H : History h) (t : Tower σ) : Prop where
  numbered : ∀ i m d x, Calls H i m d x → ∃ k, k ≤ t.engine.runs ∧ x.id = toString k
  alike : ∀ i m d x j m' d' x', Calls H i m d x → Calls H j m' d' x' → x'.id = x.id →
    j = i ∧ d' = d ∧ x'.verb = x.verb ∧ x'.input = x.input
  follows : ∀ i m d x, Calls H i m d x → Follows H i m d x
  underWay : ∀ (i : Nat) s d y due, t.stages[i]? = some (some s) → s.effort? = some ⟨d, y, due⟩ →
    ∃ m, Calls H i m d y

theorem calls_append {es : History h} {i : Nat} {m : Moment h} {d : Dispatch} {x : Execution} :
    Calls (H ++ es) i m d x ↔ Calls H i m d x ∨ Calls es i m d x := by
  constructor
  · rintro ⟨ht, hc⟩
    exact (List.mem_append.1 ht).imp (⟨·, hc⟩) (⟨·, hc⟩)
  · rintro (⟨ht, hc⟩ | ⟨ht, hc⟩)
    · exact ⟨List.mem_append_left _ ht, hc⟩
    · exact ⟨List.mem_append_right _ ht, hc⟩

/-- A call that follows its beginning does so in a longer history. -/
theorem Follows.append {i : Nat} {m : Moment h} {d : Dispatch} {x : Execution}
    (hf : Follows H i m d x) (es : History h) : Follows (H ++ es) i m d x := by
  obtain ⟨past, m₀, since, x₀, rfl, ho, hid, hm⟩ := hf
  refine ⟨past, m₀, since ++ es, x₀, by simp, ho, hid, ?_⟩
  exact hm.imp_right fun hm => List.mem_append_left _ hm

/-- A step that calls no verb and puts nothing under way changes nothing of this. -/
theorem Told.keep {es : History h} (hT : Told H t) (hes : ∀ i m d x, ¬ Calls es i m d x)
    (hr : t'.engine.runs = t.engine.runs)
    (hs : ∀ (i : Nat) s, t'.stages[i]? = some (some s) →
      t.stages[i]? = some (some s) ∨ s.effort? = none) : Told (H ++ es) t' := by
  have hold {i m d x} (hc : Calls (H ++ es) i m d x) : Calls H i m d x :=
    (calls_append.1 hc).resolve_right (hes i m d x)
  refine ⟨fun i m d x hc => hr ▸ hT.numbered i m d x (hold hc), ?_, ?_, ?_⟩
  · exact fun i m d x j m' d' x' hc hc' => hT.alike i m d x j m' d' x' (hold hc) (hold hc')
  · exact fun i m d x hc => (hT.follows i m d x (hold hc)).append es
  · intro i s d y due hi hy
    rcases hs i s hi with hi | hnone
    · obtain ⟨m, hc⟩ := hT.underWay i s d y due hi hy
      exact ⟨m, calls_append.2 (.inl hc)⟩
    · simp [hnone] at hy

/-- **Where a call of a move has come from**: its execution begins with the move and has a new
number, or there was a call of it before. -/
theorem Told.source (hT : Told H t) {i : Nat} {m : Moment h}
    (hi : t.stages[i]? = some (some m.stage)) (he : m.engine = t.engine) {d : Dispatch}
    {x : Execution} (hx : .called d x ∈ m.deeds) :
    (Opens m d x ∧ x.id = toString (t.engine.runs + 1) ∧ m.engine'.runs = t.engine.runs + 1)
      ∨ ∃ m' y, Calls H i m' d y ∧ x = y.next := by
  rcases (m.move.called hx).2 with ⟨hb, hexec, hid, hr⟩ | ⟨y, due, hy, hxy⟩
  · rw [he] at hid hr
    exact .inl ⟨⟨hexec, hx, hb⟩, hid, hr⟩
  · obtain ⟨m', hc⟩ := hT.underWay i _ d y due hi hy
    exact .inr ⟨m', y, hc, hxy⟩

/-- Against a call of a move, an old one has another id, or is of the same execution. -/
theorem Told.alike_called (hT : Told H t) {i : Nat} {m : Moment h}
    (hi : t.stages[i]? = some (some m.stage)) (he : m.engine = t.engine) {j : Nat} {m' : Moment h}
    {d' d : Dispatch} {x' x : Execution} (hold : Calls H j m' d' x') (hx : .called d x ∈ m.deeds)
    (hid : x'.id = x.id) : j = i ∧ d' = d ∧ x'.verb = x.verb ∧ x'.input = x.input := by
  rcases hT.source hi he hx with ⟨-, hnew, -⟩ | ⟨m₀, y, hy, rfl⟩
  · obtain ⟨k, hk, hnum⟩ := hT.numbered j m' d' x' hold
    have := toString_injective (hnum.symm.trans (hid.trans hnew))
    omega
  · exact hT.alike i m₀ d y j m' d' x' hy hold hid

/-- A call is an old one, or is made by the move that is told last. -/
theorem calls_moved {i j : Nat} {m m' : Moment h} {d : Dispatch} {x : Execution}
    (hc : Calls (H ++ [.moved i m]) j m' d x) :
    Calls H j m' d x ∨ (j = i ∧ m' = m ∧ .called d x ∈ m.deeds) := by
  refine (calls_append.1 hc).imp_right fun ⟨htold, hx⟩ => ?_
  obtain ⟨rfl, rfl⟩ : j = i ∧ m' = m := by simpa using htold
  exact ⟨rfl, rfl, hx⟩

/-- A move goes on with what was called. -/
theorem Told.moved {i : Nat} {m : Moment h} (hT : Told H t)
    (hi : t.stages[i]? = some (some m.stage)) (he : m.engine = t.engine)
    (ht' : t' = { t with engine := m.engine', stages := t.stages.set i (some m.stage'),
                         turn := some i }) : Told (H ++ [.moved i m]) t' := by
  have hruns : t.engine.runs ≤ t'.engine.runs := by
    rw [ht', ← he]
    exact m.move.trying.runs_le
  refine ⟨?numbered, ?alike, ?follows, ?underWay⟩
  case numbered =>
    intro j m' d x hc
    rcases calls_moved hc with hold | ⟨rfl, rfl, hx⟩
    · obtain ⟨k, hk, hnum⟩ := hT.numbered j m' d x hold
      exact ⟨k, Nat.le_trans hk hruns, hnum⟩
    · rcases hT.source hi he hx with ⟨-, hnew, hr⟩ | ⟨m₀, y, hy, rfl⟩
      · exact ⟨_, ht' ▸ Nat.le_of_eq hr.symm, hnew⟩
      · obtain ⟨k, hk, hnum⟩ := hT.numbered j m₀ d y hy
        exact ⟨k, Nat.le_trans hk hruns, hnum⟩
  case alike =>
    intro j m' d x j' m'' d' x' hc hc' hid
    rcases calls_moved hc with hold | ⟨rfl, rfl, hx⟩ <;>
      rcases calls_moved hc' with hold' | ⟨rfl, rfl, hx'⟩
    · exact hT.alike j m' d x j' m'' d' x' hold hold' hid
    · obtain ⟨hj, hd, hv, hin⟩ := hT.alike_called hi he hold hx' hid.symm
      exact ⟨hj.symm, hd.symm, hv.symm, hin.symm⟩
    · exact hT.alike_called hi he hold' hx hid
    · obtain ⟨rfl, rfl⟩ := m''.move.called_unique hx hx'
      exact ⟨rfl, rfl, rfl, rfl⟩
  case follows =>
    intro j m' d x hc
    rcases calls_moved hc with hold | ⟨rfl, rfl, hx⟩
    · exact (hT.follows j m' d x hold).append _
    · rcases hT.source hi he hx with ⟨ho, -, -⟩ | ⟨m₀, y, hy, rfl⟩
      · exact ⟨H, m', [], x, rfl, ho, rfl, .inl rfl⟩
      · obtain ⟨past, m₁, since, x₀, rfl, ho, hid, -⟩ := hT.follows j m₀ d y hy
        exact ⟨past, m₁, since ++ [.moved j m'], x₀, by simp, ho, hid, .inr (by simp)⟩
  case underWay =>
    intro j s d y due hj hy
    rw [ht'] at hj
    by_cases hji : j = i
    · subst hji
      obtain rfl : m.stage' = s := by simpa [getElem?_set_self hi] using hj
      rcases m.move.trying.effort hy with hx | ⟨due', hw⟩
      · exact ⟨m, List.mem_append_right _ List.mem_cons_self, hx⟩
      · obtain ⟨m₀, hc⟩ := hT.underWay j _ d y due' hi hw
        exact ⟨m₀, calls_append.2 (.inl hc)⟩
    · obtain ⟨m₀, hc⟩ := hT.underWay j s d y due (by rwa [← getElem?_set_of_ne hji]) hy
      exact ⟨m₀, calls_append.2 (.inl hc)⟩

/-- **A step keeps the account of what was called.** -/
theorem Step.called {es : History h} (st : Step h t es t') (hT : Told H t) : Told (H ++ es) t' := by
  have hnil (i : Nat) (m : Moment h) (d : Dispatch) (x : Execution) : ¬ Calls [] i m d x :=
    fun hc => (List.not_mem_nil hc.told).elim
  cases st with
  | launch d =>
    refine hT.keep hnil rfl fun i s hi => ?_
    rw [List.getElem?_append] at hi
    split at hi
    · exact .inl hi
    · obtain rfl : s = _ := by simpa using List.mem_of_getElem? hi
      exact .inr rfl
  | move ht hi m => exact hT.moved (m := ⟨_, _, _, _, _, _, m⟩) hi rfl rfl
  | rest => exact hT.keep hnil rfl fun _ _ hi => .inl hi
  | @cancel _ i f ht hi =>
    refine hT.keep (fun j m d x hc => ?_) ?_ fun j s hj => .inl ?_
    · simpa using hc.told
    · rw [Flight.cancel]
      split <;> rfl
    · by_cases hji : j = i
      · subst hji
        simp [getElem?_set_self hi] at hj
      · rwa [getElem?_set_of_ne hji] at hj
  | pass => exact hT.keep hnil rfl fun _ _ hi => .inl hi
  | aside _ he => exact hT.keep hnil he.runs fun _ _ hi => .inl hi
  | clear =>
    refine hT.keep (fun j m d x hc => ?_) rfl fun _ _ hi => .inl hi
    simpa using hc.told

/-- **Executions are told apart by their ids, and each call follows the beginning of its own.** -/
theorem Chronicle.calls (c : Chronicle h (.start e n) H t) : Told H t := by
  induction c with
  | refl =>
    have hnil (i : Nat) (m : Moment h) (d : Dispatch) (x : Execution) : ¬ Calls [] i m d x :=
      fun hc => (List.not_mem_nil hc.told).elim
    refine ⟨fun i m d x hc => (hnil i m d x hc).elim, ?_, fun i m d x hc => (hnil i m d x hc).elim,
      fun i s d y due hi => by simp [start] at hi⟩
    exact fun i m d x _ _ _ _ hc => (hnil i m d x hc).elim
  | tail _ st ih => exact st.called ih

/-- **On its way a flight stays faithful to its verb.** -/
theorem Trail.faithful {ms : List (Moment h)} {s : Stage} (tr : Trail h ms s) : s.Faithful := by
  induction tr with
  | launched d => exact Stage.faithful_of_none rfl
  | moved _ ih => exact Move.faithful (Moment.move _) ih

/-- **What a move does to the shared data**: nothing, or what a verb writes that was called, of all
that it can do with its input; and then no member changes but the one that the path begins with. -/
inductive Wrote (past : History h) (i : Nat) (m : Moment h) : Prop where
  | nothing (hc : m.engine'.context = m.engine.context)
  | member {d rest x path v next key behind} (hs : m.stage = .running d rest x (.write path v next))
      (hx : ∃ m₀, Calls past i m₀ d x) (hr : (x.verb x.input).Reaches (.write path v next))
      (hp : Path.segments path = key :: behind)
      (hc : m.engine'.context = m.engine.context.set path v)
      (ho : ∀ other, other ≠ key →
        m.engine'.context.data.members.get? other = m.engine.context.data.members.get? other) :
      Wrote past i m

/-- A faithful stage writes what its verb would, after the call it comes from. -/
theorem Told.wrote (hT : Told H t) {i : Nat} {m : Moment h} (hs : m.stage.Faithful)
    (hi : t.stages[i]? = some (some m.stage)) : Wrote H i m := by
  rcases m.move.context with hc | ⟨d, rest, x, path, v, next, hw, hc⟩
  · exact .nothing hc
  · cases hp : Path.segments path with
    | nil => exact .nothing (by rw [hc, Context.set_of_nil hp])
    | cons key behind =>
      have hx : ∃ m₀, Calls H i m₀ d x := hT.underWay i _ d x none hi (by rw [hw]; rfl)
      refine .member hw hx (hs x _ (by rw [hw]; rfl)) hp hc fun other ho => ?_
      rw [hc, Context.data_set hp, Json.members_set hp ho]

/-! ## One snapshot -/

/-- **An executed link goes by the snapshot of one instant**, that of a move of its flight: it was
let in as long before as it is debounced, its condition holds in the data as it is then, with the
overlay on top, and every attempt is given its payload filled in in the same. -/
structure OneSnapshot (H past : History h) (i : Nat) (m : Moment h) (d : Dispatch)
    (verb : Option Verb) : Prop where
  debounced : ∃ (earlier : History h) (m₀ : Moment h) (between : History h) (rest : List Dispatch),
    past = earlier ++ .moved i m₀ :: between ∧ m₀.stage = .admitted d rest
      ∧ m₀.clock + d.action.debounce.getD 0 ≤ m.clock
  permitted : ∀ cond, d.action.condition = some cond →
    cond.holds m.engine.patterns (layer m.engine.context.data d.overlay) = true
  attempts : ∀ v, verb = some v → ∃ x, .called d x ∈ m.deeds
    ∧ ∀ j m' d' x', Calls H j m' d' x' → x'.id = x.id → j = i ∧ d' = d ∧ x'.verb = v
      ∧ x'.input.payload = Engine.payloadIn d (layer m.engine.context.data d.overlay)

/-- **An execution goes by one snapshot.**  Whatever happens to an engine and its flights, whoever
writes to the shared data and whenever: the condition of an executed link and its payload are of one
snapshot, taken when the debounce is over, with the overlay on top; all attempts, which are known by
the id of their execution, are given that payload; every call of a verb is such an attempt, in the
flight of its link.  And the data changes in a move only where a verb writes to it, which knows of
the overlay nothing but its payload. -/
theorem Chronicle.one_snapshot (c : Chronicle h (.start e n) H t) :
    (∀ past i m since d verb, H = past ++ .moved i m :: since → .executed d verb ∈ m.deeds →
        OneSnapshot H past i m d verb)
      ∧ (∀ i m d x, Calls H i m d x →
          (∃ rest, m.stage' = .running d rest x (x.verb x.input)) ∧ Follows H i m d x)
      ∧ ∀ past i m since, H = past ++ .moved i m :: since → Wrote past i m := by
  have hT := c.calls
  refine ⟨fun past i m since d verb hH hx => ?_, fun i m d x hc => ?_, fun past i m since hH => ?_⟩
  · obtain ⟨t₁, t₂, c₁, st, -⟩ := c.split hH
    obtain ⟨-, hi, hclock, -, -⟩ := st.moment
    obtain ⟨hpermitted, hcalled⟩ := m.move.executed hx
    refine ⟨?_, fun cond hc => Engine.holds_of_not_refuses hpermitted hc, fun v hv => ?_⟩
    · obtain ⟨rest, hready⟩ := m.move.from_ready hx
      rw [hready] at hi
      obtain ⟨earlier, m₀, between, hpast, hs, -, -, hle, -⟩ := c₁.checked hi
      exact ⟨earlier, m₀, between, rest, hpast, hs, hclock ▸ hle⟩
    · obtain ⟨x, hxc, rfl, hb⟩ := hcalled v hv
      refine ⟨x, hxc, fun j m' d' x' hc' hid => ?_⟩
      have hc : Calls H i m d x := ⟨by simp [hH], hxc⟩
      obtain ⟨hj, hd, hverb, hinput⟩ := hT.alike i m d x j m' d' x' hc hc' hid
      exact ⟨hj, hd, hverb, by rw [hinput, hb.payload]; rfl⟩
  · exact ⟨(m.move.called hc.called).1, hT.follows i m d x hc⟩
  · obtain ⟨t₁, t₂, c₁, st, -⟩ := c.split hH
    have hi := st.moment.2.1
    exact c₁.calls.wrote ((c₁.standing i).trail hi).faithful hi

/-! ## A payload is kept while the data changes -/

/-- A way to go that cannot be gone, tried twice, for whoever is named in the data. -/
def errand : Dispatch :=
  { action :=
      { type := "navigate"
        payload := [("text", .str "\x7b\x7bname\x7d\x7d of \x7b\x7btown\x7d\x7d")]
        condition := some (.compare .equals "name" (.str "Ann"))
        retry := some ⟨2, 10, .linear⟩ }
    overlay := some (.obj [("town", .str "Rome")])
    input := some (.str "\x7b\x7bname\x7d\x7d") }

/-- The data knows a name. -/
def knowing (name : String) : Context := Context.empty.set "name" (.str name)

/-- The errand is begun, and is tried again after the name has changed. -/
theorem chronicle_errand : ∃ (H past since : History Console.host) (t : Tower Store)
    (m m' : Moment Console.host) (x : Execution),
    Chronicle Console.host (.start (.new .standard {} (knowing "Ann") []) 0) H t
      ∧ H = past ++ .moved 0 m :: since ∧ .executed errand (some Verb.navigate) ∈ m.deeds
      ∧ .called errand x ∈ m.deeds ∧ m.engine.context.data = .obj [("name", .str "Ann")]
      ∧ Calls H 0 m' errand x.next ∧ m'.clock = 10
      ∧ m'.engine.context.data = .obj [("name", .str "Bob")] := by
  let e₀ : Engine Store := .new .standard {} (knowing "Ann") []
  let e₁ := e₀.mark errand
  let begun := e₁.begun Console.host 0 errand Verb.navigate
  let e₂ := begun.2.retried errand begun.1
  let e₃ := e₂.onContext (·.set "name" (.str "Bob"))
  let lost : VerbError := .missingField "navigateTo"
  have hlost : Verb.navigate begun.1.input = .done (.error lost) := rfl
  have hbegin : Move Console.host 0 (.ready errand []) e₁
      [.executed errand (some Verb.navigate), .called errand begun.1]
      (.running errand [] begun.1 (.done (.error lost))) begun.2 := by
    rw [← hlost]
    exact .begin (by decide +kernel) rfl rfl
  have hbackOff : Move Console.host 0 (.running errand [] begun.1 (.done (.error lost))) begun.2
      [.returned errand begun.1 (.error lost)]
      (.resting (.backingOff errand [] begun.1 (0 + (9 + 1)))) e₂ := .backOff (by decide) rfl
  have hagain : Move Console.host 10 (.resting (.backingOff errand [] begun.1 10)) e₃
      [.called errand begun.1.next] (.running errand [] begun.1.next (Verb.navigate begun.1.input))
      e₃ := .again (Nat.le_refl 10)
  have henter : Move Console.host 0 (.resting (.ofDispatch errand)) e₀ [.arrived errand]
      (.admitted errand []) e₁ := .enter rfl
  have hpass : Move Console.host 0 (.admitted errand []) e₁ [] (.ready errand []) e₁ :=
    .pass rfl nofun
  have c : Chronicle Console.host (.start e₀ 0) []
      ⟨e₀, [some (.resting (.ofDispatch errand))], 0, none⟩ := .tail .refl (.launch errand rfl)
  have c := c.tail (.move (i := 0) (.inl rfl) rfl henter)
  have c := c.tail (.move (i := 0) (.inr rfl) rfl hpass)
  have c := c.tail (.move (i := 0) (.inr rfl) rfl hbegin)
  have c := c.tail (.move (i := 0) (.inr rfl) rfl hbackOff)
  have c := c.tail (.rest (i := 0) rfl rfl (by simp))
  have c := c.tail (.aside rfl (.onContext e₂ (·.set "name" (.str "Bob"))))
  have c := (c.tail (.pass 10 rfl)).tail (.move (i := 0) (.inl rfl) rfl hagain)
  have hBob : ((knowing "Ann").set "name" (.str "Bob")).data = .obj [("name", .str "Bob")] := by
    decide +kernel
  have hkept : e₂.context = knowing "Ann" := by
    rw [(Engine.told_retried begun.2 errand begun.1).context,
      (Engine.told_begun e₁ errand Verb.navigate).context]
    rfl
  refine ⟨_, [_, _], [_, _], _, ⟨_, _, _, _, _, _, hbegin⟩, ⟨_, _, _, _, _, _, hagain⟩, begun.1, c,
    rfl, List.mem_cons_self, List.mem_cons_of_mem _ List.mem_cons_self, ?_,
    ⟨List.mem_append_right _ List.mem_cons_self, List.mem_cons_self⟩, rfl, ?_⟩
  · show (knowing "Ann").data = _
    decide +kernel
  · rw [← hBob, ← hkept]
    rfl

/-- What both attempts are given, though the name has changed in between. -/
theorem one_snapshot_errand : ∃ (H past since : History Console.host) (t : Tower Store)
    (m m' : Moment Console.host) (x : Execution),
    Chronicle Console.host (.start (.new .standard {} (knowing "Ann") []) 0) H t
      ∧ H = past ++ .moved 0 m :: since ∧ .executed errand (some Verb.navigate) ∈ m.deeds
      ∧ m.engine.context.data = .obj [("name", .str "Ann")] ∧ Calls H 0 m' errand x.next
      ∧ m'.clock = 10 ∧ m'.engine.context.data = .obj [("name", .str "Bob")]
      ∧ x.next.input.payload
        = [("text", .str "Ann of Rome"), ("value", .str "\x7b\x7bname\x7d\x7d")] := by
  obtain ⟨H, past, since, t, m, m', x, c, hH, hexec, hcalled, hAnn, hlast, hclock, hBob⟩ :=
    chronicle_errand
  obtain ⟨y, hy, hall⟩ := (c.one_snapshot.1 past 0 m since errand _ hH hexec).attempts
    Verb.navigate rfl
  obtain rfl : y = x := (m.move.called_unique hy hcalled).2
  have hgiven := (hall 0 m' errand y.next hlast rfl).2.2.2
  have hpayload : Engine.payloadIn errand (layer (.obj [("name", .str "Ann")]) errand.overlay)
      = [("text", .str "Ann of Rome"), ("value", .str "\x7b\x7bname\x7d\x7d")] := by
    decide +kernel
  rw [hAnn, hpayload] at hgiven
  exact ⟨H, past, since, t, m, m', y, c, hH, hexec, hAnn, hlast, hclock, hBob, hgiven⟩

end Tower

end RemoteScreen
