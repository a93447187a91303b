import RemoteScreen.Proofs.Engine.InFlight

/-!
# Proofs/Engine/Chronicle — flights by number, told move by move

A **tower** knows every flight that its engine was ever given, by number.  Flights take **turns**:
the one whose turn it is moves until it waits or has landed, and before that nothing else happens.

    launch ──▸ ⟨turn of i: move, …, move⟩ ──▸ pass ──▸ ⟨turn of j: …⟩ ──▸ clear ──▸ …

A **chronicle** tells what has happened, in order: the moves, each with the instant and the engine
before and after it; the flights that were given up; and when the engine's memory was cleared.

* `Chronicle.split` — **an entry is told by a step**, from where the entries before it have led;
* `Chronicle.standing` — the moves of one flight follow one another to where it now is;
* `Chronicle.turns` — when it is a flight's turn, the last thing told is a move of that flight;
* `Run.turn` — **what moves keep is kept by a turn**, that of a run of moves;
* `Chronicle.of_run` — so whatever polls do is told by a chronicle;
* `Chronicle.of_course` — and so is whatever happens to a fleet.
-/

namespace RemoteScreen

variable {σ : Type} {h : Host σ}

/-! ## Where a link has come from

The moves that lead to each place on the way to an execution, with all that they check and do. -/

section Origin

variable {now : Nat} {s s' : Stage} {e e' : Engine σ} {ds : List Deed} {d : Dispatch}
  {rest : List Dispatch}

/-- A flight comes to its debounce only from its admission, unthrottled, and waits no less than it
says. -/
theorem Move.to_debouncing {wake : Nat} (m : Move h now s e ds s' e')
    (hs : s' = .resting (.debouncing d rest wake)) :
    s = .admitted d rest ∧ ds = [] ∧ e' = e ∧ e.isThrottled now d.action = false
      ∧ d.action.debounce ≠ none ∧ now + d.action.debounce.getD 0 ≤ wake := by
  cases m with
  | @debounce _ _ _ delay n ht hd hn =>
    cases hs
    have hle : delay ≤ n + 1 := hn ▸ h.le_sleep delay e.host
    rw [hd]
    exact ⟨rfl, rfl, rfl, ht, Option.some_ne_none delay, Nat.add_le_add_left hle now⟩
  | @fail _ behind => cases behind <;> cases hs
  | _ => cases hs

/-- A flight is ready after its debounce, or at once where it has none or that is over at once. -/
theorem Move.to_ready (m : Move h now s e ds s' e') (hs : s' = .ready d rest) :
    ds = [] ∧ e' = e
      ∧ ((s = .admitted d rest ∧ e.isThrottled now d.action = false
          ∧ d.action.debounce.getD 0 = 0)
        ∨ ∃ wake, s = .resting (.debouncing d rest wake) ∧ wake ≤ now) := by
  cases m with
  | pass ht hd =>
    cases hs
    exact ⟨rfl, rfl, .inl ⟨rfl, ht, Host.getD_eq_zero_of_sleep hd⟩⟩
  | wake hw =>
    cases hs
    exact ⟨rfl, rfl, .inr ⟨_, rfl, hw⟩⟩
  | @fail _ behind => cases behind <;> cases hs
  | _ => cases hs

/-- A link starts to be executed when its debounce is over. -/
theorem Move.from_ready (m : Move h now s e ds s' e') {verb : Option Verb}
    (hx : .executed d verb ∈ ds) : ∃ rest, s = .ready d rest := by
  cases m with
  | unknown => exact ⟨_, by cases List.mem_singleton.1 hx; rfl⟩
  | begin =>
    rcases List.mem_cons.1 hx with hx | hx
    · exact ⟨_, by cases hx; rfl⟩
    · cases List.mem_singleton.1 hx
  | _ => simp at hx

end Origin

/-! ## What is told -/

/-- A move that was made, and when. -/
structure Moment (h : Host σ) where
  clock : Nat
  stage : Stage
  engine : Engine σ
  deeds : List Deed
  stage' : Stage
  engine' : Engine σ
  move : Move h clock stage engine deeds stage' engine'

/-- What is told of flights. -/
inductive Entry (h : Host σ) where
  | moved (i : Nat) (m : Moment h)
  /-- A flight was given up where it was. -/
  | gaveUp (i : Nat) (f : Flight)
  /-- The engine has forgotten what was executed when, and what is in flight. -/
  | cleared

/-- What was told, in order. -/
abbrev History (h : Host σ) := List (Entry h)

/-- The link that starts to be executed. -/
def Deed.started? : Deed → Option Dispatch
  | executed d _ => some d
  | arrived _ | skipped _ _ | called _ _ | returned _ _ _ => none

namespace Entry

/-- The move, if it is one of this flight. -/
def moment? (i : Nat) : Entry h → Option (Moment h)
  | moved j m => if j = i then some m else none
  | gaveUp _ _ | cleared => none

/-- The deeds that are told. -/
def deeds : Entry h → List Deed
  | moved _ m => m.deeds
  | gaveUp _ _ | cleared => []

/-- The links that start to be executed, and when. -/
def starts : Entry h → List (Dispatch × Nat)
  | moved _ m => (m.deeds.filterMap Deed.started?).map (·, m.clock)
  | gaveUp _ _ | cleared => []

end Entry

namespace History

/-- The moves of one flight. -/
def own (i : Nat) (H : History h) : List (Moment h) := H.filterMap (Entry.moment? i)

/-- The links that have started to be executed, and when. -/
def starts (H : History h) : List (Dispatch × Nat) := H.flatMap Entry.starts

/-- A link of the flight has arrived. -/
def Arrives (H : History h) (i : Nat) : Prop := ∃ m ∈ own i H, ∃ d, .arrived d ∈ m.deeds

@[simp] theorem own_nil (i : Nat) : own i ([] : History h) = [] := rfl

@[simp] theorem own_append (i : Nat) (H H' : History h) : own i (H ++ H') = own i H ++ own i H' :=
  List.filterMap_append

@[simp] theorem own_moved_self (i : Nat) (m : Moment h) : own i [.moved i m] = [m] := by
  simp [own, Entry.moment?]

theorem own_moved_of_ne {i j : Nat} (hj : j ≠ i) (m : Moment h) : own i [.moved j m] = [] := by
  simp [own, Entry.moment?, hj]

@[simp] theorem own_gaveUp (i j : Nat) (f : Flight) : own i [(.gaveUp j f : Entry h)] = [] := rfl

/-- The own moments of a flight are those the history tells of it. -/
theorem mem_own {i : Nat} {m : Moment h} {H : History h} : m ∈ own i H ↔ .moved i m ∈ H := by
  rw [own, List.mem_filterMap]
  constructor
  · rintro ⟨x, hx, hm⟩
    cases x with
    | moved j m' =>
      obtain ⟨rfl, rfl⟩ : j = i ∧ m' = m := by simpa [Entry.moment?] using hm
      exact hx
    | gaveUp | cleared => simp [Entry.moment?] at hm
  · intro hm
    exact ⟨_, hm, by simp [Entry.moment?]⟩

/-- A move of a flight has its place among what is told. -/
theorem own_eq_append_cons {i : Nat} {H : History h} {ms ms' : List (Moment h)} {m : Moment h}
    (hH : own i H = ms ++ m :: ms') :
    ∃ past since, H = past ++ .moved i m :: since ∧ own i past = ms ∧ own i since = ms' := by
  obtain ⟨past, H', rfl, hpast, hH'⟩ := List.filterMap_eq_append_iff.1 hH
  obtain ⟨between, x, since, rfl, hbetween, hx, hsince⟩ := List.filterMap_eq_cons_iff.1 hH'
  obtain rfl : x = .moved i m := by
    cases x with
    | moved j m' =>
      obtain ⟨rfl, rfl⟩ : j = i ∧ m' = m := by simpa [Entry.moment?] using hx
      rfl
    | gaveUp | cleared => simp [Entry.moment?] at hx
  have hnone : own i between = [] := List.filterMap_eq_nil_iff.2 hbetween
  refine ⟨past ++ between, since, by simp, ?_, hsince⟩
  rw [own_append, hnone, List.append_nil]
  exact hpast

theorem not_arrives_nil (i : Nat) : ¬ Arrives ([] : History h) i := fun ⟨_, hm, _⟩ => by
  simp at hm

theorem arrives_append {i : Nat} {H H' : History h} :
    Arrives (H ++ H') i ↔ Arrives H i ∨ Arrives H' i := by
  simp only [Arrives, own_append, List.mem_append, or_and_right, exists_or]

/-- A single moment brings an arrival only of the flight that moves. -/
theorem arrives_moved {i j : Nat} {m : Moment h} :
    Arrives [.moved j m] i ↔ i = j ∧ ∃ d, .arrived d ∈ m.deeds := by
  rw [Arrives]
  by_cases hij : j = i
  · subst hij
    simp
  · rw [own_moved_of_ne hij]
    simp [Ne.symm hij]

@[simp] theorem starts_append (H H' : History h) : starts (H ++ H') = starts H ++ starts H' :=
  List.flatMap_append

@[simp] theorem starts_nil : starts ([] : History h) = [] := rfl

/-- The deeds of all flights. -/
def deeds (H : History h) : List Deed := H.flatMap Entry.deeds

theorem deeds_append (H H' : History h) : deeds (H ++ H') = deeds H ++ deeds H' :=
  List.flatMap_append

/-- A start is an execution at its moment, of whichever flight. -/
theorem mem_starts {d : Dispatch} {n : Nat} {H : History h} :
    (d, n) ∈ starts H
      ↔ ∃ i m, .moved i m ∈ H ∧ ∃ verb, .executed d verb ∈ m.deeds ∧ m.clock = n := by
  simp only [starts, List.mem_flatMap]
  constructor
  · rintro ⟨x, hx, hd⟩
    cases x with
    | moved i m =>
      obtain ⟨d', hd', heq⟩ := List.mem_map.1 hd
      obtain ⟨deed, hdeed, hstarted⟩ := List.mem_filterMap.1 hd'
      obtain ⟨rfl, hclock⟩ := Prod.mk.inj heq
      cases deed with
      | executed d'' verb =>
        obtain rfl : d'' = d' := Option.some.inj hstarted
        exact ⟨i, m, hx, verb, hdeed, hclock⟩
      | _ => cases hstarted
    | gaveUp | cleared => cases hd
  · rintro ⟨i, m, hm, verb, hdeed, rfl⟩
    exact ⟨_, hm, List.mem_map.2 ⟨d, List.mem_filterMap.2 ⟨_, hdeed, rfl⟩, rfl⟩⟩

/-- What is told of one turn: moves of one flight at one instant, with these deeds. -/
structure IsTurn (i now : Nat) (ds : List Deed) (H : History h) : Prop where
  deeds : (own i H).flatMap Moment.deeds = ds
  moved : ∀ x ∈ H, ∃ m, x = .moved i m ∧ m.clock = now

/-- Nothing is cleared during a turn. -/
theorem IsTurn.not_cleared {i now : Nat} {ds : List Deed} {H : History h}
    (hH : IsTurn i now ds H) : .cleared ∉ H := by
  intro hc
  obtain ⟨m, hm, -⟩ := hH.moved _ hc
  cases hm

/-- An execution of a turn starts at the time of the turn. -/
theorem IsTurn.mem_starts {i now : Nat} {ds : List Deed} {H : History h} (hH : IsTurn i now ds H)
    {d : Dispatch} {verb : Option Verb} (hx : .executed d verb ∈ ds) : (d, now) ∈ starts H := by
  rw [← hH.deeds] at hx
  obtain ⟨m, hm, hx⟩ := List.mem_flatMap.1 hx
  obtain ⟨m', heq, hclock⟩ := hH.moved _ (mem_own.1 hm)
  obtain rfl : m = m' := by simpa using heq
  exact History.mem_starts.2 ⟨i, m, mem_own.1 hm, verb, hx, hclock⟩

/-- The deeds of a turn are those of its flight. -/
theorem IsTurn.all {i now : Nat} {ds : List Deed} {H : History h} (hH : IsTurn i now ds H) :
    H.deeds = ds := by
  rw [← hH.deeds, History.deeds, own, List.flatMap_def, List.flatMap_def]
  have hmoved := hH.moved
  clear hH
  induction H with
  | nil => rfl
  | cons x H ih =>
    obtain ⟨m, rfl, -⟩ := hmoved x List.mem_cons_self
    have ih := ih fun y hy => hmoved y (List.mem_cons_of_mem _ hy)
    simpa [Entry.moment?, Entry.deeds] using ih

/-- A link dispatched in a turn has arrived by the end of it. -/
theorem IsTurn.arrives {i now : Nat} {ds : List Deed} {H : History h} (hH : IsTurn i now ds H)
    {d : Dispatch} (hd : .arrived d ∈ ds) : H.Arrives i := by
  rw [← hH.deeds] at hd
  obtain ⟨m, hm, hd⟩ := List.mem_flatMap.1 hd
  exact ⟨m, hm, d, hd⟩

/-- Others make no move in a turn. -/
theorem IsTurn.own_of_ne {i j now : Nat} {ds : List Deed} {H : History h} (hH : IsTurn i now ds H)
    (hj : j ≠ i) : own j H = [] := by
  refine List.eq_nil_iff_forall_not_mem.2 fun m hm => hj ?_
  obtain ⟨m', heq, -⟩ := hH.moved _ (mem_own.1 hm)
  cases heq
  rfl

end History

/-! ## Towers -/

/-- An engine with every flight that it was given, by number, at an instant. -/
structure Tower (σ : Type) where
  engine : Engine σ
  /-- Where each flight is; none if it was given up. -/
  stages : List (Option Stage) := []
  clock : Nat := 0
  /-- The flight whose turn it is. -/
  turn : Option Nat := none

namespace Tower

/-- Where a flight is. -/
def stage? (t : Tower σ) (i : Nat) : Option Stage := t.stages[i]?.join

/-- The link of a flight that is in flight. -/
def link? (t : Tower σ) (i : Nat) : Option Dispatch := (t.stage? i).bind Stage.link?

/-- Its key. -/
def key? (t : Tower σ) (i : Nat) : Option String := (t.stage? i).bind Stage.key?

/-- **What can happen at once**, with what is told of it.  While it is a flight's turn, it moves or
comes to rest; between turns anything can happen. -/
inductive Step (h : Host σ) : Tower σ → History h → Tower σ → Prop where
  | launch (d : Dispatch) {t : Tower σ} (ht : t.turn = none) :
      Step h t [] { t with stages := t.stages ++ [some (.resting (.ofDispatch d))] }
  | move {t : Tower σ} {i s ds s' e'} (ht : t.turn = none ∨ t.turn = some i)
      (hi : t.stages[i]? = some (some s)) (m : Move h t.clock s t.engine ds s' e') :
      Step h t [.moved i ⟨t.clock, s, t.engine, ds, s', e', m⟩]
        { t with engine := e', stages := t.stages.set i (some s'), turn := some i }
  | rest {t : Tower σ} {i f} (ht : t.turn = some i) (hi : t.stages[i]? = some (some (.resting f)))
      (hf : f.waits t.clock) : Step h t [] { t with turn := none }
  | cancel {t : Tower σ} {i f} (ht : t.turn = none)
      (hi : t.stages[i]? = some (some (.resting f))) :
      Step h t [.gaveUp i f]
        { t with engine := f.cancel t.engine, stages := t.stages.set i none }
  | pass (n : Nat) {t : Tower σ} (ht : t.turn = none) : Step h t [] { t with clock := t.clock + n }
  | aside {t : Tower σ} {e'} (ht : t.turn = none) (he : t.engine.Beside e') :
      Step h t [] { t with engine := e' }
  | clear {t : Tower σ} (ht : t.turn = none) :
      Step h t [.cleared] { t with engine := t.engine.clearCache }

/-- **What happens in the course of time**, told in order. -/
inductive Chronicle (h : Host σ) : Tower σ → History h → Tower σ → Prop where
  | refl {t} : Chronicle h t [] t
  | tail {t H t' es t''} (c : Chronicle h t H t') (st : Step h t' es t'') :
      Chronicle h t (H ++ es) t''

/-- An engine before its first flight. -/
def start (e : Engine σ) (n : Nat) : Tower σ := { engine := e, clock := n }

variable {t t' t'' : Tower σ} {i : Nat} {s : Stage}

theorem getElem?_set_self {o o' : Option Stage} (hi : t.stages[i]? = some o) :
    (t.stages.set i o')[i]? = some o' := by
  rw [List.getElem?_set_self (List.getElem?_eq_some_iff.1 hi).1]

theorem getElem?_set_of_ne {j : Nat} (hj : j ≠ i) (o : Option Stage) :
    (t.stages.set i o)[j]? = t.stages[j]? := List.getElem?_set_ne hj.symm

/-! ## Step by step -/

/-- A step tells of one thing at most. -/
theorem Step.entries {es : History h} (st : Step h t es t') : es = [] ∨ ∃ x, es = [x] := by
  cases st with
  | launch | rest | pass | aside => exact .inl rfl
  | move | cancel | clear => exact .inr ⟨_, rfl⟩

namespace Chronicle

theorem single {es : History h} (st : Step h t es t') : Chronicle h t es t' := .tail .refl st

theorem trans {H H' : History h} (c : Chronicle h t H t') (c' : Chronicle h t' H' t'') :
    Chronicle h t (H ++ H') t'' := by
  induction c' with
  | refl => rwa [List.append_nil]
  | tail _ st ih =>
    rw [← List.append_assoc]
    exact ih.tail st

/-- **An entry is told by a step**, from where the entries before it have led. -/
theorem split {H past since : History h} {x : Entry h} (c : Chronicle h t H t'')
    (hH : H = past ++ x :: since) :
    ∃ t₁ t₂, Chronicle h t past t₁ ∧ Step h t₁ [x] t₂ ∧ Chronicle h t₂ since t'' := by
  induction c generalizing since with
  | refl => simp at hH
  | @tail H t₁ es t₂ c st ih =>
    rcases st.entries with rfl | ⟨y, rfl⟩
    · rw [List.append_nil] at hH
      obtain ⟨u, u', hpast, hx, hsince⟩ := ih hH
      exact ⟨u, u', hpast, hx, by simpa using hsince.tail st⟩
    · rcases List.eq_nil_or_concat since with rfl | ⟨since, z, rfl⟩
      · obtain ⟨rfl, hxy⟩ := List.append_inj' hH rfl
        obtain rfl : y = x := by simpa using hxy
        exact ⟨t₁, t₂, c, st, .refl⟩
      · have hH' : H ++ [y] = (past ++ x :: since) ++ [z] := by simpa using hH
        obtain ⟨rfl, hyz⟩ := List.append_inj' hH' rfl
        obtain ⟨u, u', hpast, hx, hsince⟩ := ih rfl
        refine ⟨u, u', hpast, hx, ?_⟩
        rw [List.concat_eq_append, ← hyz]
        exact hsince.tail st

end Chronicle

/-- A move that is told was made from where the tower was. -/
theorem Step.moment {m : Moment h} (st : Step h t [.moved i m] t') :
    (t.turn = none ∨ t.turn = some i) ∧ t.stages[i]? = some (some m.stage) ∧ m.clock = t.clock
      ∧ m.engine = t.engine
      ∧ t' = { t with engine := m.engine', stages := t.stages.set i (some m.stage'),
                      turn := some i } := by
  cases st with
  | move ht hi m => exact ⟨ht, hi, rfl, rfl, rfl⟩

/-! ## Flight by flight -/

/-- The moves of one flight follow one another, from its launch to where it is. -/
inductive Trail (h : Host σ) : List (Moment h) → Stage → Prop where
  | launched (d : Dispatch) : Trail h [] (.resting (.ofDispatch d))
  | moved {ms} {m : Moment h} (tr : Trail h ms m.stage) : Trail h (ms ++ [m]) m.stage'

/-- A flight is where its last move has led. -/
theorem Trail.last {ms : List (Moment h)} (tr : Trail h ms s) :
    (∃ d, ms = [] ∧ s = .resting (.ofDispatch d))
      ∨ ∃ earlier m, ms = earlier ++ [m] ∧ m.stage' = s ∧ Trail h earlier m.stage := by
  cases tr with
  | launched d => exact .inl ⟨d, rfl, rfl⟩
  | moved tr => exact .inr ⟨_, _, rfl, rfl, tr⟩

/-- How it stands with the flight of a number. -/
inductive Standing (H : History h) (t : Tower σ) (i : Nat) : Prop where
  | unlaunched (hi : t.stages[i]? = none) (hH : H.own i = [])
  | underWay {s : Stage} (hi : t.stages[i]? = some (some s)) (tr : Trail h (H.own i) s)
  | givenUp {f} (hi : t.stages[i]? = some none) (hf : .gaveUp i f ∈ H)
      (tr : Trail h (H.own i) (.resting f))

/-- A step that is not of this flight leaves it as it is. -/
theorem Standing.keep {H es : History h} (hs : Standing H t i) (hi : t'.stages[i]? = t.stages[i]?)
    (hes : es.own i = []) : Standing (H ++ es) t' i := by
  have hown : (H ++ es).own i = H.own i := by rw [History.own_append, hes, List.append_nil]
  cases hs with
  | unlaunched hn hH => exact .unlaunched (hi.trans hn) (hown.trans hH)
  | underWay hn tr => exact .underWay (hi.trans hn) (hown ▸ tr)
  | givenUp hn hf tr => exact .givenUp (hi.trans hn) (List.mem_append_left _ hf) (hown ▸ tr)

/-- A flight in its stage has come there on a trail of its own moments. -/
theorem Standing.trail {H : History h} (hs : Standing H t i) (hi : t.stages[i]? = some (some s)) :
    Trail h (H.own i) s := by
  cases hs with
  | unlaunched hn => simp [hi] at hn
  | underWay hn tr =>
    obtain rfl : s = _ := by simpa [hi] using hn
    exact tr
  | givenUp hn => simp [hi] at hn

/-- A flight that was never launched has no moments. -/
theorem Standing.own_of_unlaunched {H : History h} (hs : Standing H t i)
    (hi : t.stages[i]? = none) : H.own i = [] := by
  cases hs with
  | unlaunched _ hH => exact hH
  | underWay hn | givenUp hn => simp [hi] at hn

/-- A step leaves every flight standing on the trail of its moments. -/
theorem Step.standing {H es : History h} (st : Step h t es t') (hs : Standing H t i) :
    Standing (H ++ es) t' i := by
  cases st with
  | launch d ht =>
    rcases Nat.lt_trichotomy i t.stages.length with hi | rfl | hi
    · exact hs.keep (List.getElem?_append_left hi) rfl
    · have hown : H.own t.stages.length = [] := by
        exact hs.own_of_unlaunched (List.getElem?_eq_none (Nat.le_refl _))
      refine .underWay List.getElem?_concat_length ?_
      rw [List.append_nil, hown]
      exact .launched d
    · refine hs.keep ?_ rfl
      rw [List.getElem?_eq_none (by simpa using Nat.succ_le_of_lt hi),
        List.getElem?_eq_none (Nat.le_of_lt hi)]
  | @move _ j s ds s' e' ht hj m =>
    by_cases hji : j = i
    · subst hji
      refine .underWay (getElem?_set_self hj) ?_
      rw [History.own_append, History.own_moved_self]
      exact .moved (m := ⟨t.clock, s, t.engine, ds, s', e', m⟩) (hs.trail hj)
    · exact hs.keep (getElem?_set_of_ne (Ne.symm hji) _) (History.own_moved_of_ne hji _)
  | @cancel _ j f ht hj =>
    by_cases hji : j = i
    · subst hji
      have hf : .gaveUp j f ∈ H ++ [.gaveUp j f] := List.mem_append_right _ List.mem_cons_self
      refine .givenUp (getElem?_set_self hj) hf ?_
      rw [History.own_append, History.own_gaveUp, List.append_nil]
      exact hs.trail hj
    · exact hs.keep (getElem?_set_of_ne (Ne.symm hji) _) rfl
  | rest | pass | aside | clear => exact hs.keep rfl rfl

/-- **The moves of a flight lead to where it is, or to where it was given up.** -/
theorem Chronicle.standing {e : Engine σ} {n : Nat} {H : History h}
    (c : Chronicle h (.start e n) H t) (i : Nat) : Standing H t i := by
  induction c with
  | refl => exact .unlaunched rfl rfl
  | tail _ st ih => exact st.standing ih

/-! ## Turn by turn -/

/-- When it is a flight's turn, the last thing told is its move; the others wait, have landed, or
have not made a move yet. -/
structure Turns (H : History h) (t : Tower σ) : Prop where
  turn : ∀ i : Nat, t.turn = some i → ∃ past m, H = past ++ [.moved i m]
    ∧ t.stages[i]? = some (some m.stage') ∧ m.clock = t.clock
  others : ∀ (i : Nat) (s : Stage), t.turn ≠ some i → t.stages[i]? = some (some s) →
    ∃ f, s = .resting f ∧ (H.own i = [] ∨ ∀ links, f ≠ .arriving links)

/-- Between turns, what is not a move changes nothing of this. -/
theorem Turns.keep {H es : History h} (hT : Turns H t) (ht : t.turn = none)
    (ht' : t'.turn = none) (hes : ∀ i, es.own i = [])
    (hs : ∀ (i : Nat) (s : Stage), t'.stages[i]? = some (some s) → t.stages[i]? = some (some s)) :
    Turns (H ++ es) t' where
  turn i hi := by simp [ht'] at hi
  others i s _ hi := by
    rw [History.own_append, hes, List.append_nil]
    exact hT.others i s (by simp [ht]) (hs i s hi)

/-- A step leaves the history one of turns. -/
theorem Step.turns {H es : History h} (st : Step h t es t') (hS : ∀ i, Standing H t i)
    (hT : Turns H t) : Turns (H ++ es) t' := by
  cases st with
  | launch d ht =>
    refine ⟨fun i hi => by simp [ht] at hi, fun i s _ hi => ?_⟩
    rw [List.append_nil]
    by_cases hlt : i < t.stages.length
    · rw [List.getElem?_append_left hlt] at hi
      exact hT.others i s (by simp [ht]) hi
    · have hnone : t.stages[i]? = none := List.getElem?_eq_none (Nat.le_of_not_lt hlt)
      have hs : .resting (.ofDispatch d) = s := by
        rw [List.getElem?_append_right (Nat.le_of_not_lt hlt)] at hi
        simpa [eq_comm] using List.mem_of_getElem? hi
      exact ⟨_, hs.symm, .inl ((hS i).own_of_unlaunched hnone)⟩
  | @move _ j s ds s' e' ht hj m =>
    refine ⟨fun i hi => ?_, fun i s hi hs => ?_⟩
    · obtain rfl : j = i := Option.some.inj hi
      exact ⟨H, _, rfl, getElem?_set_self hj, rfl⟩
    · have hij : j ≠ i := fun hji => hi (congrArg some hji)
      have hother : t.turn ≠ some i := by
        rcases ht with ht | ht
        · simp [ht]
        · simpa [ht] using hij
      rw [getElem?_set_of_ne hij.symm] at hs
      rw [History.own_append, History.own_moved_of_ne hij, List.append_nil]
      exact hT.others i s hother hs
  | @rest _ j f ht hj hf =>
    refine ⟨fun i hi => (nomatch hi), fun i s _ hs => ?_⟩
    rw [List.append_nil]
    by_cases hij : j = i
    · subst hij
      obtain rfl : .resting f = s := by simpa using hj.symm.trans hs
      exact ⟨f, rfl, .inr fun links hl => Flight.not_waits_arriving links (hl ▸ hf)⟩
    · exact hT.others i s (by simpa [ht] using hij) hs
  | @cancel _ j f ht hj =>
    refine hT.keep ht ht (fun _ => rfl) fun i s hs => ?_
    by_cases hij : j = i
    · subst hij
      rw [getElem?_set_self hj] at hs
      simp at hs
    · rwa [getElem?_set_of_ne (Ne.symm hij)] at hs
  | pass n ht => exact hT.keep ht ht (fun _ => rfl) fun _ _ hi => hi
  | aside ht => exact hT.keep ht ht (fun _ => rfl) fun _ _ hi => hi
  | clear ht => exact hT.keep ht ht (fun _ => rfl) fun _ _ hi => hi

/-- **When it is a flight's turn, the last thing told is its move.** -/
theorem Chronicle.turns {e : Engine σ} {n : Nat} {H : History h}
    (c : Chronicle h (.start e n) H t) : Turns H t := by
  induction c with
  | refl => exact ⟨fun i hi => (nomatch hi), fun i s _ hi => by simp [start] at hi⟩
  | tail c st ih => exact st.turns c.standing ih

/-- A flight that is on its way has the turn, and what it did last has led to where it is. -/
theorem Chronicle.last {e : Engine σ} {n : Nat} {H : History h} (c : Chronicle h (.start e n) H t)
    (hi : t.stages[i]? = some (some s)) (hs : ∀ f, s ≠ .resting f) :
    ∃ past m, H = past ++ [.moved i m] ∧ m.stage' = s ∧ m.clock = t.clock
      ∧ Trail h (History.own i past) m.stage := by
  have hturn : t.turn = some i := by
    refine Decidable.byContradiction fun hturn => ?_
    obtain ⟨f, hf, -⟩ := c.turns.others i s hturn hi
    exact hs f hf
  obtain ⟨past, m, rfl, hm, hclock⟩ := c.turns.turn i hturn
  obtain rfl : s = m.stage' := by simpa [hi] using hm
  have tr := (c.standing i).trail hi
  rw [History.own_append, History.own_moved_self] at tr
  rcases tr.last with ⟨d, hnil, -⟩ | ⟨earlier, m', hown, -, tr'⟩
  · simp at hnil
  · obtain ⟨rfl, hmm⟩ := List.append_inj' hown rfl
    obtain rfl : m = m' := by simpa using hmm
    exact ⟨past, m, rfl, rfl, hclock, tr'⟩

/-! ## A poll is a turn -/

/-- **What moves keep, and coming to rest, is kept by a turn**: that of a run of moves. -/
theorem Run.turn {C : History h → Tower σ → Prop}
    (hmove : ∀ {H t m t'}, C H t → Step h t [.moved i m] t' → C (H ++ [.moved i m]) t')
    (hrest : ∀ {H t t'}, C H t → Step h t [] t' → t'.engine = t.engine → C H t')
    {ds : List Deed} {e e' : Engine σ} {f : Flight} (r : Run h t.clock s e ds f e')
    (he : t.engine = e) (ht : t.turn = none ∨ t.turn = some i)
    (hi : t.stages[i]? = some (some s)) {H : History h} (hC : C H t) :
    ∃ H' : History h, H'.IsTurn i t.clock ds ∧ C (H ++ H') { t with
          engine := e', stages := t.stages.set i (some (.resting f)), turn := none } := by
  generalize hn : t.clock = now at r
  induction r generalizing t H with
  | @rest f e hf =>
    subst hn he
    obtain ⟨hlt, hget⟩ := List.getElem?_eq_some_iff.1 hi
    have hset : t.stages.set i (some (.resting f)) = t.stages := hget ▸ List.set_getElem_self hlt
    refine ⟨[], ⟨rfl, by simp⟩, ?_⟩
    rw [hset, List.append_nil]
    rcases ht with ht | ht
    · have htower : { t with turn := none } = t := by rw [← ht]
      rwa [htower]
    · exact hrest hC (.rest ht hi hf) rfl
  | @move s e ds s' e' ds' f e'' m r ih =>
    subst hn he
    let t₁ : Tower σ :=
      { t with engine := e', stages := t.stages.set i (some s'), turn := some i }
    have st : Step h t [.moved i ⟨t.clock, s, t.engine, ds, s', e', m⟩] t₁ := .move ht hi m
    obtain ⟨H', hH, c⟩ := ih (t := t₁) rfl (.inr rfl) (getElem?_set_self hi) (hmove hC st) rfl
    rw [List.set_set, List.append_assoc] at c
    refine ⟨_, ⟨?_, fun x hx => ?_⟩, c⟩
    · rw [History.own_append, History.own_moved_self, List.flatMap_append, hH.deeds]
      simp
    · rcases List.mem_append.1 hx with hx | hx
      · exact ⟨_, List.mem_singleton.1 hx, rfl⟩
      · exact hH.moved x hx

/-- **A run of moves is a turn**, with the deeds of the run. -/
theorem Chronicle.of_run {e : Engine σ} {ds : List Deed} {f : Flight} {e' : Engine σ}
    (r : Run h t.clock s e ds f e') (he : t.engine = e) (ht : t.turn = none ∨ t.turn = some i)
    (hi : t.stages[i]? = some (some s)) :
    ∃ H : History h, H.IsTurn i t.clock ds ∧ Chronicle h t H { t with
          engine := e', stages := t.stages.set i (some (.resting f)), turn := none } := by
  obtain ⟨H, hH, c⟩ := Run.turn (C := Chronicle h t) (fun c st => c.tail st)
    (fun c st _ => by simpa using c.tail st) r he ht hi .refl
  exact ⟨H, hH, c⟩

/-- **A chronicle goes on with a poll of any flight.** -/
theorem Chronicle.poll {t₀ : Tower σ} {H : History h} (c : Chronicle h t₀ H t) {ds : List Deed}
    {f : Flight} {e' : Engine σ} (r : Run h t.clock s t.engine ds f e') (ht : t.turn = none)
    (hi : t.stages[i]? = some (some s)) :
    ∃ H' : History h, H'.IsTurn i t.clock ds ∧ Chronicle h t₀ (H ++ H')
          { t with engine := e', stages := t.stages.set i (some (.resting f)) } := by
  obtain ⟨H', hH', c'⟩ := Chronicle.of_run r rfl (.inl ht) hi
  refine ⟨H', hH', ?_⟩
  rw [ht]
  exact c.trans c'

/-- **Any flight can be polled between turns.** -/
theorem Chronicle.exists_poll {t₀ : Tower σ} {H : History h} (c : Chronicle h t₀ H t) {f : Flight}
    (ht : t.turn = none) (hi : t.stages[i]? = some (some (.resting f))) :
    ∃ H' : History h, Chronicle h t₀ (H ++ H')
      { t with
        engine := (f.poll h t.clock t.engine).2
        stages := t.stages.set i (some (.resting (f.poll h t.clock t.engine).1)) } := by
  obtain ⟨ds, r⟩ := Runs.poll h t.clock f t.engine
  obtain ⟨H', -, c'⟩ := c.poll r ht hi
  exact ⟨H', c'⟩

/-- A turn in which a link is let in begins with its arrival. -/
theorem Chronicle.admit {t₀ : Tower σ} {H : History h} (c : Chronicle h t₀ H t)
    (ht : t.turn = none) {d : Dispatch} {rest : List Dispatch}
    (hi : t.stages[i]? = some (some (.resting (.arriving (d :: rest)))))
    (hm : t.engine.isMarked d = false) {ds : List Deed} {f : Flight} {e : Engine σ}
    (r : Run h t.clock (.admitted d rest) (t.engine.mark d) ds f e) :
    ∃ (m : Moment h) (since : History h), m.deeds = [.arrived d] ∧ since.IsTurn i t.clock ds
      ∧ Chronicle h t₀ (H ++ .moved i m :: since)
          { t with engine := e, stages := t.stages.set i (some (.resting f)), turn := none } := by
  have hmove : Move h t.clock (.resting (.arriving (d :: rest))) t.engine [.arrived d]
      (.admitted d rest) (t.engine.mark d) := .enter hm
  let m : Moment h := ⟨_, _, _, _, _, _, hmove⟩
  let t₁ : Tower σ :=
    { t with engine := m.engine', stages := t.stages.set i (some m.stage'), turn := some i }
  have st : Step h t [.moved i m] t₁ := .move (.inl ht) hi m.move
  obtain ⟨since, hsince, c'⟩ :=
    Chronicle.of_run (t := t₁) r rfl (.inr rfl) (getElem?_set_self hi)
  rw [List.set_set] at c'
  refine ⟨m, since, rfl, hsince, ?_⟩
  have c' := (c.tail st).trans c'
  rwa [List.append_assoc] at c'

/-- **It goes on with the arrival of a link that is let in, and waits because it is debounced.** -/
theorem Chronicle.debounced {t₀ : Tower σ} {H : History h} (c : Chronicle h t₀ H t)
    (ht : t.turn = none) {d : Dispatch} {rest : List Dispatch} {delay n : Nat}
    (hi : t.stages[i]? = some (some (.resting (.arriving (d :: rest)))))
    (hm : t.engine.isMarked d = false)
    (hth : (t.engine.mark d).isThrottled t.clock d.action = false)
    (hd : d.action.debounce = some delay) (hs : h.sleep delay t.engine.host = n + 1) :
    ∃ H' : History h, H'.IsTurn i t.clock [.arrived d] ∧ Chronicle h t₀ (H ++ H')
          { t with
            engine := t.engine.mark d
            stages := t.stages.set i
              (some (.resting (.debouncing d rest (t.clock + (n + 1))))) } := by
  have hwaits : (Flight.debouncing d rest (t.clock + (n + 1))).waits t.clock :=
    Flight.waits_debouncing.2 (by omega)
  exact c.poll (.move (.enter hm) (.move (.debounce hth hd hs) (.rest hwaits))) ht hi

/-! ## What happens to a fleet -/

/-- The flights of a tower that have not been given up, between turns, are those of a fleet. -/
structure Holds (t : Tower σ) (f : Fleet σ) : Prop where
  engine : t.engine = f.engine
  clock : t.clock = f.clock
  turn : t.turn = none
  flights : t.stages.filterMap id = f.flights.map Stage.resting

/-- A flight of the fleet has a number, and what becomes of it in the tower becomes of it in the
fleet. -/
theorem Holds.exists_number {f : Fleet σ} (hf : Holds t f) {before after : List Flight}
    {flight : Flight} (hflights : f.flights = before ++ flight :: after) :
    ∃ i, t.stages[i]? = some (some (.resting flight)) ∧ ∀ o : Option Flight,
      (t.stages.set i (o.map Stage.resting)).filterMap id
        = (before ++ o.toList ++ after).map Stage.resting := by
  have hall := hf.flights
  rw [hflights, List.map_append, List.map_cons] at hall
  obtain ⟨l, l', hl, hbefore, hl'⟩ := List.filterMap_eq_append_iff.1 hall
  obtain ⟨gone, x, l'', rfl, hgone, rfl, hafter⟩ := List.filterMap_eq_cons_iff.1 hl'
  have hgone : gone.filterMap id = [] := List.filterMap_eq_nil_iff.2 hgone
  refine ⟨(l ++ gone).length, ?_, fun o => ?_⟩
  · rw [hl, ← List.append_assoc, List.getElem?_append_right (Nat.le_refl _), Nat.sub_self]
    rfl
  · have hset : t.stages.set (l ++ gone).length (o.map Stage.resting)
        = l ++ gone ++ o.map Stage.resting :: l'' := by
      rw [hl, ← List.append_assoc, List.set_append_right _ _ (Nat.le_refl _), Nat.sub_self]
      rfl
    have hone : [o.map Stage.resting].filterMap id = o.toList.map Stage.resting := by
      cases o <;> rfl
    rw [hset, ← List.singleton_append, List.filterMap_append, List.filterMap_append,
      List.filterMap_append, hbefore, hgone, hone, hafter, List.append_nil, List.map_append,
      List.map_append, List.append_assoc]

/-- **What a fleet does step by step, a tower can do as well**, and nothing is cleared on the way.
-/
theorem Holds.step {f f' : Fleet σ} {ds : List Deed} (hf : Holds t f) (st : Fleet.Step h f ds f') :
    ∃ (H : History h) (t' : Tower σ), Chronicle h t H t' ∧ Holds t' f' ∧ H.deeds = ds
      ∧ .cleared ∉ H := by
  cases st with
  | launch d =>
    refine ⟨[], _, .single (.launch d hf.turn), ⟨hf.engine, hf.clock, hf.turn, ?_⟩, rfl, by simp⟩
    rw [List.filterMap_append, hf.flights, List.map_append]
    rfl
  | @poll _ before flight after ds hflights r =>
    obtain ⟨i, hi, hset⟩ := hf.exists_number hflights
    rw [← hf.engine, ← hf.clock] at r
    obtain ⟨H, hH, c⟩ := Chronicle.refl.poll r hf.turn hi
    refine ⟨H, _, c, ⟨?_, hf.clock, hf.turn, ?_⟩, hH.all, hH.not_cleared⟩
    · rw [← hf.engine, ← hf.clock]
    · rw [← hf.engine, ← hf.clock]
      simpa using hset (some (flight.poll h t.clock t.engine).1)
  | @cancel _ before flight after hflights =>
    obtain ⟨i, hi, hset⟩ := hf.exists_number hflights
    refine ⟨_, _, .single (.cancel hf.turn hi), ⟨?_, hf.clock, hf.turn, ?_⟩, rfl, by simp⟩
    · rw [← hf.engine]
    · simpa using hset none
  | pass n =>
    have hclock : t.clock + n = f.clock + n := by rw [hf.clock]
    exact ⟨[], _, .single (.pass n hf.turn), ⟨hf.engine, hclock, hf.turn, hf.flights⟩, rfl, by simp⟩
  | @aside _ e he =>
    rw [← hf.engine] at he
    exact ⟨[], _, .single (.aside hf.turn he), ⟨rfl, hf.clock, hf.turn, hf.flights⟩, rfl, by simp⟩

/-- **Whatever happens to a fleet is told by a chronicle**, with the same deeds, and nothing is
forgotten in it. -/
theorem Chronicle.of_course {e : Engine σ} {n : Nat} {ds : List Deed} {f : Fleet σ}
    (c : Fleet.Course h ⟨e, [], n⟩ ds f) :
    ∃ (H : History h) (t : Tower σ), Chronicle h (.start e n) H t ∧ Holds t f ∧ H.deeds = ds
      ∧ .cleared ∉ H := by
  induction c with
  | refl => exact ⟨[], _, .refl, ⟨rfl, rfl, rfl, rfl⟩, rfl, by simp⟩
  | tail _ st ih =>
    obtain ⟨H, t, c, hf, rfl, hc⟩ := ih
    obtain ⟨H', t', c', hf', rfl, hc'⟩ := hf.step st
    exact ⟨H ++ H', t', c.trans c', hf', History.deeds_append H H', by simp [hc, hc']⟩

end Tower

end RemoteScreen
