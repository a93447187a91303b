import RemoteScreen.Proofs.Engine.Chronicle

/-!
# Proofs/Engine/Effort — the execution under way in a flight

    begun ──▸ trying ──fails──▸ (pausing) ──▸ trying ──▸ … ──▸ ended

A link that is executed is an **effort**: its verb is at work on an attempt, or waits to be called
for the next one.  `Move.trying` says once what a move does to the effort of its flight, with the
deeds that tell of it; what is counted, told and timed of executions rests on that.

* `Step.trying` — **one thing at a time**: a step changes one effort at most;
* `Chronicle.attempt_pos` — attempts are counted from one.
-/

namespace RemoteScreen

variable {σ : Type} {h : Host σ} {now : Nat}

/-- An execution under way. -/
structure Effort where
  link : Dispatch
  /-- At the attempt under way, or the last one that has failed. -/
  execution : Execution
  /-- When the next attempt is due, if it waits for that. -/
  due : Option Nat

/-- The id of an effort. -/
def Effort.id (w : Effort) : String := w.execution.id

namespace Stage

/-- The execution under way. -/
def effort? : Stage → Option Effort
  | running d _ x _ | resting (.calling d _ x _ _ _) => some ⟨d, x, none⟩
  | resting (.backingOff d _ x wake) => some ⟨d, x, some wake⟩
  | resting (.arriving _) | resting (.debouncing _ _ _) | resting (.landed _) | admitted _ _
  | ready _ _ => none

@[simp] theorem effort?_afterFailure (rest : List Dispatch) (err : VerbError) :
    (afterFailure rest err).effort? = none := by
  cases rest <;> rfl

/-- A link that is executed is in flight. -/
theorem effort?_of_link? {s : Stage} (hs : s.link? = none) : s.effort? = none := by
  cases s with
  | resting f => cases f <;> first | rfl | cases hs
  | admitted | ready => rfl
  | running => cases hs

end Stage

/-! ## Move by move -/

namespace Deed

/-- The deed is not of an execution. -/
inductive IsApart : Deed → Prop where
  | arrived (d : Dispatch) : IsApart (.arrived d)
  | skipped (d : Dispatch) (reason : SkipReason) : IsApart (.skipped d reason)

/-- The id of the execution that the deed is of. -/
def id? : Deed → Option String
  | called _ x | returned _ x _ => some x.id
  | arrived _ | skipped _ _ | executed _ _ => none

section Apart

variable {ds : List Deed} (hd : ∀ x ∈ ds, x.IsApart)

include hd

/-- Among arrivals and skips nothing is counted by a test that passes both over. -/
theorem countP_of_apart {p : Deed → Bool} (ha : ∀ d, p (.arrived d) = false)
    (hs : ∀ d reason, p (.skipped d reason) = false) : ds.countP p = 0 := by
  refine List.countP_eq_zero.2 fun x hx => ?_
  cases hd x hx with
  | arrived d => simp [ha]
  | skipped d reason => simp [hs]

/-- From arrivals and skips nothing is taken by a function that gives nothing for either. -/
theorem filterMap_of_apart {α : Type} {f : Deed → Option α} (ha : ∀ d, f (.arrived d) = none)
    (hs : ∀ d reason, f (.skipped d reason) = none) : ds.filterMap f = [] := by
  refine List.filterMap_eq_nil_iff.2 fun x hx => ?_
  cases hd x hx with
  | arrived d => exact ha d
  | skipped d reason => exact hs d reason

end Apart

end Deed

/-- What a move does to the execution under way, and to the number of those there have been. -/
inductive Trying (now : Nat) (w w' : Option Effort) (runs runs' : Nat) : List Deed → Prop where
  | apart {ds} (hw : w' = w) (hr : runs' = runs) (hd : ∀ x ∈ ds, x.IsApart) :
      Trying now w w' runs runs' ds
  | unknown (d : Dispatch) (hw : w = none) (hw' : w' = none) (hr : runs' = runs) :
      Trying now w w' runs runs' [.executed d none]
  | begun (d : Dispatch) (verb : Verb) (x : Execution) (hw : w = none)
      (hw' : w' = some ⟨d, x, none⟩) (hid : x.id = toString (runs + 1)) (ha : x.attempt = 1)
      (hr : runs' = runs + 1) : Trying now w w' runs runs' [.executed d (some verb), .called d x]
  | paused (d : Dispatch) (x : Execution) (err : VerbError) {due : Nat}
      (hw : w = some ⟨d, x, none⟩) (hw' : w' = some ⟨d, x, some due⟩)
      (ha : x.attempt < d.action.attempts) (hdue : now + d.action.delayAfter x.attempt ≤ due)
      (hr : runs' = runs) :
      Trying now w w' runs runs' [.returned d x (.error err)]
  | retried (d : Dispatch) (x : Execution) (err : VerbError) (hw : w = some ⟨d, x, none⟩)
      (hw' : w' = some ⟨d, x.next, none⟩) (ha : x.attempt < d.action.attempts)
      (hd : d.action.delayAfter x.attempt = 0) (hr : runs' = runs) :
      Trying now w w' runs runs' [.returned d x (.error err), .called d x.next]
  | again (d : Dispatch) (x : Execution) (due : Nat) (hw : w = some ⟨d, x, some due⟩)
      (hw' : w' = some ⟨d, x.next, none⟩) (hdue : due ≤ now) (hr : runs' = runs) :
      Trying now w w' runs runs' [.called d x.next]
  | ended (d : Dispatch) (x : Execution) (result : Except VerbError Unit)
      (hw : w = some ⟨d, x, none⟩) (hw' : w' = none)
      (ha : result = .ok () ∨ ¬ x.attempt < d.action.attempts) (hr : runs' = runs) :
      Trying now w w' runs runs' [.returned d x result]

namespace Engine

theorem runs_skip (e : Engine σ) (d : Dispatch) (reason : SkipReason) :
    (e.skip d reason).runs = e.runs := (told_skip e d reason).runs

theorem runs_unmark (e : Engine σ) (d : Dispatch) : (e.unmark d).runs = e.runs := rfl

/-- Settling an attempt calls no verb. -/
theorem runs_settle (e : Engine σ) (d : Dispatch) (x : Execution)
    (result : Except VerbError Unit) : (settle h now d x result e).2.runs = e.runs := by
  obtain ⟨e', ht, he⟩ := settle_eq_unmark h now e d x result
  rw [he, runs_unmark, ht.runs]

end Engine

/-- **What a move does to the execution under way.** -/
theorem Move.trying {s e ds s' e'} (m : Move h now s e ds s' e') :
    Trying now s.effort? s'.effort? e.runs e'.runs ds := by
  cases m with
  | nothing | pass | debounce | wake | look | write | call | await | answer =>
    exact .apart rfl rfl (by simp)
  | duplicate =>
    exact .apart rfl (Engine.runs_skip e _ _) (by simpa using ⟨.arrived _, .skipped _ _⟩)
  | enter => exact .apart rfl rfl (by simpa using .arrived _)
  | throttle | refuse => exact .apart rfl (Engine.runs_skip e _ _) (by simpa using .skipped _ _)
  | unknown => exact .unknown _ rfl rfl rfl
  | @begin d rest _ verb x _ hc hv hb =>
    have hx : (e.begun h now d verb).1 = x := congrArg Prod.fst hb
    have hr : (e.begun h now d verb).2.runs = e.runs + 1 := (Engine.told_begun e d verb).runs
    rw [hb] at hr
    exact .begun d verb x rfl rfl (hx ▸ rfl) (hx ▸ rfl) hr
  | succeed => exact .ended _ _ _ rfl rfl (.inl rfl) (Engine.runs_settle e _ _ _)
  | @retry d rest x err _ ha hs =>
    have hd : d.action.delayAfter x.attempt = 0 := Nat.le_zero.1 (hs ▸ h.le_sleep _ e.host)
    exact .retried d x err rfl rfl ha hd (Engine.told_retried e d x).runs
  | @backOff d rest x err _ n ha hs =>
    have hdue : d.action.delayAfter x.attempt ≤ n + 1 := hs ▸ h.le_sleep _ e.host
    exact .paused d x err rfl rfl ha (Nat.add_le_add_left hdue now) (Engine.told_retried e d x).runs
  | again hw => exact .again _ _ _ rfl rfl hw rfl
  | fail ha => exact .ended _ _ _ rfl (by simp) (.inr ha) (Engine.runs_settle e _ _ _)

/-- The attempt that an execution under way is at has a number from one on. -/
def Effort.Counted (w : Option Effort) : Prop := ∀ effort ∈ w, 0 < effort.execution.attempt

/-- An effort whose calls are all counted stays so. -/
theorem Trying.counted {w w' : Option Effort} {runs runs' : Nat} {ds : List Deed}
    (tr : Trying now w w' runs runs' ds) (hw : Effort.Counted w) : Effort.Counted w' := by
  intro effort he
  cases tr with
  | apart hw' => exact hw effort (hw' ▸ he)
  | unknown _ _ hw' | ended _ _ _ _ hw' => simp [hw'] at he
  | begun d verb x _ hw' _ ha =>
    obtain rfl : _ = effort := by simpa [hw'] using he
    simp [ha]
  | paused d x err hw₀ hw' =>
    obtain rfl : _ = effort := by simpa [hw'] using he
    exact hw ⟨d, x, none⟩ hw₀
  | retried d x err _ hw' | again d x due _ hw' =>
    obtain rfl : _ = effort := by simpa [hw'] using he
    exact Nat.succ_pos _

/-! ## Counting -/

section Count

variable {α : Type} {p : α → Bool}

theorem countP_cons_toNat (a : α) (l : List α) : (a :: l).countP p = l.countP p + (p a).toNat := by
  rw [List.countP_cons]
  cases p a <;> rfl

/-- Replacing one of a list changes a count by what the two are counted for. -/
theorem countP_set {l : List α} {i : Nat} {a : α} (hi : l[i]? = some a) (b : α) :
    (l.set i b).countP p + (p a).toNat = l.countP p + (p b).toNat := by
  induction l generalizing i with
  | nil => cases hi
  | cons x l ih =>
    cases i with
    | zero =>
      obtain rfl : x = a := Option.some.inj hi
      rw [List.set_cons_zero, countP_cons_toNat, countP_cons_toNat]
      omega
    | succ i =>
      have hl := ih hi
      rw [List.set_cons_succ, countP_cons_toNat, countP_cons_toNat]
      omega

end Count

/-! ## Step by step -/

/-- The deeds that are told, each with its instant. -/
def Entry.timed : Entry h → List (Nat × Deed)
  | moved _ m => m.deeds.map (m.clock, ·)
  | gaveUp _ _ | cleared => []

namespace History

/-- The deeds of all flights, each with its instant. -/
def timed (H : History h) : List (Nat × Deed) := H.flatMap Entry.timed

/-- No flight was given up. -/
def Kept (H : History h) : Prop := ∀ i f, .gaveUp i f ∉ H

theorem timed_moved (i : Nat) (m : Moment h) : timed [.moved i m] = m.deeds.map (m.clock, ·) :=
  List.append_nil _

@[simp] theorem timed_append (H H' : History h) : timed (H ++ H') = timed H ++ timed H' :=
  List.flatMap_append

/-- What is counted of deeds does not depend on their instants. -/
theorem countP_now (p : Deed → Bool) (ds : List Deed) :
    (ds.map (now, ·)).countP (fun x => p x.2) = ds.countP p := List.countP_map

/-- The deeds of a history are its timed deeds without the times. -/
theorem deeds_eq (H : History h) : H.deeds = H.timed.map Prod.snd := by
  rw [timed, List.map_flatMap, deeds]
  congr 1
  funext x
  cases x with
  | moved i m => simp [Entry.deeds, Entry.timed, Function.comp_def]
  | gaveUp | cleared => rfl

/-- Deeds are counted with or without their instants. -/
theorem countP_deeds (p : Deed → Bool) (H : History h) :
    H.deeds.countP p = H.timed.countP (fun x => p x.2) := by
  rw [deeds_eq, List.countP_map]
  rfl

/-- The starts of a history are those among its timed deeds. -/
theorem starts_eq (H : History h) :
    H.starts = H.timed.filterMap fun p => p.2.started?.map (·, p.1) := by
  rw [timed, List.filterMap_flatMap, starts]
  congr 1
  funext x
  cases x with
  | moved i m =>
    rw [Entry.starts, Entry.timed, List.filterMap_map, List.map_filterMap]
    rfl
  | gaveUp | cleared => rfl

theorem kept_append {H H' : History h} : Kept (H ++ H') ↔ Kept H ∧ Kept H' := by
  simp only [Kept, List.mem_append, not_or, forall_and]

/-- In a turn no flight is given up. -/
theorem IsTurn.kept {i : Nat} {ds : List Deed} {H : History h} (hH : IsTurn i now ds H) :
    Kept H := by
  intro j f hf
  obtain ⟨m, hm, -⟩ := hH.moved _ hf
  cases hm

end History

namespace Tower

open History

variable {t t' : Tower σ} {i : Nat} {e : Engine σ} {n : Nat} {H : History h}

/-- The execution under way in each flight. -/
def efforts (t : Tower σ) : List (Option Effort) := t.stages.map fun s => s.bind Stage.effort?

/-- What a step does to the executions under way. -/
inductive Efforts (t t' : Tower σ) : List (Nat × Deed) → Prop where
  | kept (he : t'.efforts = t.efforts) (hr : t'.engine.runs = t.engine.runs) : Efforts t t' []
  | launched (he : t'.efforts = t.efforts ++ [none]) (hr : t'.engine.runs = t.engine.runs) :
      Efforts t t' []
  | moved {i w w' ds} (hi : t.efforts[i]? = some w) (he : t'.efforts = t.efforts.set i w')
      (tr : Trying t.clock w w' t.engine.runs t'.engine.runs ds) :
      Efforts t t' (ds.map (t.clock, ·))

/-- **One thing at a time**: a step changes one effort at most, unless a flight is given up. -/
theorem Step.trying {es : History h} (st : Step h t es t') (hk : es.Kept) :
    Efforts t t' es.timed := by
  cases st with
  | launch d => exact .launched List.map_append rfl
  | @move _ i s ds s' e' ht hi m =>
    rw [timed_moved]
    refine .moved ?_ List.map_set m.trying
    rw [efforts, List.getElem?_map, hi]
    rfl
  | @cancel _ i f => exact absurd List.mem_cons_self (hk i f)
  | aside _ he => exact .kept rfl he.runs
  | rest | pass | clear => exact .kept rfl rfl

/-- How many executions under way there are of a kind changes only by what a move tries. -/
theorem Efforts.countP {l : List (Nat × Deed)} (ef : Efforts t t' l) {p : Option Effort → Bool}
    (hp : p none = false) :
    (l = [] ∧ t'.efforts.countP p = t.efforts.countP p)
      ∨ ∃ w w' ds, l = ds.map (t.clock, ·)
        ∧ Trying t.clock w w' t.engine.runs t'.engine.runs ds
        ∧ t'.efforts.countP p + (p w).toNat = t.efforts.countP p + (p w').toNat := by
  cases ef with
  | kept he => exact .inl ⟨rfl, by rw [he]⟩
  | launched he => exact .inl ⟨rfl, by simp [he, hp]⟩
  | @moved i w w' ds hi he tr =>
    exact .inr ⟨w, w', ds, rfl, tr, he ▸ countP_set hi w'⟩

/-- On the way of a flight every call of its effort is counted. -/
theorem Trail.counted {ms : List (Moment h)} {s : Stage} (tr : Trail h ms s) :
    Effort.Counted s.effort? := by
  induction tr with
  | launched d => exact fun _ he => (nomatch he)
  | @moved _ m _ ih => exact m.move.trying.counted ih

/-- **Attempts are counted from one.** -/
theorem Chronicle.attempt_pos (c : Chronicle h (.start e n) H t) {s : Stage}
    (hi : t.stages[i]? = some (some s)) : Effort.Counted s.effort? :=
  ((c.standing i).trail hi).counted

end Tower

end RemoteScreen
