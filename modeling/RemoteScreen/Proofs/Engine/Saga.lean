import RemoteScreen.Proofs.Engine.Chain
import RemoteScreen.Proofs.Engine.Effort

/-!
# Proofs/Engine/Saga — what one execution does

    called ─ returned ─(time to wait)─ called ─ returned ─ … ─ called ─ returned

Executions are known by their ids, and no two have the same: what begins has an id that nothing told
has (`Sagas.fresh`).  So however flights are interleaved, the deeds of one execution are attempts,
each but the last one failed, with the time to wait between them (`Saga`).

* `Saga.tried` — what a move does to the saga of each execution;
* `Chronicle.sagas` — **of every execution there is a saga**: it has not begun, or it is under way
  in one flight and no other, or it has ended.
-/

namespace RemoteScreen

variable {σ : Type} {h : Host σ} {now : Nat}

/-! ## Attempts -/

/-- A call of a verb that has come back. -/
structure Attempt where
  called : Nat
  returned : Nat
  result : Except VerbError Unit

/-- The same execution at an attempt. -/
def Execution.nth (x : Execution) (k : Nat) : Execution := { x with attempt := k }

/-- An execution is itself at the attempt it is at. -/
theorem Execution.eq_nth {x : Execution} {k : Nat} (hx : x.attempt = k) : x = x.nth k := by
  subst hx
  rfl

namespace Attempt

variable (d : Dispatch) (x : Execution)

/-- The deeds of attempts, from the one with a number on. -/
def deeds : Nat → List Attempt → List (Nat × Deed)
  | _, [] => []
  | k, a :: as =>
    (a.called, .called d (x.nth k)) :: (a.returned, .returned d (x.nth k) a.result)
      :: deeds (k + 1) as

/-- The deeds of one more attempt are its call and its return, told last. -/
theorem deeds_concat (k : Nat) (as : List Attempt) (a : Attempt) :
    deeds d x k (as ++ [a]) = deeds d x k as ++ [(a.called, .called d (x.nth (k + as.length))),
      (a.returned, .returned d (x.nth (k + as.length)) a.result)] := by
  induction as generalizing k with
  | nil => rfl
  | cons b as ih =>
    have hk : k + 1 + as.length = k + (as.length + 1) := by omega
    rw [List.cons_append, deeds, ih, hk, deeds]
    rfl

variable {x} in
/-- An execution that is at its next attempt adds the deeds of that. -/
theorem deeds_concat_self {as : List Attempt} (hx : x.attempt = as.length + 1) (a : Attempt) :
    deeds d x 1 (as ++ [a])
      = deeds d x 1 as ++ [(a.called, .called d x), (a.returned, .returned d x a.result)] := by
  rw [deeds_concat, ← Execution.eq_nth (hx.trans (Nat.add_comm _ _))]

theorem deeds_next (k : Nat) (as : List Attempt) : deeds d x.next k as = deeds d x k as := by
  induction as generalizing k with
  | nil => rfl
  | cons a as ih =>
    rw [deeds, ih, deeds]
    rfl

end Attempt

/-- Attempts that have failed, none of them the last one, each after the time to wait since the one
before; and when the next one is due. -/
inductive Failures (d : Dispatch) : List Attempt → Nat → Prop where
  | none : Failures d [] 0
  | more {failures due} {a : Attempt} {err} (hf : Failures d failures due) (hdue : due ≤ a.called)
      (herr : a.result = .error err) (hl : failures.length + 1 < d.action.attempts) :
      Failures d (failures ++ [a]) (a.returned + d.action.delayAfter (failures.length + 1))

namespace Failures

variable {d : Dispatch} {failures : List Attempt} {due : Nat}

/-- Failed attempts that were not the last are fewer than the action allows. -/
theorem length_lt (hf : Failures d failures due) : failures.length < d.action.attempts := by
  cases hf with
  | none => exact d.action.attempts_pos
  | more _ _ _ hl => simpa using hl

/-- Each of them ended in an error. -/
theorem failed (hf : Failures d failures due) : ∀ a ∈ failures, ∃ err, a.result = .error err := by
  induction hf with
  | none => simp
  | more _ _ herr _ ih =>
    intro a ha
    rcases List.mem_append.1 ha with ha | ha
    · exact ih a ha
    · exact ⟨_, List.mem_singleton.1 ha ▸ herr⟩

/-- **Between two attempts there is the time to wait.** -/
theorem spaced (hf : Failures d failures due) {last : Attempt} (hdue : due ≤ last.called) {k : Nat}
    {a b : Attempt} (ha : (failures ++ [last])[k]? = some a)
    (hb : (failures ++ [last])[k + 1]? = some b) :
    a.returned + d.action.delayAfter (k + 1) ≤ b.called := by
  induction hf generalizing last with
  | none => simp at hb
  | @more failures _ a' _ _ hdue' _ _ ih =>
    have hlt : k + 1 < (failures ++ [a'] ++ [last]).length := (List.getElem?_eq_some_iff.1 hb).1
    simp only [List.length_append, List.length_singleton] at hlt
    by_cases hk : k + 1 < failures.length + 1
    · rw [List.getElem?_append_left (by simp; omega)] at ha hb
      exact ih hdue' ha hb
    · obtain rfl : k = failures.length := by omega
      obtain rfl : a' = a := by simpa using ha
      obtain rfl : last = b := by simpa using hb
      exact hdue

end Failures

/-! ## The saga of an execution -/

/-- The deeds of the execution with an id. -/
def deedsOf (id : String) (l : List (Nat × Deed)) : List (Nat × Deed) :=
  l.filter fun p => p.2.id? = some id

theorem deedsOf_append (id : String) (l l' : List (Nat × Deed)) :
    deedsOf id (l ++ l') = deedsOf id l ++ deedsOf id l' := List.filter_append l l'

/-- Arrivals and skips tell of no execution. -/
theorem deedsOf_of_apart {ds : List Deed} (hd : ∀ x ∈ ds, x.IsApart) (id : String) :
    deedsOf id (ds.map (now, ·)) = [] := by
  rw [deedsOf, List.filter_map, List.map_eq_nil_iff]
  refine List.filter_eq_nil_iff.2 fun x hx => ?_
  cases hd x hx <;> simp [Deed.id?]

/-- What tells of a move tells of the execution that it tries. -/
theorem Trying.deedsOf_eq_nil {w w' : Option Effort} {runs runs' : Nat} {ds : List Deed}
    (tr : Trying now w w' runs runs' ds) {id : String} (hw : ∀ effort ∈ w, effort.id ≠ id)
    (hw' : ∀ effort ∈ w', effort.id ≠ id) : deedsOf id (ds.map (now, ·)) = [] := by
  cases tr with
  | apart _ _ hd => exact deedsOf_of_apart hd id
  | unknown => simp [deedsOf, Deed.id?]
  | begun d verb x _ hx =>
    have hid : x.id ≠ id := hw' _ hx
    simp [deedsOf, Deed.id?, hid]
  | paused d x _ hx | retried d x _ hx | again d x _ hx | ended d x _ hx =>
    have hid : x.id ≠ id := hw _ hx
    simp [deedsOf, Deed.id?, Execution.next, hid]

/-- The execution that is under way after a move is the one from before, or the latest to begin. -/
theorem Trying.id_eq {w w' : Option Effort} {runs runs' : Nat} {ds : List Deed}
    (tr : Trying now w w' runs runs' ds) (effort : Effort) (hw' : effort ∈ w') :
    (∃ effort' ∈ w, effort'.id = effort.id) ∨ effort.id = toString runs' := by
  cases tr with
  | apart hw => exact .inl ⟨effort, hw ▸ hw', rfl⟩
  | unknown _ _ hnone | ended _ _ _ _ hnone => simp [hnone] at hw'
  | begun d verb x _ hsome hid _ hr =>
    obtain rfl : _ = effort := by simpa [hsome] using hw'
    exact .inr (hr ▸ hid)
  | paused d x _ hw hsome | retried d x _ hw hsome | again d x _ hw hsome =>
    obtain rfl : _ = effort := by simpa [hsome] using hw'
    exact .inl ⟨_, hw, rfl⟩

/-- Numbers that are written alike are equal. -/
theorem toString_injective {a b : Nat} (hab : toString a = toString b) : a = b := by
  have hdigits : Nat.toDigits 10 a = Nat.toDigits 10 b := String.ofList_injective hab
  rw [← Nat.ofDigitChars_ten_toDigits (n := a), hdigits, Nat.ofDigitChars_ten_toDigits]

/-- The number of executions never goes back. -/
theorem Trying.runs_le {w w' : Option Effort} {runs runs' : Nat} {ds : List Deed}
    (tr : Trying now w w' runs runs' ds) : runs ≤ runs' := by
  cases tr <;> omega

namespace Tower

open History

variable {t t' : Tower σ} {H es : History h} {id : String} {i r n : Nat} {e : Engine σ}
  {seen : List Event}

/-- An execution is under way in a flight. -/
def Tries (t : Tower σ) (i : Nat) (w : Effort) : Prop := t.efforts[i]? = some (some w)

/-- No execution with the id is under way. -/
def Absent (t : Tower σ) (id : String) : Prop := ∀ j w, t.Tries j w → w.id ≠ id

/-- An execution with the id is under way in no flight but one. -/
def Only (t : Tower σ) (id : String) (i : Nat) : Prop := ∀ j w, t.Tries j w → w.id = id → j = i

/-- Nothing has been told of an execution with the id. -/
structure Unborn (H : History h) (t : Tower σ) (id : String) : Prop where
  deeds : deedsOf id H.timed = []
  absent : t.Absent id

/-- **How it stands with the execution of an id**: it has not begun, or its verb is at work on an
attempt, or it waits for the next one, or it is over. -/
inductive Saga (H : History h) (t : Tower σ) (id : String) : Prop where
  | unborn (hu : Unborn H t id)
  | trying {i d x failures due called} (hi : t.Tries i ⟨d, x, none⟩) (ho : t.Only id i)
      (hx : x.id = id) (hf : Failures d failures due) (hdue : due ≤ called)
      (ha : x.attempt = failures.length + 1)
      (hH : deedsOf id H.timed = Attempt.deeds d x 1 failures ++ [(called, .called d x)])
  | pausing {i d x failures due wake} (hi : t.Tries i ⟨d, x, some wake⟩) (ho : t.Only id i)
      (hx : x.id = id) (hf : Failures d failures due) (hdue : due ≤ wake) (hne : failures ≠ [])
      (ha : x.attempt = failures.length) (hH : deedsOf id H.timed = Attempt.deeds d x 1 failures)
  | ended {d x failures due} {last : Attempt} (ht : t.Absent id) (hx : x.id = id)
      (hf : Failures d failures due) (hdue : due ≤ last.called)
      (hlast : last.result = .ok () ∨ failures.length + 1 = d.action.attempts)
      (hH : deedsOf id H.timed = Attempt.deeds d x 1 (failures ++ [last]))

/-! ### What is not of an execution -/

/-- For an id nothing has happened: nothing was told of it, and it is under way as before. -/
structure Aloof (t t' : Tower σ) (l : List (Nat × Deed)) (id : String) : Prop where
  deeds : deedsOf id l = []
  tries : ∀ j w, w.id = id → (t'.Tries j w ↔ t.Tries j w)

namespace Aloof

variable (hl : Aloof t t' es.timed id)

include hl

/-- Of such an id a step tells nothing more. -/
theorem deedsOf_eq : deedsOf id (H ++ es).timed = deedsOf id H.timed := by
  rw [timed_append, deedsOf_append, hl.deeds, List.append_nil]

theorem absent (ha : t.Absent id) : t'.Absent id := fun j w hw hid =>
  ha j w ((hl.tries j w hid).1 hw) hid

theorem only (ho : t.Only id i) : t'.Only id i := fun j w hw hid =>
  ho j w ((hl.tries j w hid).1 hw) hid

/-- If it had not begun, it still has not. -/
theorem unborn (hu : Unborn H t id) : Unborn (H ++ es) t' id :=
  ⟨hl.deedsOf_eq.trans hu.deeds, hl.absent hu.absent⟩

/-- However it stood with its execution, it stands so still. -/
theorem saga (sg : Saga H t id) : Saga (H ++ es) t' id := by
  cases sg with
  | unborn hu => exact .unborn (hl.unborn hu)
  | @trying j d x _ _ _ hi ho hx hf hdue ha hH =>
    have hi := (hl.tries j ⟨d, x, none⟩ hx).2 hi
    exact .trying hi (hl.only ho) hx hf hdue ha (hl.deedsOf_eq.trans hH)
  | @pausing j d x _ _ wake hi ho hx hf hdue hne ha hH =>
    have hi := (hl.tries j ⟨d, x, some wake⟩ hx).2 hi
    exact .pausing hi (hl.only ho) hx hf hdue hne ha (hl.deedsOf_eq.trans hH)
  | ended ht hx hf hdue hlast hH =>
    exact .ended (hl.absent ht) hx hf hdue hlast (hl.deedsOf_eq.trans hH)

end Aloof

/-- With the effort of one flight changed, the others try what they tried. -/
theorem tries_set {w w' : Option Effort} (hi : t.efforts[i]? = some w)
    (he : t'.efforts = t.efforts.set i w') (j : Nat) (effort : Effort) :
    t'.Tries j effort ↔ if j = i then w' = some effort else t.Tries j effort := by
  rw [Tries, he, Tries]
  by_cases hj : j = i
  · subst hj
    rw [List.getElem?_set_self (List.getElem?_eq_some_iff.1 hi).1, if_pos rfl]
    simp
  · rw [List.getElem?_set_ne (Ne.symm hj), if_neg hj]

/-- A move of another execution is none of this one. -/
theorem Aloof.of_trying {w w' : Option Effort} {ds : List Deed} (hi : t.efforts[i]? = some w)
    (he : t'.efforts = t.efforts.set i w') (hes : es.timed = ds.map (t.clock, ·))
    (tr : Trying t.clock w w' t.engine.runs t'.engine.runs ds)
    (hw : ∀ effort ∈ w, effort.id ≠ id) (hw' : ∀ effort ∈ w', effort.id ≠ id) :
    Aloof t t' es.timed id := by
  refine ⟨hes ▸ tr.deedsOf_eq_nil hw hw', fun j effort hid => ?_⟩
  rw [tries_set hi he]
  split
  · next hj =>
    subst hj
    constructor
    · exact fun h => absurd hid (hw' effort h)
    · exact fun h => absurd hid (hw effort (Option.some.inj (hi.symm.trans h)))
  · exact .rfl

/-! ### What is of an execution -/

/-- An execution that is at work is known with all that it has done. -/
theorem Saga.of_trying (sg : Saga H t id) {d : Dispatch} {x : Execution}
    (hi : t.Tries i ⟨d, x, none⟩) (hx : x.id = id) :
    t.Only id i ∧ ∃ failures due called, Failures d failures due ∧ due ≤ called
      ∧ x.attempt = failures.length + 1
      ∧ deedsOf id H.timed = Attempt.deeds d x 1 failures ++ [(called, .called d x)] := by
  cases sg with
  | unborn hu => exact absurd hx (hu.absent i _ hi)
  | trying hj ho hx' hf hdue ha hH =>
    obtain rfl := ho i _ hi hx
    obtain ⟨rfl, rfl⟩ : _ = d ∧ _ = x := by simpa using hj.symm.trans hi
    exact ⟨ho, _, _, _, hf, hdue, ha, hH⟩
  | pausing hj ho =>
    obtain rfl := ho i _ hi hx
    cases hj.symm.trans hi
  | ended ht => exact absurd hx (ht i _ hi)

/-- When an attempt comes back, that is the last that it has done. -/
theorem Saga.of_returned (sg : Saga H t id) {d : Dispatch} {x : Execution}
    (hi : t.Tries i ⟨d, x, none⟩) (hx : x.id = id) (result : Except VerbError Unit) :
    t.Only id i ∧ ∃ failures due called, Failures d failures due ∧ due ≤ called
      ∧ x.attempt = failures.length + 1
      ∧ deedsOf id H.timed ++ [(t.clock, .returned d x result)]
        = Attempt.deeds d x 1 (failures ++ [⟨called, t.clock, result⟩]) := by
  obtain ⟨ho, failures, due, called, hf, hdue, ha, hH⟩ := sg.of_trying hi hx
  refine ⟨ho, failures, due, called, hf, hdue, ha, ?_⟩
  rw [hH, Attempt.deeds_concat_self d ha, List.append_assoc]
  rfl

/-- An execution that waits for its next attempt is known with all that it has done. -/
theorem Saga.of_pausing (sg : Saga H t id) {d : Dispatch} {x : Execution} {wake : Nat}
    (hi : t.Tries i ⟨d, x, some wake⟩) (hx : x.id = id) :
    t.Only id i ∧ ∃ failures due, Failures d failures due ∧ due ≤ wake
      ∧ x.attempt = failures.length ∧ deedsOf id H.timed = Attempt.deeds d x 1 failures := by
  cases sg with
  | unborn hu => exact absurd hx (hu.absent i _ hi)
  | trying hj ho =>
    obtain rfl := ho i _ hi hx
    cases hj.symm.trans hi
  | pausing hj ho hx' hf hdue _ ha hH =>
    obtain rfl := ho i _ hi hx
    obtain ⟨rfl, rfl, rfl⟩ : _ = d ∧ _ = x ∧ _ = wake := by simpa using hj.symm.trans hi
    exact ⟨ho, _, _, hf, hdue, ha, hH⟩
  | ended ht => exact absurd hx (ht i _ hi)

section Move

variable {w w' : Option Effort} (hi : t.efforts[i]? = some w)
  (he : t'.efforts = t.efforts.set i w')

include hi he

/-- An id that only this flight tried is tried by no other after the change. -/
theorem only_set (ho : t.Only id i) : t'.Only id i := by
  intro j effort hj hid
  rw [tries_set hi he] at hj
  split at hj
  · assumption
  · exact ho j effort hj hid

/-- If the flight has stopped trying it, nobody does. -/
theorem absent_set (ho : t.Only id i) (hw' : w' = none) : t'.Absent id := by
  intro j effort hj hid
  rw [tries_set hi he] at hj
  split at hj
  · rw [hw'] at hj
    cases hj
  · next hne => exact hne (ho j effort hj hid)

/-- **A move goes on with the saga of its execution**, and is none of the others. -/
theorem Saga.tried {ds : List Deed} (hes : es.timed = ds.map (t.clock, ·))
    (tr : Trying t.clock w w' t.engine.runs t'.engine.runs ds)
    (hfresh : ∀ k, t.engine.runs < k → Unborn H t (toString k)) (sg : Saga H t id) :
    Saga (H ++ es) t' id := by
  have happend : deedsOf id (H ++ es).timed
      = deedsOf id H.timed ++ deedsOf id (ds.map (t.clock, ·)) := by
    rw [timed_append, hes, deedsOf_append]
  have haloof (hw : ∀ effort ∈ w, effort.id ≠ id) (hw' : ∀ effort ∈ w', effort.id ≠ id) :
      Saga (H ++ es) t' id := (Aloof.of_trying hi he hes tr hw hw').saga sg
  have hself (effort : Effort) (hw' : w' = some effort) : t'.Tries i effort :=
    (tries_set hi he i effort).2 (by rw [if_pos rfl, hw'])
  cases tr with
  | apart hw _ hd =>
    have hsame : t'.efforts = t.efforts := by
      obtain ⟨hlt, hget⟩ := List.getElem?_eq_some_iff.1 hi
      rw [he, hw, ← hget, List.set_getElem_self]
    exact Aloof.saga
      ⟨hes ▸ deedsOf_of_apart hd id, fun j effort _ => by rw [Tries, Tries, hsame]⟩ sg
  | unknown d hw hw' => exact haloof (by simp [hw]) (by simp [hw'])
  | begun d verb x hw hw' hid ha =>
    by_cases hx : x.id = id
    · have hu : Unborn H t id := hx ▸ hid ▸ hfresh _ (Nat.lt_succ_self _)
      have ho : t.Only id i := fun j effort hj hid => absurd hid (hu.absent j effort hj)
      refine .trying (hself _ hw') (only_set hi he ho) hx .none (Nat.zero_le t.clock) ha ?_
      rw [happend, hu.deeds]
      simp [deedsOf, Deed.id?, hx, Attempt.deeds]
    · exact haloof (by simp [hw]) (by simpa [hw', Effort.id] using hx)
  | paused d x err hw hw' ha hwake =>
    by_cases hx : x.id = id
    · subst hw
      obtain ⟨ho, failures, due, called, hf, hdue, hattempt, hH⟩ :=
        sg.of_returned hi hx (.error err)
      have hf := hf.more (a := ⟨called, t.clock, .error err⟩) hdue rfl (hattempt ▸ ha)
      rw [← hattempt] at hf
      refine .pausing (hself _ hw') (only_set hi he ho) hx hf hwake (by simp)
        (by simp [hattempt]) ?_
      rw [happend, ← hH]
      simp [deedsOf, Deed.id?, hx]
    · exact haloof (by simpa [hw, Effort.id] using hx) (by simpa [hw', Effort.id] using hx)
  | retried d x err hw hw' ha hd =>
    by_cases hx : x.id = id
    · subst hw
      obtain ⟨ho, failures, due, called, hf, hdue, hattempt, hH⟩ :=
        sg.of_returned hi hx (.error err)
      have hf := hf.more (a := ⟨called, t.clock, .error err⟩) hdue rfl (hattempt ▸ ha)
      rw [← hattempt, hd] at hf
      refine .trying (hself _ hw') (only_set hi he ho) hx hf (Nat.le_refl _)
        (by simp [Execution.next, hattempt]) ?_
      rw [happend, Attempt.deeds_next, ← hH]
      simp [deedsOf, Deed.id?, Execution.next, hx]
    · exact haloof (by simpa [hw, Effort.id] using hx)
        (by simpa [hw', Effort.id, Execution.next] using hx)
  | again d x wake hw hw' hwake =>
    by_cases hx : x.id = id
    · subst hw
      obtain ⟨ho, failures, due, hf, hdue, hattempt, hH⟩ := sg.of_pausing hi hx
      refine .trying (hself _ hw') (only_set hi he ho) hx hf (Nat.le_trans hdue hwake)
        (by simp [Execution.next, hattempt]) ?_
      rw [happend, Attempt.deeds_next, ← hH]
      simp [deedsOf, Deed.id?, Execution.next, hx]
    · exact haloof (by simpa [hw, Effort.id] using hx)
        (by simpa [hw', Effort.id, Execution.next] using hx)
  | ended d x result hw hw' ha =>
    by_cases hx : x.id = id
    · subst hw
      obtain ⟨ho, failures, due, called, hf, hdue, hattempt, hH⟩ :=
        sg.of_returned hi hx result
      let last : Attempt := ⟨called, t.clock, result⟩
      have hlast : last.result = .ok () ∨ failures.length + 1 = d.action.attempts := by
        have hlt := hf.length_lt
        exact ha.imp_right fun ha => by omega
      refine .ended (absent_set hi he ho hw') hx hf hdue hlast ?_
      rw [happend, ← hH]
      simp [deedsOf, Deed.id?, hx]
    · exact haloof (by simpa [hw, Effort.id] using hx) (by simp [hw'])

end Move

/-- How it stands with all executions; and those to come have not begun. -/
structure Sagas (H : History h) (t : Tower σ) : Prop where
  saga : ∀ id, Saga H t id
  fresh : ∀ k, t.engine.runs < k → Unborn H t (toString k)

/-- An execution to come is none of those that a move tries, unless it begins now. -/
theorem Unborn.tried {w w' : Option Effort} {ds : List Deed} (hi : t.efforts[i]? = some w)
    (he : t'.efforts = t.efforts.set i w') (hes : es.timed = ds.map (t.clock, ·))
    (tr : Trying t.clock w w' t.engine.runs t'.engine.runs ds) {k : Nat}
    (hk : t'.engine.runs < k) (hu : t.engine.runs < k → Unborn H t (toString k)) :
    Unborn (H ++ es) t' (toString k) := by
  have hu := hu (Nat.lt_of_le_of_lt tr.runs_le hk)
  have hw (effort : Effort) (hw : effort ∈ w) : effort.id ≠ toString k :=
    hu.absent i effort (hi.trans (congrArg some hw))
  refine (Aloof.of_trying hi he hes tr hw fun effort hw' hid => ?_).unborn hu
  rcases tr.id_eq effort hw' with ⟨effort', hw₀, hid'⟩ | hid'
  · exact hw effort' hw₀ (hid'.trans hid)
  · exact Nat.ne_of_lt hk (toString_injective (hid'.symm.trans hid))

/-- **A step carries the stories of all executions on.** -/
theorem Step.sagas (st : Step h t es t') (hk : es.Kept) (sg : Sagas H t) : Sagas (H ++ es) t' := by
  have hef := st.trying hk
  generalize hes : es.timed = l at hef
  cases hef with
  | kept he hr =>
    have hl (id : String) : Aloof t t' es.timed id :=
      ⟨by rw [hes]; rfl, fun j w _ => by rw [Tries, Tries, he]⟩
    exact ⟨fun id => (hl id).saga (sg.saga id), fun k hk => (hl _).unborn (sg.fresh k (hr ▸ hk))⟩
  | launched he hr =>
    have hl (id : String) : Aloof t t' es.timed id := by
      refine ⟨by rw [hes]; rfl, fun j w _ => ?_⟩
      rw [Tries, Tries, he, List.getElem?_append]
      split
      · rfl
      · next hlt => simp [hlt, List.getElem?_singleton]
    exact ⟨fun id => (hl id).saga (sg.saga id), fun k hk => (hl _).unborn (sg.fresh k (hr ▸ hk))⟩
  | moved hi he tr =>
    refine ⟨fun id => Saga.tried hi he hes tr sg.fresh (sg.saga id), fun k hk => ?_⟩
    exact Unborn.tried hi he hes tr hk (sg.fresh k)

/-- **So does a chronicle from a start**, in which no flight is given up. -/
theorem Chronicle.sagas (c : Chronicle h (.start e n) H t) (hk : H.Kept) : Sagas H t := by
  induction c with
  | refl =>
    have hu (id : String) : Unborn ([] : History h) (.start e n) id :=
      ⟨rfl, fun j w hw => by simp [Tries, efforts, start] at hw⟩
    exact ⟨fun id => .unborn (hu id), fun k _ => hu _⟩
  | tail _ st ih =>
    have hk := kept_append.1 hk
    exact st.sagas hk.2 (ih hk.1)

end Tower

end RemoteScreen
