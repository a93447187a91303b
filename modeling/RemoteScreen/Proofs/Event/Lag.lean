import Mathlib.Algebra.GroupWithZero.Nat
import RemoteScreen.Proofs.Event.Delivery

/-!
# Proofs/Event/Lag — what becomes of a receiver that has fallen behind

    sent:   0 ─ 1 ─ 2 ─ 3 ─ 4 ─ 5 ─ 6
                ▴           ▴       ▴
             position     oldest   sent
                 ╰──lost──╯ ╰─kept──╯

A receiver that **waits** is told how much it has lost, and goes on at the end: what is kept is
passed over as well, and it is not told of that.  A receiver that **looks** is told of nothing, and
goes on with what is kept: the look that takes it there gives nothing, as one does when there is
nothing more.

* `losses_accounted` — **each loss that is told of is short by as many events as are kept**, and
  that is all that is missing in the account of a receiver that waits;
* `look_drains` — **a receiver that has not fallen behind gets all there is by looking until there
  is nothing**, and one that has gets nothing of it, and has to go on looking.
-/

namespace RemoteScreen

namespace Bus

variable {log : List Note} {note : Note} {b b' : Bus} {r p : Nat} {u : Use} {ev : Event}

/-! ## Accounts -/

/-- Nothing is pending for a receiver: it would have to wait. -/
def Idle (b : Bus) (r : Nat) : Prop :=
  b.position? r ≠ none ∧ (b.use (.receive r)).1 = .nothing r

instance (b : Bus) (r : Nat) : Decidable (b.Idle r) := inferInstanceAs (Decidable (_ ∧ _))

/-- **The account of a receiver that waits**: from where it has joined to where it is, it has got an
event, was told of its loss, or has passed over it with a window. -/
def Accounted (log : List Note) (b : Bus) (r : Nat) : Prop :=
  ∀ p, b.position? r = some p →
    start log r + (delivered log r).length + (lags log r).sum + b.room * (lags log r).length = p

/-- A turn that is no look keeps the account. -/
theorem Turn.accounted (t : b.Turn r u note b') (hr : Ring log b) (ht : Traced log b r)
    (ha : Accounted log b r) (hlook : u ≠ .look r) : Accounted (log ++ [note]) b' r := by
  intro q hq
  rw [t.room]
  cases t with
  | told ev =>
    rw [delivered_keep rfl, lags_keep rfl, start_concat (ht.joined hq)]
    exact ha q hq
  | joins hlength =>
    obtain ⟨hnot, hnone, hnolag⟩ := ht.unknown (Nat.le_of_eq hlength)
    rw [← hlength, position?_subscribe] at hq
    rw [delivered_keep rfl, lags_keep rfl, hnone, hnolag, start_joined hnot, hr.sent]
    exact Option.some.inj hq
  | leaves =>
    rw [position?_leave] at hq
    cases hq
  | gets _ hp hv =>
    rw [position?_move (lt_length_of_position hp)] at hq
    have hbefore := ha _ hp
    rw [delivered_concat, Note.got?, if_pos rfl, lags_keep rfl, start_concat (ht.joined hp),
      ← Option.some.inj hq, Option.toList_some, List.length_append, List.length_singleton]
    omega
  | lags hp hv =>
    rw [position?_move (lt_length_of_position hp)] at hq
    have hbefore := ha _ hp
    obtain ⟨hlt, rfl⟩ := of_view_lost hv
    have holdest := hr.oldest_eq
    rw [delivered_keep rfl, lags_concat, Note.lost?, if_pos rfl, start_concat (ht.joined hp),
      ← Option.some.inj hq, Option.toList_some, List.sum_append, List.length_append,
      List.sum_singleton, List.length_singleton, Nat.mul_add, Nat.mul_one]
    omega
  | slips => exact absurd rfl hlook
  | aside _ hn hu =>
    rw [hu.position] at hq
    rw [delivered_keep hn.got, lags_keep hn.lost, start_concat (ht.joined hq)]
    exact ha q hq

/-- **Without looks the account holds after every run.** -/
theorem run_accounted {capacity : Nat} {uses : List Use} (hlook : .look r ∉ uses) :
    Accounted (logged capacity uses) (after capacity uses) r := by
  induction uses using List.reverseRecOn with
  | nil =>
    intro p hp
    simp [after, run, new, position?] at hp
  | append_singleton uses u ih =>
    obtain ⟨hr, ht⟩ := run_traced capacity uses r
    have hmem := List.mem_append.not.1 hlook
    rw [logged_concat, after_concat]
    refine ((after capacity uses).turn r u).accounted hr ht (ih fun h => hmem (.inl h)) ?_
    rintro rfl
    exact hmem (.inr List.mem_cons_self)

/-- **Each loss that a receiver is told of is short by a whole window.**  Whatever else is done at a
bus: when nothing is pending for a receiver that only waits for events, what it has got and what it
was told to have lost falls short of what was sent since it has joined by as many events as there is
room for, for each time that it was told of a loss. -/
theorem losses_accounted (capacity : Nat) (uses : List Use) (r : Nat) (hlook : .look r ∉ uses)
    (hidle : (after capacity uses).Idle r) :
    (delivered (logged capacity uses) r).length + (lags (logged capacity uses) r).sum
        + (max capacity 1).nextPowerOfTwo * (lags (logged capacity uses) r).length
      = (announced (logged capacity uses) r).length := by
  obtain ⟨p, hp⟩ := Option.ne_none_iff_exists'.1 hidle.1
  obtain ⟨hr, ht⟩ := run_traced capacity uses r
  have hend : (after capacity uses).sent ≤ p := of_receive_nothing hr hp hidle.2
  have hplace := (ht.place p hp).2.1
  have haccount := run_accounted hlook p hp
  rw [run_room] at haccount
  rw [announced_eq, List.length_drop, hr.sent]
  omega

/-- Five events go out to a receiver with room for two, and one more when it has been told. -/
def behind : List Use :=
  [.subscribe, .publish (.started "1" "log"), .publish (.succeeded "1" "log" 0),
   .publish (.started "2" "log"), .publish (.succeeded "2" "log" 0), .publish (.started "3" "log"),
   .receive 0, .publish (.succeeded "3" "log" 0), .receive 0]

/-- It gets one event, is told that three are lost, and has passed over two. -/
theorem losses_accounted_behind :
    .look 0 ∉ behind ∧ (after 2 behind).Idle 0
      ∧ delivered (logged 2 behind) 0 = [(.succeeded "3" "log" 0, 5)]
      ∧ lags (logged 2 behind) 0 = [3]
      ∧ (announced (logged 2 behind) 0).length = 1 + 3 + 2 := by
  have hlook : Use.look 0 ∉ behind := by decide
  have hidle : (after 2 behind).Idle 0 := by decide +kernel
  have hgot : delivered (logged 2 behind) 0 = [(.succeeded "3" "log" 0, 5)] := by decide +kernel
  have hlags : lags (logged 2 behind) 0 = [3] := by decide +kernel
  have hroom : (max 2 1).nextPowerOfTwo = 2 := by decide +kernel
  have haccount := losses_accounted 2 behind 0 hlook hidle
  rw [hgot, hlags, hroom] at haccount
  exact ⟨hlook, hidle, hgot, hlags, haccount.symm⟩

/-- **What a receiver has got and what it was told to have lost is not all that was sent**: it is
told of three events out of five, and gets none of the others. -/
theorem not_accounted_in_full :
    ¬ ∀ (capacity : Nat) (uses : List Use) (r : Nat), .look r ∉ uses →
      (after capacity uses).Idle r →
        (delivered (logged capacity uses) r).length + (lags (logged capacity uses) r).sum
          = (announced (logged capacity uses) r).length := by
  intro h
  have hshort := h 2 (behind.take 7) 0 (by decide) (by decide +kernel)
  exact absurd hshort (by decide +kernel)

/-! ## Looking until there is nothing -/

/-- A receiver looks for events until it gets none. -/
inductive Drains (r : Nat) : Bus → List Event → Bus → Prop where
  | nothing {b b' : Bus} (h : b.look r = (none, b')) : Drains r b [] b'
  | event {b b₁ b' : Bus} {ev : Event} {evs : List Event} (h : b.look r = (some ev, b₁))
      (d : Drains r b₁ evs b') : Drains r b (ev :: evs) b'

/-- A receiver that has lost nothing sees the first of what waits for it. -/
theorem At.look_fst (ha : b.At r p) (hk : b.KeepsUp r) : (b.look r).1 = (b.waiting r).head? := by
  have hoff := Nat.not_lt.2 (ha.keepsUp_iff.1 hk)
  rw [look, ha.position, ha.waiting_eq, List.head?_drop]
  simp only [view, if_neg hoff]
  cases b.kept[p - b.oldest]? <;> rfl

/-- **By looking until there is nothing, a receiver that has lost nothing gets all that waits.** -/
theorem At.drains (ha : b.At r p) (hk : b.KeepsUp r) : ∃ b', Drains r b (b.waiting r) b' := by
  generalize hw : b.waiting r = evs
  have hfst := ha.look_fst hk
  rw [hw] at hfst
  induction evs generalizing b p with
  | nil => exact ⟨_, .nothing (Prod.ext hfst rfl)⟩
  | cons ev evs ih =>
    have hg : b.Gives r ev (b.look r).2 := .inl (Prod.ext hfst rfl)
    obtain ⟨ha', -, hrest⟩ := ha.gives hg
    have hk' : (b.look r).2.KeepsUp r := by
      obtain ⟨-, hmove⟩ := ha.view_of_gives hg
      rw [ha'.keepsUp_iff, hmove]
      exact Nat.le_succ_of_le (ha.keepsUp_iff.1 hk)
    have hw' := (List.cons.inj (hw.symm.trans hrest)).2.symm
    obtain ⟨b', d⟩ := ih ha' hk' hw' (hw' ▸ ha'.look_fst hk')
    exact ⟨b', .event (Prod.ext hfst rfl) d⟩

/-- A receiver that has lost something sees nothing, and is taken to the oldest event kept. -/
theorem At.look_of_behind (ha : b.At r p) (hk : ¬ b.KeepsUp r) :
    b.look r = (none, b.move r (some b.oldest)) := by
  have hlt := Nat.lt_of_not_le (mt ha.keepsUp_iff.2 hk)
  rw [look, ha.position]
  simp only [view, if_pos hlt]

namespace Note

/-- With the note, a receiver begins anew with what is sent from then on. -/
def subscribes (r : Nat) : Note → Bool
  | joined r' | lagged r' _ => r' = r
  | _ => false

theorem Apart.not_subscribes (h : note.Apart r) : note.subscribes r = false := by
  cases note with
  | joined r' => exact decide_eq_false fun heq => h.joined (heq ▸ rfl)
  | lagged r' lost =>
    refine decide_eq_false fun heq => ?_
    have hlost := h.lost
    rw [lost?, if_pos heq] at hlost
    cases hlost
  | _ => rfl

end Note

/-- The events sent since a receiver has last subscribed: when it joined, or when it was last told
of a loss. -/
def current (log : List Note) (r : Nat) : List (Event × Nat) :=
  log.foldl (fun seen note => if note.subscribes r then [] else seen ++ note.sent?.toList) []

/-- Subscribing anew forgets what was sent; any other note adds to it. -/
theorem current_concat (log : List Note) (note : Note) (r : Nat) :
    current (log ++ [note]) r
      = if note.subscribes r then [] else current log r ++ note.sent?.toList := by
  rw [current, List.foldl_append]
  rfl

/-- What is current was sent. -/
theorem current_subset (log : List Note) (r : Nat) : current log r ⊆ sentIn log := by
  induction log using List.reverseRecOn with
  | nil => exact List.Subset.refl _
  | append_singleton log note ih =>
    rw [current_concat, sentIn_concat]
    split
    · exact List.nil_subset _
    · exact fun x hx => List.mem_append.2 ((List.mem_append.1 hx).imp_left fun h => ih h)

/-- **A receiver has got all that is kept and lies behind it**, since it has last subscribed. -/
def Caught (log : List Note) (b : Bus) (r : Nat) : Prop :=
  ∀ p, b.position? r = some p → ∀ x ∈ current log r, b.oldest ≤ x.2 → x.2 < p → x ∈ delivered log r

/-- A turn leaves a receiver with all that is kept behind it. -/
theorem Turn.caught (t : b.Turn r u note b') (hr : Ring log b) (ht : Traced log b r)
    (hc : Caught log b r) : Caught (log ++ [note]) b' r := by
  intro q hq x hx hkept hbehind
  rw [current_concat] at hx
  cases t with
  | told ev =>
    rw [delivered_keep rfl]
    rcases List.mem_append.1 hx with hx | hx
    · refine hc q hq x hx (Nat.le_trans ?_ hkept) hbehind
      rw [(hr.told ev).oldest_eq, hr.oldest_eq]
      exact Nat.sub_le_sub_right (Nat.le_succ _) _
    · obtain rfl : x = (ev, b.sent) := List.mem_singleton.1 hx
      exact absurd hbehind (Nat.not_lt.2 (ht.place q hq).2.1)
  | joins => simp [Note.subscribes] at hx
  | leaves =>
    rw [position?_leave] at hq
    cases hq
  | @gets _ p ev hp hv =>
    obtain rfl : p + 1 = q := by
      rw [position?_move (lt_length_of_position hp)] at hq
      exact Option.some.inj hq
    have hx : x ∈ current log r := by simpa [Note.subscribes, Note.sent?] using hx
    rw [delivered_concat, Note.got?, if_pos rfl]
    rcases Nat.lt_succ_iff_lt_or_eq.1 hbehind with hlt | heq
    · exact List.mem_append_left _ (hc p hp x hx hkept hlt)
    · have hget := hr.getElem?_of_mem (current_subset log r hx)
      rw [heq, (hr.of_view_event hv).2.2] at hget
      exact List.mem_append_right _ (by simpa using (Option.some.inj hget).symm)
  | lags => simp [Note.subscribes] at hx
  | slips hp hv =>
    rw [position?_move (lt_length_of_position hp)] at hq
    obtain rfl := Option.some.inj hq
    exact absurd hbehind (Nat.not_lt.2 hkept)
  | aside _ hn hu =>
    rw [hn.not_subscribes, hn.sent] at hx
    rw [hu.position] at hq
    rw [oldest, hu.sent, hu.kept] at hkept
    rw [delivered_keep hn.got]
    exact hc q hq x (by simpa using hx) hkept hbehind

/-- So does a whole run. -/
theorem run_caught (capacity : Nat) (uses : List Use) (r : Nat) :
    Caught (logged capacity uses) (after capacity uses) r := by
  induction uses using List.reverseRecOn with
  | nil =>
    intro p hp
    simp [after, run, new, position?] at hp
  | append_singleton uses u ih =>
    obtain ⟨hr, ht⟩ := run_traced capacity uses r
    rw [logged_concat, after_concat]
    exact ((after capacity uses).turn r u).caught hr ht ih

/-- A traced receiver stands at its position. -/
theorem Traced.at (ht : Traced log b r) (hr : Ring log b) (hp : b.position? r = some p) :
    b.At r p where
  position := hp
  le := (ht.place p hp).2.1
  kept := by
    rw [hr.kept, List.length_drop, List.length_map, hr.sent]
    exact Nat.sub_le _ _

/-- A receiver has got nothing that lies before it. -/
theorem Traced.lt_of_mem (ht : Traced log b r) (hr : Ring log b) (hp : b.position? r = some p)
    {x : Event × Nat} (hx : x ∈ Bus.delivered log r) : x.2 < p := by
  have hmem : x ∈ (sentIn log).take p :=
    List.mem_of_mem_drop ((ht.place p hp).2.2.subset hx)
  obtain ⟨q, hq⟩ := List.mem_iff_getElem?.1 hmem
  rw [List.getElem?_take] at hq
  split at hq
  · next hlt =>
    rw [hr.getElem?_sentIn] at hq
    obtain ⟨ev, -, rfl⟩ := Option.map_eq_some_iff.1 hq
    exact hlt
  · cases hq

/-- Taken to the oldest event kept, a receiver has before it all that is kept. -/
theorem At.of_behind (ha : b.At r p) :
    (b.move r (some b.oldest)).At r b.oldest
      ∧ (b.move r (some b.oldest)).waiting r = b.kept := by
  have ha' : (b.move r (some b.oldest)).At r b.oldest :=
    ⟨position?_move (lt_length_of_position ha.position) _, Nat.sub_le _ _, ha.kept⟩
  refine ⟨ha', ?_⟩
  rw [ha'.waiting_eq]
  show b.kept.drop (b.oldest - b.oldest) = b.kept
  rw [Nat.sub_self, List.drop_zero]

/-- Where nothing waits for a receiver that has lost nothing, everything sent lies behind it. -/
theorem At.sent_le_of_waiting (ha : b.At r p) (hk : b.KeepsUp r) (hw : b.waiting r = []) :
    b.sent ≤ p := by
  rw [ha.waiting_eq, List.drop_eq_nil_iff] at hw
  have hoff := ha.keepsUp_iff.1 hk
  rw [oldest] at hw hoff
  omega

/-- **Looking until there is nothing gets all that is kept, unless the receiver has fallen behind.**
Whatever is done at a bus: a receiver that has lost nothing gets all that waits for it by looking
until there is nothing, and when a look gives nothing, it has got all that is kept of what was sent
since it has last subscribed.  For a receiver that has fallen behind, a look gives nothing although
it has got nothing of what is kept; it gets all of that by looking until there is nothing again. -/
theorem look_drains (capacity : Nat) (uses : List Use) (r : Nat)
    (hhere : (after capacity uses).position? r ≠ none) :
    ((after capacity uses).KeepsUp r →
        (∃ b', Drains r (after capacity uses) ((after capacity uses).waiting r) b')
        ∧ (((after capacity uses).look r).1 = none →
            ∀ x ∈ current (logged capacity uses) r, (after capacity uses).oldest ≤ x.2 →
              x ∈ delivered (logged capacity uses) r))
      ∧ (¬ (after capacity uses).KeepsUp r →
          ((after capacity uses).look r).1 = none
          ∧ (∀ x ∈ current (logged capacity uses) r, (after capacity uses).oldest ≤ x.2 →
              x ∉ delivered (logged capacity uses) r)
          ∧ ∃ b', Drains r ((after capacity uses).look r).2 (after capacity uses).kept b') := by
  obtain ⟨p, hp⟩ := Option.ne_none_iff_exists'.1 hhere
  obtain ⟨hr, ht⟩ := run_traced capacity uses r
  have ha := ht.at hr hp
  refine ⟨fun hk => ⟨ha.drains hk, fun hnone x hx hkept => ?_⟩, fun hk => ?_⟩
  · have hw : (after capacity uses).waiting r = [] :=
      List.head?_eq_none_iff.1 ((ha.look_fst hk).symm.trans hnone)
    have hget := hr.getElem?_of_mem (current_subset _ r hx)
    have hlt := hr.sent ▸ (List.getElem?_eq_some_iff.1 hget).1
    exact run_caught capacity uses r p hp x hx hkept
      (Nat.lt_of_lt_of_le hlt (ha.sent_le_of_waiting hk hw))
  · have hlook := ha.look_of_behind hk
    have hlt := Nat.lt_of_not_le (mt ha.keepsUp_iff.2 hk)
    obtain ⟨ha', hwaiting⟩ := ha.of_behind
    rw [hlook, ← hwaiting]
    refine ⟨rfl, fun x _ hkept hgot => ?_, ha'.drains (ha'.keepsUp_iff.2 (Nat.le_refl _))⟩
    exact absurd (ht.lt_of_mem hr hp hgot) (Nat.not_lt.2 (Nat.le_trans (Nat.le_of_lt hlt) hkept))

/-- A receiver that has been told of a loss, with two events behind it and two before it. -/
def ahead : List Use :=
  behind ++ [.publish (.started "4" "log"), .publish (.succeeded "4" "log" 0)]

/-- It gets what is before it, and after that there is nothing; with two of three events before it,
the first of them lost, it gets both by the looks after the first. -/
theorem look_drains_ahead :
    ((after 2 ahead).position? 0 ≠ none ∧ (after 2 ahead).KeepsUp 0
      ∧ ∃ b', Drains 0 (after 2 ahead) [.started "4" "log", .succeeded "4" "log" 0] b')
      ∧ (after 2 (behind.take 4)).position? 0 ≠ none ∧ ¬ (after 2 (behind.take 4)).KeepsUp 0
      ∧ ∃ b', Drains 0 ((after 2 (behind.take 4)).look 0).2
        [.succeeded "1" "log" 0, .started "2" "log"] b' := by
  have hhere : (after 2 ahead).position? 0 ≠ none := by decide +kernel
  have hk : (after 2 ahead).KeepsUp 0 := ⟨6, by decide +kernel, by decide +kernel⟩
  have hwaiting : (after 2 ahead).waiting 0 = [.started "4" "log", .succeeded "4" "log" 0] := by
    decide +kernel
  have hhere' : (after 2 (behind.take 4)).position? 0 ≠ none := by decide +kernel
  have hk' : ¬ (after 2 (behind.take 4)).KeepsUp 0 := by
    rintro ⟨p, hp, hle⟩
    obtain rfl : 0 = p := Option.some.inj ((by decide +kernel : _ = some 0).symm.trans hp)
    exact absurd hle (by decide +kernel)
  have hkept : (after 2 (behind.take 4)).kept = [.succeeded "1" "log" 0, .started "2" "log"] := by
    decide +kernel
  have hdrains := ((look_drains 2 (behind.take 4) 0 hhere').2 hk').2.2
  rw [hkept] at hdrains
  exact ⟨⟨hhere, hk, hwaiting ▸ ((look_drains 2 ahead 0 hhere).1 hk).1⟩, hhere', hk', hdrains⟩

/-- **A look that gives nothing does not mean that there is nothing**: to a receiver with room for
two that has not looked, three events are sent, and its first look gives nothing although the last
two are kept. -/
theorem not_drained :
    ¬ ∀ (capacity : Nat) (uses : List Use) (r : Nat), (after capacity uses).position? r ≠ none →
      ((after capacity uses).look r).1 = none →
        ∀ x ∈ announced (logged capacity uses) r, (after capacity uses).oldest ≤ x.2 →
          x ∈ delivered (logged capacity uses) r := by
  intro h
  have hall := h 2 (behind.take 4) 0 (by decide +kernel) (by decide +kernel)
    (.started "2" "log", 2) (by decide +kernel) (by decide +kernel)
  exact absurd hall (by decide +kernel)

end Bus

end RemoteScreen
