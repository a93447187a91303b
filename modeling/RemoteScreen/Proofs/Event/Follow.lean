import RemoteScreen.Event.Bus

/-!
# Proofs/Event/Follow — a receiver that keeps up gets everything

    sent:  … ─ e ─ e ─ e ─ e ─ e
               ▴       ▴       ▴
            oldest  position  sent

What waits for a receiver is what is kept from its position on.  As long as its position is not
behind the oldest event kept, sending adds to what waits (`At.tell`), and receiving takes the first
of it (`At.gives`): the receiver gets every event, once and in order.
-/

namespace RemoteScreen

namespace Bus

variable {b b' : Bus} {r p : Nat} {ev : Event}

/-- A receiver is at a position among the events sent. -/
structure At (b : Bus) (r p : Nat) : Prop where
  position : b.position? r = some p
  le : p ≤ b.sent
  kept : b.kept.length ≤ b.sent

/-- A receiver has lost nothing. -/
def KeepsUp (b : Bus) (r : Nat) : Prop := ∃ p, b.position? r = some p ∧ b.oldest ≤ p

/-- What waits for a receiver. -/
def waiting (b : Bus) (r : Nat) : List Event :=
  (b.position? r).elim [] fun p => b.kept.drop (p - b.oldest)

/-- Sends an event, if somebody listens. -/
def tell (b : Bus) (ev : Event) : Bus :=
  match b.publish ev with
  | .ok b' => b'
  | .error _ => b

/-- A receiver gets an event, be it that it looks for one or that it waits for one. -/
def Gives (b : Bus) (r : Nat) (ev : Event) (b' : Bus) : Prop :=
  b.look r = (some ev, b') ∨ b.receive r = (.ok (some ev), b')

/-- For a receiver nothing has happened. -/
structure Undisturbed (b : Bus) (r : Nat) (b' : Bus) : Prop where
  sent : b'.sent = b.sent
  kept : b'.kept = b.kept
  position : b'.position? r = b.position? r

theorem Undisturbed.refl (b : Bus) (r : Nat) : b.Undisturbed r b := ⟨rfl, rfl, rfl⟩

/-! ## Positions -/

/-- Moving one receiver leaves the others where they are. -/
theorem position?_move_of_ne {s : Nat} (h : s ≠ r) (position : Option Nat) :
    (b.move s position).position? r = b.position? r := by
  rw [position?, move, List.getElem?_set_ne h]
  rfl

/-- A receiver with a position is known. -/
theorem lt_length_of_position (hp : b.position? r = some p) : r < b.positions.length := by
  have hr : b.positions[r]? = some (some p) := Option.join_eq_some_iff.1 hp
  exact (List.getElem?_eq_some_iff.1 hr).1

/-- A known receiver moves to where it is moved. -/
theorem position?_move (hr : r < b.positions.length) (position : Option Nat) :
    (b.move r position).position? r = position := by
  rw [position?, move, List.getElem?_set_self hr]
  rfl

theorem length_move (s : Nat) (position : Option Nat) :
    (b.move s position).positions.length = b.positions.length := List.length_set

/-- Who has left has no position. -/
theorem position?_leave (b : Bus) (r : Nat) : (b.leave r).position? r = none := by
  by_cases hr : r < b.positions.length
  · exact position?_move hr none
  · rw [position?, List.getElem?_eq_none (by rw [leave, length_move]; exact Nat.le_of_not_lt hr)]
    rfl

theorem length_subscribe (b : Bus) :
    b.subscribe.2.positions.length = b.positions.length + 1 := List.length_append

/-- A new receiver stands behind all events sent. -/
theorem position?_subscribe (b : Bus) :
    b.subscribe.2.position? b.positions.length = some b.sent := by
  simp [subscribe, position?]

theorem position?_subscribe_of_ne (hr : b.positions.length ≠ r) :
    b.subscribe.2.position? r = b.position? r := by
  show ((b.positions ++ [some b.sent])[r]?).join = (b.positions[r]?).join
  rw [List.getElem?_append]
  split
  · rfl
  · next hlt =>
    rw [List.getElem?_eq_none (by simp; omega), List.getElem?_eq_none (by omega)]

/-! ## What waits -/

/-- A receiver that has just subscribed is where the next event will be. -/
theorem at_subscribe (hb : b.kept.length ≤ b.sent) :
    b.subscribe.2.At b.subscribe.1 b.subscribe.2.sent where
  position := position?_subscribe b
  le := Nat.le_refl _
  kept := hb

/-- What waits for a receiver are the kept events from its position on. -/
theorem At.waiting_eq (ha : b.At r p) : b.waiting r = b.kept.drop (p - b.oldest) := by
  rw [waiting, ha.position]
  rfl

/-- A receiver keeps up if the event at its position is still kept. -/
theorem At.keepsUp_iff (ha : b.At r p) : b.KeepsUp r ↔ b.oldest ≤ p := by
  simp [KeepsUp, ha.position]

/-- For a receiver that is where the next event will be, nothing waits. -/
theorem At.waiting_of_sent (ha : b.At r b.sent) : b.waiting r = [] := by
  rw [ha.waiting_eq, List.drop_eq_nil_iff]
  have := ha.kept
  rw [oldest]
  omega

/-- Undisturbed, a receiver stays where it is. -/
theorem At.undisturbed (ha : b.At r p) (hu : b.Undisturbed r b') : b'.At r p where
  position := hu.position.trans ha.position
  le := hu.sent ▸ ha.le
  kept := hu.sent ▸ hu.kept ▸ ha.kept

theorem Undisturbed.waiting (hu : b.Undisturbed r b') : b'.waiting r = b.waiting r := by
  rw [Bus.waiting, Bus.waiting, oldest, oldest, hu.position, hu.sent, hu.kept]

theorem Undisturbed.keepsUp (hu : b.Undisturbed r b') : b'.KeepsUp r ↔ b.KeepsUp r := by
  rw [KeepsUp, KeepsUp, oldest, oldest, hu.position, hu.sent, hu.kept]

/-- Where somebody listens, an event is sent. -/
theorem At.tell_eq (ha : b.At r p) (ev : Event) : b.tell ev =
    { b with
      sent := b.sent + 1
      kept := (b.kept ++ [ev]).drop ((b.kept ++ [ev]).length - b.room) } := by
  have hsome : b.subscribers ≠ 0 := by
    have hr : b.positions[r]? = some (some p) := Option.join_eq_some_iff.1 ha.position
    exact Nat.ne_of_gt (List.countP_pos_iff.2 ⟨_, List.mem_of_getElem? hr, rfl⟩)
  rw [tell, publish, if_neg hsome]

/-- **What is sent to a receiver that keeps up waits for it**, behind what waits already. -/
theorem At.tell (ha : b.At r p) (ev : Event) :
    (b.tell ev).At r p ∧ ((b.tell ev).KeepsUp r →
      b.KeepsUp r ∧ (b.tell ev).waiting r = b.waiting r ++ [ev]) := by
  have hle := ha.le
  have hkept := ha.kept
  have ha' : (b.tell ev).At r p := by
    rw [ha.tell_eq ev]
    refine ⟨ha.position, Nat.le_succ_of_le hle, ?_⟩
    simp only [List.length_drop, List.length_append, List.length_singleton]
    omega
  refine ⟨ha', fun hk => ?_⟩
  rw [ha'.keepsUp_iff] at hk
  rw [ha'.waiting_eq, ha.waiting_eq, ha.keepsUp_iff]
  rw [ha.tell_eq ev] at hk ⊢
  simp only [oldest, List.length_drop, List.length_append, List.length_singleton] at hk ⊢
  have hdrop : b.kept.length + 1 - b.room + (p - (b.sent + 1 -
      (b.kept.length + 1 - (b.kept.length + 1 - b.room)))) = p - (b.sent - b.kept.length) := by
    omega
  refine ⟨by omega, ?_⟩
  rw [List.drop_drop, hdrop, List.drop_append_of_le_length (by omega)]

/-- **Events told behind a receiver that keeps up wait for it in turn.** -/
theorem At.tellAll (ha : b.At r p) (evs : List Event) :
    (evs.foldl Bus.tell b).At r p ∧ ((evs.foldl Bus.tell b).KeepsUp r →
      b.KeepsUp r ∧ (evs.foldl Bus.tell b).waiting r = b.waiting r ++ evs) := by
  induction evs generalizing b with
  | nil => exact ⟨ha, fun hk => ⟨hk, (List.append_nil _).symm⟩⟩
  | cons ev evs ih =>
    obtain ⟨ha₁, htold⟩ := ha.tell ev
    obtain ⟨ha', htold'⟩ := ih ha₁
    refine ⟨ha', fun hk => ?_⟩
    obtain ⟨hk₁, hwaiting'⟩ := htold' hk
    obtain ⟨hk₀, hwaiting⟩ := htold hk₁
    exact ⟨hk₀, by rw [List.foldl_cons, hwaiting', hwaiting, List.append_assoc]; rfl⟩

/-- An event that a receiver gets is at its position, and it goes on to the next one. -/
theorem At.view_of_gives (ha : b.At r p) (hg : b.Gives r ev b') :
    b.view p = .event ev ∧ b' = b.move r (some (p + 1)) := by
  rcases hg with hg | hg
  · simp only [look, ha.position] at hg
    split at hg
    · next e hv =>
      obtain ⟨he, hb⟩ := Prod.mk.inj hg
      exact ⟨hv.trans (congrArg View.event (Option.some.inj he)), hb.symm⟩
    · cases (Prod.mk.inj hg).1
    · cases (Prod.mk.inj hg).1
  · simp only [receive, ha.position] at hg
    split at hg
    · next e hv =>
      obtain ⟨he, hb⟩ := Prod.mk.inj hg
      exact ⟨hv.trans (congrArg View.event (Option.some.inj (Except.ok.inj he))), hb.symm⟩
    · cases (Prod.mk.inj hg).1
    · next hv =>
      have he := (Prod.mk.inj hg).1
      split at he <;> cases he

/-- **What a receiver gets is the first that waits for it**, and it keeps up. -/
theorem At.gives (ha : b.At r p) (hg : b.Gives r ev b') :
    b'.At r (p + 1) ∧ b.KeepsUp r ∧ b.waiting r = ev :: b'.waiting r := by
  obtain ⟨hv, rfl⟩ := ha.view_of_gives hg
  rw [view] at hv
  split at hv
  · cases hv
  · next hle =>
    have hle := Nat.le_of_not_lt hle
    split at hv
    · next e he =>
      obtain rfl : e = ev := by simpa using hv
      obtain ⟨hlt, hget⟩ := List.getElem?_eq_some_iff.1 he
      have hkept := ha.kept
      have ha' : (b.move r (some (p + 1))).At r (p + 1) :=
        ⟨position?_move (lt_length_of_position ha.position) _,
          by rw [oldest] at hlt hle; show p + 1 ≤ b.sent; omega, ha.kept⟩
      refine ⟨ha', ha.keepsUp_iff.2 hle, ?_⟩
      have hnext : p + 1 - b.oldest = p - b.oldest + 1 := by omega
      rw [ha.waiting_eq, ha'.waiting_eq]
      show _ = e :: b.kept.drop (p + 1 - b.oldest)
      rw [hnext, List.drop_eq_getElem_cons hlt, hget]
    · cases hv

end Bus

end RemoteScreen
