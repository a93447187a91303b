import Mathlib.Algebra.Group.Nat.Defs
import RemoteScreen.Proofs.Engine.Books
import RemoteScreen.Proofs.Engine.Chain

/-!
# Proofs/Engine/Backoff — waits and attempts that do not wrap

    called ─ returned ─(delay)─ called ─ returned ─(2 · delay)─ called ─ returned ─(4 · delay)─ …

A wait is worked out in words: first the power of two is cut off at the largest word, and then its
product with the delay.  It is **what comes of unbounded numbers when the product is cut off in the
end** (`Retry.delayAfter_eq_waitAfter`), since a power that is cut off is multiplied by nothing, or
by something that leaves the product beyond the words.  So waits grow with the attempt and with the
delay.

Attempts are counted from one, and no further than the link may make (`Trying.within`), so the
number of the next one is a word too (`Chronicle.backoff_in_words`).
-/

namespace RemoteScreen

/-! ## Waits -/

namespace Retry

/-- The wait after an attempt, counted from one, worked out without a bound and cut off in the
end. -/
def waitAfter (r : Retry) (attempt : Nat) : Nat :=
  match r.backoff with
  | .linear => r.delay
  | .exponential => min (r.delay * 2 ^ (max attempt 1 - 1)) (2 ^ 64 - 1)

/-- **A wait is what it would be with unbounded numbers**, up to the largest word. -/
theorem delayAfter_eq_waitAfter (r : Retry) (attempt : Nat) :
    r.delayAfter attempt = r.waitAfter attempt := by
  obtain ⟨n, d, backoff⟩ := r
  cases backoff with
  | linear => rfl
  | exponential =>
    have hexponent : max attempt 1 - 1 = attempt - 1 := by omega
    rw [delayAfter_eq, waitAfter, hexponent, Nat.shiftLeft_eq]
    rfl

/-- A delay still fits the counter it is kept in. -/
theorem delayAfter_lt (r : Retry) (hd : r.delay < 2 ^ 64) (attempt : Nat) :
    r.delayAfter attempt < 2 ^ 64 := by
  rw [delayAfter_eq_waitAfter]
  obtain ⟨n, d, backoff⟩ := r
  cases backoff with
  | linear => exact hd
  | exponential => exact Nat.lt_of_le_of_lt (Nat.min_le_right _ _) (by decide)

/-- Waits grow with the delay and with the attempt. -/
theorem delayAfter_mono {r r' : Retry} (hb : r.backoff = r'.backoff) (hd : r.delay ≤ r'.delay)
    {attempt attempt' : Nat} (ha : attempt ≤ attempt') :
    r.delayAfter attempt ≤ r'.delayAfter attempt' := by
  rw [delayAfter_eq_waitAfter, delayAfter_eq_waitAfter, waitAfter, waitAfter, ← hb]
  cases r.backoff with
  | linear => exact hd
  | exponential =>
    have hpow : 2 ^ (max attempt 1 - 1) ≤ 2 ^ (max attempt' 1 - 1) :=
      Nat.pow_le_pow_right (by decide) (by omega)
    have hmul := Nat.mul_le_mul hd hpow
    dsimp only
    omega

end Retry

/-! ## Attempts -/

/-- **The number is one of an attempt that an action may make**, and so a word if that many are. -/
structure Action.Admits (a : Action) (attempt : Nat) : Prop where
  pos : 1 ≤ attempt
  le : attempt ≤ max 1 ((a.retry.map Retry.maxAttempts).getD 1)
  word : (∀ r, a.retry = some r → r.maxAttempts < 2 ^ 32) → attempt < 2 ^ 32

/-- The attempts allowed are the maximum asked for, at least one, and one without retries. -/
theorem Action.attempts_eq (a : Action) :
    a.attempts = max 1 ((a.retry.map Retry.maxAttempts).getD 1) := by
  rw [attempts]
  cases a.retry with
  | none => rfl
  | some r => exact Nat.max_comm _ _

/-- An attempt within the maximum is one the action admits. -/
theorem Action.admits_of_le {a : Action} {attempt : Nat} (hpos : 1 ≤ attempt)
    (hle : attempt ≤ a.attempts) : a.Admits attempt := by
  rw [attempts_eq] at hle
  refine ⟨hpos, hle, fun hword => ?_⟩
  cases hr : a.retry with
  | none =>
    rw [hr] at hle
    simp at hle
    omega
  | some r =>
    have := hword r hr
    rw [hr] at hle
    simp at hle
    omega

/-- The attempt that an execution under way is at is one that its link may make, and while it waits
for the next one, so is that. -/
def Effort.Within (w : Option Effort) : Prop :=
  ∀ effort ∈ w, 1 ≤ effort.execution.attempt
    ∧ effort.execution.attempt ≤ effort.link.action.attempts
    ∧ (effort.due ≠ none → effort.execution.attempt < effort.link.action.attempts)

variable {σ : Type} {h : Host σ} {now : Nat}

/-- **A move makes no attempt beyond those that the link may make.** -/
theorem Trying.within {w w' : Option Effort} {runs runs' : Nat} {ds : List Deed}
    (tr : Trying now w w' runs runs' ds) (hw : Effort.Within w) : Effort.Within w' := by
  intro effort he
  cases tr with
  | apart hw' => exact hw effort (hw' ▸ he)
  | unknown _ _ hw' | ended _ _ _ _ hw' => simp [hw'] at he
  | begun d verb x _ hw' _ ha =>
    obtain rfl : _ = effort := by simpa [hw'] using he
    exact ⟨by simp [ha], ha ▸ d.action.attempts_pos, fun hdue => absurd rfl hdue⟩
  | paused d x err hw₀ hw' ha =>
    obtain rfl : _ = effort := by simpa [hw'] using he
    exact ⟨(hw ⟨d, x, none⟩ hw₀).1, Nat.le_of_lt ha, fun _ => ha⟩
  | retried d x err hw₀ hw' ha =>
    obtain rfl : _ = effort := by simpa [hw'] using he
    exact ⟨Nat.succ_pos _, ha, fun hdue => absurd rfl hdue⟩
  | again d x due hw₀ hw' =>
    obtain rfl : _ = effort := by simpa [hw'] using he
    have ha := (hw ⟨d, x, some due⟩ hw₀).2.2 (by simp)
    exact ⟨Nat.succ_pos _, ha, fun hdue => absurd rfl hdue⟩

/-- An attempt that a move calls the verb for is one that the link may make. -/
theorem Trying.admits {w w' : Option Effort} {runs runs' : Nat} {ds : List Deed}
    (tr : Trying now w w' runs runs' ds) (hw : Effort.Within w) {d : Dispatch} {x : Execution}
    (hx : .called d x ∈ ds) : d.action.Admits x.attempt := by
  cases tr with
  | apart _ _ hd => cases hd _ hx
  | unknown | paused | ended => simp at hx
  | begun d' verb x' _ _ _ ha =>
    obtain ⟨rfl, rfl⟩ : d = d' ∧ x = x' := by simpa using hx
    exact Action.admits_of_le (Nat.le_of_eq ha.symm) (ha ▸ d.action.attempts_pos)
  | retried d' x' err hw₀ _ ha =>
    obtain ⟨rfl, rfl⟩ : d = d' ∧ x = x'.next := by simpa using hx
    exact Action.admits_of_le (Nat.succ_pos _) ha
  | again d' x' due hw₀ =>
    obtain ⟨rfl, rfl⟩ : d = d' ∧ x = x'.next := by simpa using hx
    exact Action.admits_of_le (Nat.succ_pos _) ((hw ⟨d, x', some due⟩ hw₀).2.2 (by simp))

namespace Tower

variable {e : Engine σ} {n : Nat} {H : History h} {t : Tower σ}

/-- On the way of a flight every effort stays within what its action allows. -/
theorem Trail.within {ms : List (Moment h)} {s : Stage} (tr : Trail h ms s) :
    Effort.Within s.effort? := by
  induction tr with
  | launched d => exact fun _ he => (nomatch he)
  | @moved _ m _ ih => exact m.move.trying.within ih

/-- In a chronicle, a move starts where its flight has got to, so from an attempt within bounds. -/
theorem Chronicle.admits_called (c : Chronicle h (.start e n) H t) {i : Nat} {m : Moment h}
    (hm : .moved i m ∈ H) {d : Dispatch} {x : Execution} (hx : .called d x ∈ m.deeds) :
    d.action.Admits x.attempt := by
  obtain ⟨past, since, hH⟩ := List.append_of_mem hm
  obtain ⟨t₁, t₂, c₁, st, -⟩ := c.split hH
  exact m.move.trying.admits ((c₁.standing i).trail st.moment.2.1).within hx

/-- **Neither waits nor attempts wrap.**  A wait is what it would be with unbounded numbers, up to
the largest word, so it grows with the delay and with the attempt; and at every instant of whatever
happens to an engine and its flights, an attempt that is made is one that its link may make, and so
is the one that a link waits for. -/
theorem Chronicle.backoff_in_words (c : Chronicle h (.start e n) H t) :
    (∀ (r : Retry) (attempt : Nat), r.delayAfter attempt = r.waitAfter attempt
        ∧ (r.delay < 2 ^ 64 → r.delayAfter attempt < 2 ^ 64))
      ∧ (∀ (r r' : Retry) (attempt attempt' : Nat), r.backoff = r'.backoff → r.delay ≤ r'.delay →
        attempt ≤ attempt' → r.delayAfter attempt ≤ r'.delayAfter attempt')
      ∧ (∀ (i : Nat) (s : Stage) (w : Effort), t.stages[i]? = some (some s) → s.effort? = some w →
        w.link.action.Admits w.execution.attempt
          ∧ (w.due ≠ none → w.link.action.Admits w.execution.next.attempt))
      ∧ ∀ (i : Nat) (m : Moment h) (d : Dispatch) (x : Execution), .moved i m ∈ H →
        .called d x ∈ m.deeds → d.action.Admits x.attempt := by
  refine ⟨
    fun r attempt => ⟨r.delayAfter_eq_waitAfter attempt, fun hd => r.delayAfter_lt hd attempt⟩,
    fun r r' attempt attempt' hb hd ha => Retry.delayAfter_mono hb hd ha, fun i s w hi hw => ?_,
    fun i m d x hm hx => c.admits_called hm hx⟩
  obtain ⟨hpos, hle, hdue⟩ := ((c.standing i).trail hi).within w hw
  exact ⟨Action.admits_of_le hpos hle, fun hd => Action.admits_of_le (Nat.succ_pos _) (hdue hd)⟩

/-- Both attempts of the action that is lost are ones that it may make, and a wait that would be
beyond the words is the largest word. -/
theorem backoff_in_words_lost : ∃ (H : History Console.host) (t : Tower Store),
    Chronicle Console.host (.start listened 0) H t ∧ t.engine.metrics.retried = 1
      ∧ (∀ i m d x, .moved i m ∈ H → .called d x ∈ m.deeds → d.action.Admits x.attempt)
      ∧ Retry.delayAfter ⟨2, 3, .exponential⟩ 64 = 2 ^ 64 - 1
      ∧ Retry.delayAfter ⟨2, 3, .exponential⟩ 0 ≤ Retry.delayAfter ⟨2, 3, .exponential⟩ 64 := by
  obtain ⟨ds, e', r, -, -, hretried⟩ := run_lost
  have c₀ : Chronicle Console.host (.start listened 0) []
      ⟨listened, [some (.resting (.ofDispatch lost))], 0, none⟩ :=
    .tail .refl (.launch lost rfl)
  obtain ⟨H, -, c⟩ := Run.turn (C := Chronicle Console.host _) (i := 0)
    (fun c st => c.tail st) (fun c st _ => by simpa using c.tail st) r rfl (.inl rfl) rfl c₀
  obtain ⟨hwait, hmono, -, hcalled⟩ := c.backoff_in_words
  exact ⟨H, _, c, hretried, hcalled, (hwait ⟨2, 3, .exponential⟩ 64).1,
    hmono _ _ 0 64 rfl (Nat.le_refl 3) (Nat.zero_le 64)⟩

end Tower

end RemoteScreen
