import RemoteScreen.Condition.Basic
import RemoteScreen.Json.Printer

/-!
# Action/Basic — actions, and what makes two of them duplicates

An action names a verb and says what to run it on, under which condition, how often, and what to do
when it fails.  Times are whole milliseconds.

* `Retry.delayAfter_eq` — **the wait before the next attempt is the delay, or the delay doubled
  with every attempt, cut off at the largest word**;
* `Action.identity` — the text by which duplicates in flight are told.
-/

namespace RemoteScreen

/-- The largest unsigned 64-bit number. -/
def wordMax : Nat := 0xFFFFFFFFFFFFFFFF

/-- How the wait grows from attempt to attempt. -/
inductive Backoff where
  | linear
  | exponential
  deriving DecidableEq, Repr

/-- How to go about an action that fails. -/
structure Retry where
  maxAttempts : Nat := 1
  delay : Nat := 1000
  backoff : Backoff := .linear
  deriving DecidableEq

namespace Retry

/-- The power of two, cut off at the largest word. -/
def doubled (n : Nat) : Nat := if n < 64 then 1 <<< n else wordMax

/-- The wait between an attempt, counted from one, and the next. -/
def delayAfter (r : Retry) (attempt : Nat) : Nat :=
  match r.backoff with
  | .linear => r.delay
  | .exponential => min (r.delay * doubled (attempt - 1)) wordMax

/-- Doubling again and again is a shift that stops at the largest word. -/
theorem doubled_eq (n : Nat) : doubled n = min (1 <<< n) wordMax := by
  rw [doubled, Nat.one_shiftLeft]
  split
  · next h =>
    have : 2 ^ n ≤ 2 ^ 63 := Nat.pow_le_pow_right (by omega) (by omega)
    simp only [wordMax]
    omega
  · next h =>
    have : 2 ^ 64 ≤ 2 ^ n := Nat.pow_le_pow_right (by omega) (by omega)
    simp only [wordMax]
    omega

theorem mul_min_wordMax (d m : Nat) :
    min (d * min m wordMax) wordMax = min (d * m) wordMax := by
  rcases Nat.eq_zero_or_pos d with rfl | hd
  · simp
  · rcases Nat.le_total m wordMax with h | h
    · rw [Nat.min_eq_left h]
    · rw [Nat.min_eq_right h]
      have h₁ : wordMax ≤ d * wordMax := Nat.le_mul_of_pos_left _ hd
      have h₂ : d * wordMax ≤ d * m := Nat.mul_le_mul_left d h
      omega

/-- The exponential delay is the first one shifted by the attempts since, up to the largest word. -/
theorem delayAfter_eq (n d a : Nat) :
    delayAfter ⟨n, d, .exponential⟩ a = min (d <<< (a - 1)) wordMax := by
  rw [Nat.shiftLeft_eq, ← Nat.one_shiftLeft]
  simp only [delayAfter, doubled_eq, mul_min_wordMax]

end Retry

/-- What to report of an action that succeeds. -/
structure Analytics where
  event : String
  properties : Fields := []
  trackPerformance : Bool := false

/-- A unit of work that an event asks for. -/
structure Action where
  type : String
  payload : Fields := []
  condition : Option Condition := none
  throttle : Option Nat := none
  debounce : Option Nat := none
  retry : Option Retry := none
  fallback : Option Action := none
  analytics : Option Analytics := none
  componentId : Option String := none
  deriving Inhabited

namespace Analytics

/-- Equal as data. -/
def same (a b : Analytics) : Bool :=
  a.event == b.event && Json.sameFields a.properties b.properties
    && a.trackPerformance == b.trackPerformance

end Analytics

namespace Action

/-- An action of a type, with nothing else said. -/
def new (type : String) : Action := { type }

/-- The action on the members of an object; anything else is no payload. -/
def withPayload (a : Action) : Json → Action
  | .obj fields => { a with payload := fields }
  | _ => a

/-- The action of a component. -/
def withComponent (a : Action) (id : String) : Action := { a with componentId := some id }

/-- The text by which duplicates in flight are told: type, payload and component. -/
def identity (a : Action) : String :=
  a.type ++ "|" ++ (Json.obj a.payload).text ++ "|" ++ a.componentId.getD ""

/-- How often the action is tried, at least once. -/
def attempts (a : Action) : Nat :=
  match a.retry with
  | some r => max r.maxAttempts 1
  | none => 1

/-- The wait after a failed attempt. -/
def delayAfter (a : Action) (attempt : Nat) : Nat :=
  match a.retry with
  | some r => r.delayAfter attempt
  | none => 0

/-- The action with the component of another one, unless it has its own. -/
def inheritComponent (a : Action) (id : Option String) : Action :=
  match a.componentId with
  | some _ => a
  | none => { a with componentId := id }

/-- The action and the chain of those that stand in for it. -/
def chain : Action → List Action
  | a@⟨_, _, _, _, _, _, none, _, _⟩ => [a]
  | a@⟨_, _, _, _, _, _, some next, _, _⟩ => a :: chain next

/-- Equal as data. -/
def same : Action → Action → Bool
  | ⟨t, p, c, th, d, r, f, an, i⟩, ⟨t', p', c', th', d', r', f', an', i'⟩ =>
    t == t' && Json.sameFields p p' && sameOption Condition.same c c' && th == th' && d == d'
      && r == r'
      && (match f, f' with
        | none, none => true
        | some a, some b => same a b
        | _, _ => false)
      && sameOption Analytics.same an an' && i == i'

end Action

end RemoteScreen
