import RemoteScreen.Json.Basic

/-!
# Condition/Basic — the condition language

A condition names an operator and what it works on: a path, an operand, nested conditions.  The
operator is kept as written, since names that are not operators are allowed.
-/

namespace RemoteScreen

/-- What a condition can ask. -/
inductive Operator where
  | equals | notEquals
  | greaterThan | lessThan | greaterThanOrEqual | lessThanOrEqual
  | contains | startsWith | endsWith
  | exists | empty | regex | in
  | and | or | not
  deriving DecidableEq, Repr

namespace Operator

/-- How an operator is written. -/
def name : Operator → String
  | equals => "equals"
  | notEquals => "notEquals"
  | greaterThan => "greaterThan"
  | lessThan => "lessThan"
  | greaterThanOrEqual => "greaterThanOrEqual"
  | lessThanOrEqual => "lessThanOrEqual"
  | contains => "contains"
  | startsWith => "startsWith"
  | endsWith => "endsWith"
  | «exists» => "exists"
  | empty => "empty"
  | regex => "regex"
  | «in» => "in"
  | and => "and"
  | or => "or"
  | not => "not"

/-- All operators. -/
def all : List Operator :=
  [equals, notEquals, greaterThan, lessThan, greaterThanOrEqual, lessThanOrEqual, contains,
   startsWith, endsWith, «exists», empty, regex, «in», and, or, not]

/-- The operator of a name. -/
def ofName? (s : String) : Option Operator := all.find? (·.name == s)

end Operator

/-- A condition on the data of a screen. -/
structure Condition where
  operator : String
  field : Option String := none
  value : Option Json := none
  conditions : List Condition := []
  deriving Inhabited

namespace Condition

/-- A bare operator. -/
def new (op : Operator) : Condition := { operator := op.name }

/-- The value at a path compared with an operand. -/
def compare (op : Operator) (field : String) (value : Json) : Condition :=
  { operator := op.name, field := some field, value := some value }

/-- Conditions put together. -/
def composite (op : Operator) (conditions : List Condition) : Condition :=
  { operator := op.name, conditions }

mutual

/-- Decides equality of conditions. -/
def decEq : (a b : Condition) → Decidable (a = b)
  | ⟨o, f, v, cs⟩, ⟨o', f', v', cs'⟩ =>
    if h : o = o' ∧ f = f' ∧ v = v' then
      match decEqAll cs cs' with
      | isTrue hc => isTrue (by obtain ⟨rfl, rfl, rfl⟩ := h; rw [hc])
      | isFalse hc => isFalse fun e => hc (Condition.mk.inj e).2.2.2
    else isFalse fun e =>
      h ⟨(Condition.mk.inj e).1, (Condition.mk.inj e).2.1, (Condition.mk.inj e).2.2.1⟩

/-- Decides equality of lists of conditions. -/
def decEqAll : (xs ys : List Condition) → Decidable (xs = ys)
  | [], [] => isTrue rfl
  | [], _ :: _ => isFalse nofun
  | _ :: _, [] => isFalse nofun
  | x :: xs, y :: ys =>
    match decEq x y, decEqAll xs ys with
    | isTrue h, isTrue k => isTrue (h ▸ k ▸ rfl)
    | isFalse h, _ => isFalse fun e => h (List.cons.inj e).1
    | _, isFalse k => isFalse fun e => k (List.cons.inj e).2

end

instance : DecidableEq Condition := decEq

mutual

/-- Equal as data. -/
def same : Condition → Condition → Bool
  | ⟨o, f, v, cs⟩, ⟨o', f', v', cs'⟩ =>
    o == o' && f == f' && sameOption Json.same v v' && sameAll cs cs'

/-- Equal as data, one by one. -/
def sameAll : List Condition → List Condition → Bool
  | [], [] => true
  | x :: xs, y :: ys => same x y && sameAll xs ys
  | _, _ => false

end

end Condition

end RemoteScreen
