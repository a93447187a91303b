import RemoteScreen.Condition.Basic
import RemoteScreen.Number.Decimal
import RemoteScreen.Path
import RemoteScreen.Json.Printer
import RemoteScreen.Pattern.Basic
import RemoteScreen.Pattern.Cache

/-!
# Condition/Eval — what a condition says about a context

* `Condition.test` — the answer, or why there is none; an unknown operator holds;
* `Condition.holds` — the answer, where none counts as no;
* `Condition.testCached` — the same with compiled patterns kept in a cache.

What patterns compile to is taken as it is given.

Composite conditions look at their parts from the left, all of them, and stop only where one has no
answer.  A choice or a conjunction of no parts does not hold.
-/

namespace RemoteScreen

/-- Why a condition has no answer. -/
inductive EvalError where
  | invalidPattern (pattern message : String)
  | typeMismatch (operator : Operator) (expected : String)
  | missingOperand (operator : Operator)
  deriving DecidableEq

/-- The wording of why there is no answer. -/
def EvalError.message : EvalError → String
  | invalidPattern p m => "Invalid regex '" ++ p ++ "': " ++ m
  | typeMismatch op expected => "Operator '" ++ op.name ++ "' expects " ++ expected
  | missingOperand op => "Operator '" ++ op.name ++ "' needs at least one nested condition"

namespace Condition

/-- Nothing there, or null. -/
def isNullish : Option Json → Bool
  | none | some .null => true
  | some _ => false

/-- Nothing there, or nothing in it. -/
def isEmptyValue : Option Json → Bool
  | none | some .null => true
  | some (.str s) => s.isEmpty
  | some (.arr items) => items.isEmpty
  | some (.obj fields) => fields.isEmpty
  | some _ => false

/-- Numbers are equal by value whatever their form. -/
def sameNumber (m n : Number) : Bool :=
  match m.toBinary64?, n.toBinary64? with
  | some x, some y => x.sameValue y
  | none, none => true
  | _, _ => false

/-- Equality of an operand and a value: numbers by value, nothing and null alike, all else as
data. -/
def looseEq (a b : Option Json) : Bool :=
  if isNullish a && isNullish b then true
  else
    match a, b with
    | some (.num m), some (.num n) => sameNumber m n
    | some x, some y => x.same y
    | _, _ => false

/-- The number a value can be ordered by. -/
def numeral? : Json → Option Numeral
  | .num n => n.toBinary64?.map .finite
  | .str s => Numeral.read? (Text.trim s.toList)
  | .bool b => (Binary64.ofInt? (if b then 1 else 0)).map .finite
  | _ => none

/-- The order of two values: strings by their characters, all else by number. -/
def order? (a b : Option Json) : Option Ordering :=
  match a, b with
  | some (.str s), some (.str t) =>
    some (if s < t then .lt else if s = t then .eq else .gt)
  | some x, some y => do Numeral.compare? (← numeral? x) (← numeral? y)
  | _, _ => none

/-- One text stands somewhere in another. -/
def isInfix (part : List Char) : List Char → Bool
  | [] => part.isEmpty
  | c :: cs => part.isPrefixOf (c :: cs) || isInfix part cs

/-- The answer of an operator without nested conditions, given what its pattern compiles to. -/
def testValue (op : Operator) (field value : Option Json) (patterns : Patterns) :
    Except EvalError Bool :=
  let ordered (p : Ordering → Bool) : Except EvalError Bool := .ok ((order? field value).any p)
  match op with
  | .equals => .ok (looseEq field value)
  | .notEquals => .ok (!looseEq field value)
  | .greaterThan => ordered (·.isGT)
  | .lessThan => ordered (·.isLT)
  | .greaterThanOrEqual => ordered (·.isGE)
  | .lessThanOrEqual => ordered (·.isLE)
  | .contains =>
    match field, value with
    | some (.str s), some part => .ok (isInfix part.plainText.toList s.toList)
    | some (.arr items), part => .ok (items.any fun item => looseEq (some item) part)
    | _, _ => .ok false
  | .startsWith =>
    match field, value with
    | some (.str s), some part => .ok (part.plainText.toList.isPrefixOf s.toList)
    | _, _ => .ok false
  | .endsWith =>
    match field, value with
    | some (.str s), some part => .ok (part.plainText.toList.isSuffixOf s.toList)
    | _, _ => .ok false
  | .exists => .ok (!isNullish field)
  | .empty => .ok (isEmptyValue field)
  | .regex =>
    match field, value with
    | some (.str s), some (.str pattern) =>
      match patterns pattern with
      | .ok isMatch => .ok (isMatch s)
      | .error message => .error (.invalidPattern pattern message)
    | _, some (.str _) => .ok false
    | _, _ => .error (.typeMismatch .regex "a string pattern")
  | .in =>
    match value with
    | some (.arr candidates) =>
      .ok (field.isSome && candidates.any fun c => looseEq field (some c))
    | _ => .error (.typeMismatch .in "an array value")
  | .and | .or | .not => .ok false

/-- The value a condition looks at. -/
def fieldValue (context : Json) (field : Option String) : Option Json := field >>= context.resolve

mutual

/-- What a condition says about a context, or why it says nothing. -/
def test (patterns : Patterns) (context : Json) : Condition → Except EvalError Bool
  | ⟨operator, field, value, conditions⟩ =>
    match Operator.ofName? operator with
    | none => .ok true
    | some .and => if conditions.isEmpty then .ok false else testAll patterns context conditions
    | some .or => testAny patterns context conditions
    | some .not =>
      match conditions with
      | [] => .error (.missingOperand .not)
      | first :: _ => (test patterns context first).map (!·)
    | some op => testValue op (fieldValue context field) value patterns

/-- Whether all conditions hold. -/
def testAll (patterns : Patterns) (context : Json) : List Condition → Except EvalError Bool
  | [] => .ok true
  | c :: cs => do
    let b ← test patterns context c
    let rest ← testAll patterns context cs
    return b && rest

/-- Whether one of the conditions holds. -/
def testAny (patterns : Patterns) (context : Json) : List Condition → Except EvalError Bool
  | [] => .ok false
  | c :: cs => do
    let b ← test patterns context c
    let rest ← testAny patterns context cs
    return b || rest

end

/-- What a condition says about a context; no answer counts as no. -/
def holds (patterns : Patterns) (context : Json) (c : Condition) : Bool :=
  match c.test patterns context with
  | .ok b => b
  | .error _ => false

/-! ## With a cache of patterns -/

/-- The pattern that an operator will compile, if it gets that far. -/
def patternOf (op : Operator) (field value : Option Json) : Option String :=
  match op, field, value with
  | .regex, some (.str _), some (.str pattern) => some pattern
  | _, _, _ => none

mutual

/-- What a condition says about a context, with its patterns taken from a cache. -/
def testCached (patterns : Patterns) (context : Json) :
    Condition → Pattern.Cache → Except EvalError Bool × Pattern.Cache
  | ⟨operator, field, value, conditions⟩, cache =>
    match Operator.ofName? operator with
    | none => (.ok true, cache)
    | some .and =>
      if conditions.isEmpty then (.ok false, cache)
      else testAllCached patterns context conditions cache
    | some .or => testAnyCached patterns context conditions cache
    | some .not =>
      match conditions with
      | [] => (.error (.missingOperand .not), cache)
      | first :: _ =>
        let (b, cache) := testCached patterns context first cache
        (b.map (!·), cache)
    | some op =>
      let target := fieldValue context field
      match patternOf op target value with
      | none => (testValue op target value patterns, cache)
      | some pattern =>
        let (compiled, cache) := cache.fetch patterns pattern
        (testValue op target value fun _ => compiled, cache)

/-- Whether all conditions hold. -/
def testAllCached (patterns : Patterns) (context : Json) :
    List Condition → Pattern.Cache → Except EvalError Bool × Pattern.Cache
  | [], cache => (.ok true, cache)
  | c :: cs, cache =>
    match testCached patterns context c cache with
    | (.error e, cache) => (.error e, cache)
    | (.ok b, cache) =>
      let (rest, cache) := testAllCached patterns context cs cache
      (rest.map (b && ·), cache)

/-- Whether one of the conditions holds. -/
def testAnyCached (patterns : Patterns) (context : Json) :
    List Condition → Pattern.Cache → Except EvalError Bool × Pattern.Cache
  | [], cache => (.ok false, cache)
  | c :: cs, cache =>
    match testCached patterns context c cache with
    | (.error e, cache) => (.error e, cache)
    | (.ok b, cache) =>
      let (rest, cache) := testAnyCached patterns context cs cache
      (rest.map (b || ·), cache)

end

end Condition

end RemoteScreen
