import RemoteScreen.Keyed
import RemoteScreen.Number.Binary64

/-!
# Json/Basic — JSON values

A value's number is either an integer or a number of the binary format; `1` and `1.0` are different
values.  An object is a list of members **in key order**, which every operation of `Keyed` keeps.

Two equalities matter.  `=` is equality of written texts.  `same` is equality as data: it differs
only in taking the two floating zeros for one.
-/

namespace RemoteScreen

/-- A number of a JSON value: an integer, or a number of the binary format. -/
inductive Number where
  | int (value : Int)
  | real (value : Binary64)
  deriving DecidableEq, Inhabited

namespace Number

/-- Equal as data: of one form, and of one value. -/
def same : Number → Number → Bool
  | int i, int j => i == j
  | real x, real y => x.sameValue y
  | _, _ => false

/-- The nearest number of the binary format; none for an integer beyond all of them. -/
def toBinary64? : Number → Option Binary64
  | int i => Binary64.ofInt? i
  | real x => some x

@[simp] theorem same_self (n : Number) : n.same n = true := by cases n <;> simp [same]

end Number

/-- A JSON value. -/
inductive Json where
  | null
  | bool (value : Bool)
  | num (value : Number)
  | str (value : String)
  | arr (items : List Json)
  | obj (fields : List (String × Json))
  deriving Inhabited

/-- The members of an object, in key order. -/
abbrev Fields := Keyed Json

namespace Json

/-- The value that stands for a natural number. -/
def ofNat (n : Nat) : Json := num (.int n)

mutual

/-- Decides equality of values. -/
def decEq : (a b : Json) → Decidable (a = b)
  | null, b => by cases b <;> first | exact isTrue rfl | exact isFalse nofun
  | bool x, b => by
    cases b
    case bool y => exact if h : x = y then isTrue (h ▸ rfl) else isFalse fun e => h (bool.inj e)
    all_goals exact isFalse nofun
  | num x, b => by
    cases b
    case num y => exact if h : x = y then isTrue (h ▸ rfl) else isFalse fun e => h (num.inj e)
    all_goals exact isFalse nofun
  | str x, b => by
    cases b
    case str y => exact if h : x = y then isTrue (h ▸ rfl) else isFalse fun e => h (str.inj e)
    all_goals exact isFalse nofun
  | arr xs, b => by
    cases b
    case arr ys =>
      exact match decEqItems xs ys with
        | isTrue h => isTrue (h ▸ rfl)
        | isFalse h => isFalse fun e => h (arr.inj e)
    all_goals exact isFalse nofun
  | obj xs, b => by
    cases b
    case obj ys =>
      exact match decEqFields xs ys with
        | isTrue h => isTrue (h ▸ rfl)
        | isFalse h => isFalse fun e => h (obj.inj e)
    all_goals exact isFalse nofun

/-- Decides equality of lists of values. -/
def decEqItems : (xs ys : List Json) → Decidable (xs = ys)
  | [], [] => isTrue rfl
  | [], _ :: _ => isFalse nofun
  | _ :: _, [] => isFalse nofun
  | x :: xs, y :: ys =>
    match decEq x y, decEqItems xs ys with
    | isTrue h, isTrue k => isTrue (h ▸ k ▸ rfl)
    | isFalse h, _ => isFalse fun e => h (List.cons.inj e).1
    | _, isFalse k => isFalse fun e => k (List.cons.inj e).2

/-- Decides equality of lists of members. -/
def decEqFields : (xs ys : List (String × Json)) → Decidable (xs = ys)
  | [], [] => isTrue rfl
  | [], _ :: _ => isFalse nofun
  | _ :: _, [] => isFalse nofun
  | (k, x) :: xs, (l, y) :: ys =>
    if hk : k = l then
      match decEq x y, decEqFields xs ys with
      | isTrue h, isTrue t => isTrue (hk ▸ h ▸ t ▸ rfl)
      | isFalse h, _ => isFalse fun e => h (Prod.mk.inj (List.cons.inj e).1).2
      | _, isFalse t => isFalse fun e => t (List.cons.inj e).2
    else isFalse fun e => hk (Prod.mk.inj (List.cons.inj e).1).1

end

instance : DecidableEq Json := decEq

mutual

/-- Equal as data. -/
def same : Json → Json → Bool
  | null, null => true
  | bool x, bool y => x == y
  | num x, num y => x.same y
  | str x, str y => x == y
  | arr xs, arr ys => sameItems xs ys
  | obj xs, obj ys => sameFields xs ys
  | _, _ => false

/-- Equal as data, item by item. -/
def sameItems : List Json → List Json → Bool
  | [], [] => true
  | x :: xs, y :: ys => same x y && sameItems xs ys
  | _, _ => false

/-- Equal as data, member by member. -/
def sameFields : List (String × Json) → List (String × Json) → Bool
  | [], [] => true
  | (k, x) :: xs, (l, y) :: ys => k == l && same x y && sameFields xs ys
  | _, _ => false

end

mutual

/-- Every value is the same as itself. -/
@[simp] theorem same_self : (a : Json) → same a a = true
  | null => rfl
  | bool _ => by simp [same]
  | num _ => by simp [same]
  | str _ => by simp [same]
  | arr xs => by simp [same, sameItems_self xs]
  | obj xs => by simp [same, sameFields_self xs]

@[simp] theorem sameItems_self : (xs : List Json) → sameItems xs xs = true
  | [] => rfl
  | x :: xs => by simp [sameItems, same_self x, sameItems_self xs]

@[simp] theorem sameFields_self : (xs : List (String × Json)) → sameFields xs xs = true
  | [] => rfl
  | (_, x) :: xs => by simp [sameFields, same_self x, sameFields_self xs]

end

/-- The text of a string value. -/
def str? : Json → Option String
  | str s => some s
  | _ => none

/-- The truth value of a Boolean. -/
def bool? : Json → Option Bool
  | bool b => some b
  | _ => none

/-- The least integer past the unsigned 64-bit ones. -/
def natLimit : Nat := 0x10000000000000000

/-- The value of an integer from zero to the largest unsigned 64-bit one. -/
def nat? : Json → Option Nat
  | num (.int i) => if 0 ≤ i ∧ i < (natLimit : Int) then some i.toNat else none
  | _ => none

/-- The members of an object. -/
def fields? : Json → Option Fields
  | obj fs => some fs
  | _ => none

/-- The value is null. -/
def isNull : Json → Bool
  | null => true
  | _ => false

end Json

/-- Lifts an equality test to values that may be absent. -/
def sameOption {α : Type} (same : α → α → Bool) : Option α → Option α → Bool
  | none, none => true
  | some a, some b => same a b
  | _, _ => false

end RemoteScreen
