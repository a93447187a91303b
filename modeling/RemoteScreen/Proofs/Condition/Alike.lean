import RemoteScreen.Condition.Eval
import RemoteScreen.Proofs.Node.Alike
import RemoteScreen.Proofs.Node.Numbers

/-!
# Proofs/Condition/Alike — what conditions say that are equal as data

An operand is compared by its value, and the two floating zeros have one.  Only where a text is
searched for the text of an operand do they differ: `0.0` is found in `10.05`, and `-0.0` is not.
So **conditions that are equal as data say the same, or fail alike, if they spell out the same
numbers** (`test_alike`).
-/

namespace RemoteScreen

open Number (Alike)

/-- An operator that may search a text for the text of its operand. -/
def Operator.spells : Operator → Bool
  | contains | startsWith | endsWith => true
  | _ => false

namespace Condition

/-! ## One operator -/

section OneOperator

variable {v w : Json}

/-- Numbers compare by the keys of their binary values. -/
theorem sameNumber_eq (m n : Number) :
    sameNumber m n = (m.toBinary64?.map Binary64.key == n.toBinary64?.map Binary64.key) := by
  rw [sameNumber]
  cases m.toBinary64? <;> cases n.toBinary64? <;> rfl

/-- The same number has the same key, zero with either sign included. -/
theorem key_toBinary64? {m n : Number} (h : m.same n = true) :
    m.toBinary64?.map Binary64.key = n.toBinary64?.map Binary64.key := by
  match m, n with
  | .int i, .int j => rw [eq_of_beq h]
  | .real x, .real y => exact congrArg some (eq_of_beq h)

/-- Loose equality does not tell the same operands apart. -/
theorem looseEq_alike (h : v.same w = true) (a : Option Json) :
    looseEq a (some v) = looseEq a (some w) := by
  have hnull : isNullish (some v) = isNullish (some w) := by
    cases v <;> cases w <;> first | rfl | cases h
  rw [looseEq.eq_def, looseEq.eq_def, hnull]
  split
  · rfl
  · cases a with
    | none => rfl
    | some x =>
      match x, v, w with
      | .num k, .num m, .num n => simp only [sameNumber_eq, key_toBinary64? h]
      | .num k, .null, w | .num k, .bool _, w | .num k, .str _, w | .num k, .arr _, w
      | .num k, .obj _, w => cases w <;> first | rfl | cases h
      | .null, v, w | .bool _, v, w | .str _, v, w | .arr _, v, w | .obj _, v, w =>
        exact Json.same_congr h _

theorem any_looseEq_alike {xs ys : List Json} (h : Json.sameItems xs ys = true)
    (a : Option Json) :
    xs.any (fun x => looseEq a (some x)) = ys.any fun y => looseEq a (some y) := by
  induction xs generalizing ys with
  | nil =>
    cases ys with
    | nil => rfl
    | cons y ys => cases h
  | cons x xs ih =>
    cases ys with
    | nil => cases h
    | cons y ys =>
      rw [Json.sameItems, Bool.and_eq_true] at h
      rw [List.any_cons, List.any_cons, looseEq_alike h.1, ih h.2]

/-- What is no text is ordered by where its number is on the line. -/
theorem order?_eq_bind (hv : v.str? = none) (a : Option Json) :
    order? a (some v) = a.bind fun x => ((numeral? x).bind Numeral.key?).bind fun i =>
      ((numeral? v).bind Numeral.key?).map (Ord.compare i) := by
  cases a with
  | none => cases v <;> rfl
  | some x =>
    have horder : order? (some x) (some v)
        = (numeral? x).bind fun m => (numeral? v).bind (Numeral.compare? m) := by
      cases v with
      | str s => cases hv
      | _ => cases x <;> rfl
    rw [horder, Option.bind_some]
    cases numeral? x with
    | none => rfl
    | some m =>
      cases numeral? v with
      | none => cases hm : m.key? <;> simp [hm]
      | some n => cases hm : m.key? <;> cases hn : n.key? <;> simp [Numeral.compare?, hm, hn]

/-- Equal values have one place on the line. -/
theorem key_numeral? (h : v.same w = true) :
    (numeral? v).bind Numeral.key? = (numeral? w).bind Numeral.key? := by
  have hkey (n : Number) :
      (numeral? (.num n)).bind Numeral.key? = n.toBinary64?.map Binary64.key := by
    rw [numeral?]
    cases n.toBinary64? <;> rfl
  cases v <;> cases w <;> first
    | rfl
    | cases h
    | rw [eq_of_beq h]
    | rw [hkey, hkey, key_toBinary64? h]

theorem order?_alike (h : v.same w = true) (a : Option Json) :
    order? a (some v) = order? a (some w) := by
  cases v with
  | str s =>
    cases w with
    | str t => rw [eq_of_beq h]
    | _ => cases h
  | _ =>
    have hw : w.str? = none := by cases w <;> first | rfl | cases h
    rw [order?_eq_bind (by rfl), order?_eq_bind hw, key_numeral? h]

/-- What is no text is no pattern. -/
theorem testValue_regex (hv : v.str? = none) (field : Option Json)
    (patterns : Patterns) :
    testValue .regex field (some v) patterns
      = .error (.typeMismatch .regex "a string pattern") := by
  cases v with
  | str s => cases hv
  | _ =>
    cases field with
    | none => rfl
    | some f => cases f <;> rfl

/-- **An operator says the same of operands that are equal as data**, if it does not spell them
out, or they are equal. -/
theorem testValue_alike {op : Operator} {value value' : Option Json}
    (h : sameOption Json.same value value' = true) (hs : op.spells = true → value = value')
    (field : Option Json) (patterns : Patterns) :
    testValue op field value patterns = testValue op field value' patterns := by
  match value, value' with
  | none, none => rfl
  | some v, some w =>
    cases op with
    | contains | startsWith | endsWith => rw [hs rfl]
    | equals | notEquals => simp only [testValue, looseEq_alike h]
    | greaterThan | lessThan | greaterThanOrEqual | lessThanOrEqual =>
      simp only [testValue, order?_alike h]
    | «exists» | empty | and | or | not => rfl
    | regex =>
      match v, w with
      | .str s, .str t => rw [eq_of_beq h]
      | .null, .null | .bool _, .bool _ | .num _, .num _ | .arr _, .arr _ | .obj _, .obj _ =>
        exact (testValue_regex (by rfl) _ _).trans (testValue_regex (by rfl) _ _).symm
    | «in» =>
      match v, w with
      | .arr xs, .arr ys => simp only [testValue, any_looseEq_alike h]
      | .null, .null | .bool _, .bool _ | .num _, .num _ | .str _, .str _ | .obj _, .obj _ => rfl

end OneOperator

/-! ## Whole conditions -/

/-- The numbers in an operand that its operator may spell out. -/
def spelledOperand (operator : String) (value : Option Json) : List Number :=
  if (Operator.ofName? operator).any Operator.spells then optionNumbers Json.numbers value else []

mutual

/-- The numbers in the operands of a condition that may be spelled out. -/
def spelled : Condition → List Number
  | ⟨operator, _, value, conditions⟩ => spelledOperand operator value ++ spelledAll conditions

/-- The numbers in the operands of some conditions that may be spelled out. -/
def spelledAll : List Condition → List Number
  | [] => []
  | c :: cs => spelled c ++ spelledAll cs

end

/-- What is spelled of the same operands is alike. -/
theorem spelledOperand_alike (operator : String) {value value' : Option Json}
    (h : sameOption Json.same value value' = true) :
    Alike (spelledOperand operator value) (spelledOperand operator value') := by
  rw [spelledOperand, spelledOperand]
  split
  · exact optionNumbers_alike Json.numbers_alike h
  · exact .nil

mutual

/-- **The same conditions spell alike numbers.** -/
theorem spelled_alike : (c d : Condition) → c.same d = true → Alike c.spelled d.spelled
  | ⟨operator, _, value, cs⟩, ⟨operator', _, value', ds⟩, h => by
    simp only [same, Bool.and_eq_true, beq_iff_eq] at h
    obtain ⟨⟨⟨rfl, -⟩, hvalue⟩, hparts⟩ := h
    exact (spelledOperand_alike operator hvalue).append (spelledAll_alike cs ds hparts)

theorem spelledAll_alike : (cs ds : List Condition) → sameAll cs ds = true →
    Alike (spelledAll cs) (spelledAll ds)
  | [], [], _ => .nil
  | c :: cs, d :: ds, h => by
    simp only [sameAll, Bool.and_eq_true] at h
    exact (spelled_alike c d h.1).append (spelledAll_alike cs ds h.2)

end

/-- Operands are equal where the same numbers are spelled out. -/
theorem eq_of_spells {operator : String} {op : Operator} {value value' : Option Json}
    (hop : Operator.ofName? operator = some op) (h : sameOption Json.same value value' = true)
    (heq : spelledOperand operator value = spelledOperand operator value')
    (hs : op.spells = true) : value = value' := by
  rw [spelledOperand, spelledOperand, hop, Option.any_some, if_pos hs, if_pos hs] at heq
  match value, value' with
  | none, none => rfl
  | some v, some w => rw [Json.eq_of_numbers v w h (by simpa [optionNumbers] using heq)]

variable {patterns : Patterns} {context : Json}

mutual

/-- **Conditions that are equal as data say the same**, if they spell out the same numbers, and fail
alike. -/
theorem test_alike : (c d : Condition) → c.same d = true → c.spelled = d.spelled →
    c.test patterns context = d.test patterns context
  | ⟨operator, field, value, []⟩, ⟨operator', field', value', []⟩, h, heq => by
    simp only [same, Bool.and_eq_true, beq_iff_eq] at h
    obtain ⟨⟨⟨rfl, rfl⟩, hvalue⟩, -⟩ := h
    have hspelled := ((spelledOperand_alike operator hvalue).append_inj heq).1
    rw [test, test]
    cases hop : Operator.ofName? operator with
    | none => rfl
    | some op =>
      have htest := testValue_alike hvalue (eq_of_spells hop hvalue hspelled)
        (fieldValue context field) patterns
      cases op <;> first | rfl | exact htest
  | ⟨_, _, _, []⟩, ⟨_, _, _, _ :: _⟩, h, _ | ⟨_, _, _, _ :: _⟩, ⟨_, _, _, []⟩, h, _ => by
    simp [same, sameAll] at h
  | ⟨operator, field, value, first :: rest⟩, ⟨operator', field', value', first' :: rest'⟩, h,
      heq => by
    simp only [same, Bool.and_eq_true, beq_iff_eq] at h
    obtain ⟨⟨⟨rfl, rfl⟩, hvalue⟩, hparts⟩ := h
    obtain ⟨hspelled, hspelledAll⟩ := (spelledOperand_alike operator hvalue).append_inj heq
    have hfirst : first.test patterns context = first'.test patterns context := by
      simp only [sameAll, Bool.and_eq_true] at hparts
      exact test_alike first first' hparts.1
        ((spelled_alike first first' hparts.1).append_inj hspelledAll).1
    have hall := testAll_alike (first :: rest) (first' :: rest') hparts hspelledAll
    have hany := testAny_alike (first :: rest) (first' :: rest') hparts hspelledAll
    rw [test, test, hall, hany]
    cases hop : Operator.ofName? operator with
    | none => rfl
    | some op =>
      have htest := testValue_alike hvalue (eq_of_spells hop hvalue hspelled)
        (fieldValue context field) patterns
      cases op with
      | and | or => rfl
      | not => exact congrArg (·.map (!·)) hfirst
      | _ => exact htest

/-- Conjunctions of the same conditions, spelled the same, have the same answer. -/
theorem testAll_alike : (cs ds : List Condition) → sameAll cs ds = true →
    spelledAll cs = spelledAll ds → testAll patterns context cs = testAll patterns context ds
  | [], [], _, _ => rfl
  | c :: cs, d :: ds, h, heq => by
    simp only [sameAll, Bool.and_eq_true] at h
    obtain ⟨hc, hcs⟩ := (spelled_alike c d h.1).append_inj heq
    rw [testAll, testAll, test_alike c d h.1 hc, testAll_alike cs ds h.2 hcs]

/-- And so have disjunctions. -/
theorem testAny_alike : (cs ds : List Condition) → sameAll cs ds = true →
    spelledAll cs = spelledAll ds → testAny patterns context cs = testAny patterns context ds
  | [], [], _, _ => rfl
  | c :: cs, d :: ds, h, heq => by
    simp only [sameAll, Bool.and_eq_true] at h
    obtain ⟨hc, hcs⟩ := (spelled_alike c d h.1).append_inj heq
    rw [testAny, testAny, test_alike c d h.1 hc, testAny_alike cs ds h.2 hcs]

end

/-- **The same conditions hold alike if they spell their numbers alike.** -/
theorem holds_alike {c d : Condition} (h : c.same d = true) (heq : c.spelled = d.spelled) :
    c.holds patterns context = d.holds patterns context := by
  rw [holds, holds, test_alike c d h heq]

end Condition

end RemoteScreen
