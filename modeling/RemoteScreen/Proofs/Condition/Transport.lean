import RemoteScreen.Condition.Eval
import RemoteScreen.Library.Standard
import RemoteScreen.Proofs.Condition.Written

/-!
# Proofs/Condition/Transport — what conditions say after transport

An operand of null arrives as none.  No operator tells the two apart, except those that search a
text: null is then the word `null`, and nothing is found where nothing is looked for
(`testValue_null_iff`).  **Where no text is found to hold the word of an operand of null, a
condition says the same after transport** (`holds_decoded`).
-/

namespace RemoteScreen

/-- An operator that searches a text finds the word of null there. -/
def Operator.findsNull (s : String) : Operator → Bool
  | contains => Condition.isInfix "null".toList s.toList
  | startsWith => "null".toList.isPrefixOf s.toList
  | endsWith => "null".toList.isSuffixOf s.toList
  | _ => false

namespace Condition

section OneOperator

variable {field : Option Json} {patterns : Patterns}

theorem plainText_null : Json.null.plainText = "null" := rfl

/-- Null equals loosely just what an absent operand does. -/
theorem looseEq_null (a : Option Json) : looseEq a (some .null) = looseEq a none := by
  cases a with
  | none => rfl
  | some j => cases j <;> rfl

/-- Nothing compares with null. -/
theorem order?_null (a : Option Json) : order? a (some .null) = none := by
  cases a with
  | none => rfl
  | some j =>
    rw [order?]
    · cases numeral? j <;> rfl
    · nofun

theorem order?_none (a : Option Json) : order? a none = none := by
  cases a with
  | none => rfl
  | some j => cases j <;> rfl

/-- **An operand of null counts as none, but where its word is found in a text.** -/
theorem testValue_null_iff {op : Operator} :
    testValue op field (some .null) patterns = testValue op field none patterns
      ↔ (field.bind Json.str?).any op.findsNull = false := by
  cases op with
  | contains | startsWith | endsWith =>
    cases field with
    | none => exact ⟨fun _ => rfl, fun _ => rfl⟩
    | some j =>
      cases j <;>
        simp [testValue, Json.str?, Operator.findsNull, plainText_null, looseEq_null]
  | equals | notEquals | greaterThan | lessThan | greaterThanOrEqual | lessThanOrEqual =>
    simp [testValue, looseEq_null, order?_null, order?_none, Operator.findsNull]
  | «exists» | empty | regex | «in» | and | or | not =>
    simp [testValue, Operator.findsNull]

end OneOperator

mutual

/-- Somewhere in a condition a text is searched for an operand of null, and its word is found. -/
def findsNull (context : Json) : Condition → Bool
  | ⟨operator, field, value, conditions⟩ =>
    (value.any Json.isNull && (Operator.ofName? operator).any fun op =>
        ((fieldValue context field).bind Json.str?).any op.findsNull)
      || findsNullAny context conditions

/-- The same of one of some conditions. -/
def findsNullAny (context : Json) : List Condition → Bool
  | [] => false
  | c :: cs => findsNull context c || findsNullAny context cs

end

section Transported

variable {patterns : Patterns} {context : Json}

/-- A null operand may be dropped where its text is not found in the field. -/
theorem testValue_filter {operator : String} {op : Operator} {field : Option String}
    {value : Option Json} (patterns : Patterns)
    (hop : Operator.ofName? operator = some op)
    (h : (value.any Json.isNull && (Operator.ofName? operator).any fun op =>
        ((fieldValue context field).bind Json.str?).any op.findsNull) = false) :
    testValue op (fieldValue context field) (value.filter (!·.isNull)) patterns
      = testValue op (fieldValue context field) value patterns := by
  cases value with
  | none => rfl
  | some v =>
    rw [Option.filter_some]
    cases hv : v.isNull with
    | false => rfl
    | true =>
      obtain rfl : v = .null := by cases v <;> first | rfl | cases hv
      rw [hop] at h
      exact (testValue_null_iff.2 (by simpa [Json.isNull] using h)).symm

mutual

/-- **A condition that finds no null in a text is answered the same as what arrives of it**, and
fails alike. -/
theorem test_transported : (c : Condition) → c.findsNull context = false →
    c.transported.test patterns context = c.test patterns context
  | ⟨operator, field, value, []⟩, h => by
    rw [findsNull, Bool.or_eq_false_iff] at h
    rw [transported, transportedAll, test, test]
    cases hop : Operator.ofName? operator with
    | none => rfl
    | some op =>
      have hvalue := testValue_filter patterns hop h.1
      cases op <;> first | rfl | exact hvalue
  | ⟨operator, field, value, first :: rest⟩, h => by
    rw [findsNull, Bool.or_eq_false_iff] at h
    have hfirst : first.transported.test patterns context = first.test patterns context := by
      rw [findsNullAny, Bool.or_eq_false_iff] at h
      exact test_transported first h.2.1
    have hall := testAll_transported (first :: rest) h.2
    have hany := testAny_transported (first :: rest) h.2
    rw [transportedAll] at hall hany
    rw [transported, transportedAll, test, test, hall, hany]
    cases hop : Operator.ofName? operator with
    | none => rfl
    | some op =>
      have hvalue := testValue_filter patterns hop h.1
      cases op with
      | and | or => rfl
      | not => exact congrArg (·.map (!·)) hfirst
      | _ => exact hvalue

/-- A conjunction that finds no null tests the same after a transport. -/
theorem testAll_transported : (cs : List Condition) → findsNullAny context cs = false →
    testAll patterns context (transportedAll cs) = testAll patterns context cs
  | [], _ => rfl
  | c :: cs, h => by
    rw [findsNullAny, Bool.or_eq_false_iff] at h
    rw [transportedAll, testAll, testAll, test_transported c h.1, testAll_transported cs h.2]

/-- So does a disjunction. -/
theorem testAny_transported : (cs : List Condition) → findsNullAny context cs = false →
    testAny patterns context (transportedAll cs) = testAny patterns context cs
  | [], _ => rfl
  | c :: cs, h => by
    rw [findsNullAny, Bool.or_eq_false_iff] at h
    rw [transportedAll, testAny, testAny, test_transported c h.1, testAny_transported cs h.2]

end

/-- **A condition says the same after transport** wherever no text in it is searched for null and
found to hold the word. -/
theorem holds_decoded (patterns : Patterns) {c : Condition} (hc : c.Ordered)
    (h : c.findsNull context = false) :
    ∃ d, ofJson c.toJson = .ok d ∧ d.test patterns context = c.test patterns context
      ∧ d.holds patterns context = c.holds patterns context := by
  have htest : c.transported.test patterns context = c.test patterns context :=
    test_transported c h
  exact ⟨c.transported, decode_toJson hc, htest, by rw [holds, holds, htest]⟩

end Transported

theorem ordered_new (op : Operator) : (new op).Ordered := .mk nofun nofun

theorem ordered_compare (op : Operator) (field : String) {v : Json} (hv : v.Ordered) :
    (compare op field v).Ordered :=
  .mk (fun _ hw => Option.some.inj hw ▸ hv) nofun

theorem ordered_composite (op : Operator) {cs : List Condition} (h : ∀ c ∈ cs, c.Ordered) :
    (composite op cs).Ordered := .mk nofun h

/-- A note that is not there yet, begins with null, or is of some kind. -/
def noteworthy : Condition :=
  composite .or
    [composite .not [compare .notEquals "seen" .null], compare .startsWith "note" .null,
     compare .in "kind" (.arr [.null, .str "memo"]), new .exists]

/-- A search for the text of null in a string holds before a transport and after it. -/
theorem holds_decoded_noteworthy :
    noteworthy.Ordered ∧ noteworthy.findsNull (.obj [("note", .str "nil or null")]) = false
      ∧ ∃ d, ofJson noteworthy.toJson = .ok d
          ∧ d.holds Pattern.dialect (.obj [("note", .str "nil or null")]) = true := by
  have hord : noteworthy.Ordered := by
    refine ordered_composite _ fun c hc => ?_
    simp only [List.mem_cons, List.not_mem_nil, or_false] at hc
    rcases hc with rfl | rfl | rfl | rfl
    · refine ordered_composite _ fun c hc => ?_
      obtain rfl := List.mem_singleton.1 hc
      exact ordered_compare _ _ .null
    · exact ordered_compare _ _ .null
    · exact ordered_compare _ _ (.arr (by simp [Json.Ordered.null, Json.Ordered.str]))
    · exact ordered_new _
  have hfinds : noteworthy.findsNull (.obj [("note", .str "nil or null")]) = false := by
    decide +kernel
  obtain ⟨d, hd, -, hholds⟩ := holds_decoded Pattern.dialect hord hfinds
  exact ⟨hord, hfinds, d, hd, hholds.trans (by decide +kernel)⟩

/-- A text that holds the word of null is found before transport and not after it. -/
theorem not_held_after_transport :
    ∃ d, ofJson (compare .contains "note" .null).toJson = .ok d
      ∧ (compare .contains "note" .null).holds Pattern.dialect
        (.obj [("note", .str "null and void")]) = true
      ∧ d.holds Pattern.dialect (.obj [("note", .str "null and void")]) = false :=
  ⟨_, decode_toJson (ordered_compare _ _ .null), by decide +kernel, by decide +kernel⟩

end Condition

end RemoteScreen
