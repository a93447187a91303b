import RemoteScreen.Condition.Eval

/-!
# Proofs/Condition/Laws — composite conditions among each other

A composite condition asks all its parts, and one that has no answer leaves it without an answer: no
part is passed over because the others have decided.  So

* negation goes through conjunctions and choices, and two cancel out, **the reason included where
  there is no answer** (`boolean_laws`);
* the order of the parts decides at most **which reason is given** (`Reordered.same_answer`).
-/

namespace RemoteScreen

namespace Condition

variable {patterns : Patterns} {context : Json}

/-! ## Negation -/

/-- The negation of a condition. -/
def negation (c : Condition) : Condition := composite .not [c]

/-- A negation answers the opposite, and fails as its part does. -/
theorem test_negation (c : Condition) :
    (negation c).test patterns context = (c.test patterns context).map (!·) := by
  rw [negation, composite, test]
  rfl

/-- A conjunction with any parts says whether all of them hold. -/
theorem test_and {field : Option String} {value : Option Json} {parts : List Condition}
    (h : parts ≠ []) :
    test patterns context ⟨Operator.and.name, field, value, parts⟩
      = testAll patterns context parts := by
  cases parts with
  | nil => exact absurd rfl h
  | cons => rw [test]; rfl

/-- A disjunction tests its parts in turn. -/
theorem test_or (field : Option String) (value : Option Json) (parts : List Condition) :
    test patterns context ⟨Operator.or.name, field, value, parts⟩
      = testAny patterns context parts := by
  cases parts <;> rw [test] <;> rfl

/-- **One of the negations holds unless all of the conditions do**, and the first reason for having
no answer is the same. -/
theorem testAny_negations (parts : List Condition) :
    testAny patterns context (parts.map negation) = (testAll patterns context parts).map (!·) := by
  induction parts with
  | nil => rfl
  | cons c parts ih =>
    rw [List.map_cons, testAny, testAll, test_negation, ih]
    cases c.test patterns context with
    | error e => rfl
    | ok b =>
      cases testAll patterns context parts with
      | error e => rfl
      | ok rest => exact congrArg Except.ok (Bool.not_and b rest).symm

/-- **All of the negations hold unless one of the conditions does.** -/
theorem testAll_negations (parts : List Condition) :
    testAll patterns context (parts.map negation) = (testAny patterns context parts).map (!·) := by
  induction parts with
  | nil => rfl
  | cons c parts ih =>
    rw [List.map_cons, testAll, testAny, test_negation, ih]
    cases c.test patterns context with
    | error e => rfl
    | ok b =>
      cases testAny patterns context parts with
      | error e => rfl
      | ok rest => exact congrArg Except.ok (Bool.not_or b rest).symm

/-- **A double negation is no negation**, errors included. -/
theorem test_negation_negation (c : Condition) :
    (negation (negation c)).test patterns context = c.test patterns context := by
  rw [test_negation, test_negation]
  cases c.test patterns context with
  | error e => rfl
  | ok b => exact congrArg Except.ok (Bool.not_not b)

/-- What has no answer does not hold, and its negation has none either. -/
theorem holds_negation_iff (c : Condition) :
    (negation c).holds patterns context = !c.holds patterns context
      ↔ ∃ b, c.test patterns context = .ok b := by
  rw [holds, holds, test_negation]
  cases c.test patterns context with
  | error e => exact ⟨nofun, nofun⟩
  | ok b => exact ⟨fun _ => ⟨b, rfl⟩, fun _ => rfl⟩

/-- **The laws of negation, where some conditions have no answer.**  In every context, a negated
conjunction says what the choice of the negations says, a negated choice says what the conjunction
of the negations says, and a condition negated twice says what it says itself: the same answer, or
none for the same reason.  What holds is turned round by negation where there is an answer, and only
there. -/
theorem boolean_laws (patterns : Patterns) (context : Json) {parts : List Condition}
    (h : parts ≠ []) (c : Condition) :
    (negation (composite .and parts)).test patterns context
        = (composite .or (parts.map negation)).test patterns context
      ∧ (negation (composite .or parts)).test patterns context
        = (composite .and (parts.map negation)).test patterns context
      ∧ (negation (negation c)).test patterns context = c.test patterns context
      ∧ ((negation c).holds patterns context = !c.holds patterns context
        ↔ ∃ b, c.test patterns context = .ok b) := by
  have hmap : parts.map negation ≠ [] := fun hnil => h (List.map_eq_nil_iff.1 hnil)
  refine ⟨?_, ?_, test_negation_negation c, holds_negation_iff c⟩
  · rw [test_negation, composite, composite, test_and h, test_or, testAny_negations]
  · rw [test_negation, composite, composite, test_or, test_and hmap, testAll_negations]

/-- Patterns that stand for themselves, but for a bracket that is left open. -/
def literally : Patterns
  | "(" => .error "regex parse error:\n    (\n    ^\nerror: unclosed group"
  | "[" => .error "regex parse error:\n    [\n    ^\nerror: unclosed character class"
  | pattern => .ok fun text => isInfix pattern.toList text.toList

/-- A name that is known, something that cannot be asked of it, and an operator nobody knows. -/
def questions : List Condition :=
  [compare .equals "name" (.str "Ann"), compare .in "name" (.str "Ann"), { operator := "isSunny" }]

/-- What cannot be asked leaves both sides without an answer, for the one reason. -/
theorem boolean_laws_questions :
    (negation (composite .and questions)).test literally (.obj [("name", .str "Ann")])
        = .error (.typeMismatch .in "an array value")
      ∧ (composite .or (questions.map negation)).test literally (.obj [("name", .str "Ann")])
        = .error (.typeMismatch .in "an array value") := by
  have hsome : questions ≠ [] := nofun
  obtain ⟨hand, -⟩ := boolean_laws literally (.obj [("name", .str "Ann")]) hsome (new .not)
  rw [← hand]
  have hnone : (negation (composite .and questions)).test literally (.obj [("name", .str "Ann")])
      = .error (.typeMismatch .in "an array value") := rfl
  exact ⟨hnone, hnone⟩

/-! ## Order -/

/-- **The same condition but for the order of the parts** of any conjunctions and choices in it.
The parts of other conditions stay where they are. -/
inductive Reordered : Condition → Condition → Prop where
  | refl {c} : Reordered c c
  | parts {operator field value parts parts'}
      (ho : operator = Operator.and.name ∨ operator = Operator.or.name) (h : parts.Perm parts') :
      Reordered ⟨operator, field, value, parts⟩ ⟨operator, field, value, parts'⟩
  | within {operator field value before part part' after} (h : Reordered part part') :
      Reordered ⟨operator, field, value, before ++ part :: after⟩
        ⟨operator, field, value, before ++ part' :: after⟩
  | trans {c d e} (h : Reordered c d) (h' : Reordered d e) : Reordered c e

/-- What a condition says about a context, if anything. -/
def answer? (patterns : Patterns) (context : Json) (c : Condition) : Option Bool :=
  (c.test patterns context).toOption

/-- Answers put together from the right; none if one of them is missing. -/
def gather (op : Bool → Bool → Bool) (unit : Bool) (answers : List (Option Bool)) : Option Bool :=
  answers.foldr (fun a rest => do return op (← a) (← rest)) (some unit)

theorem toOption_map (f : Bool → Bool) (x : Except EvalError Bool) :
    (x.map f).toOption = x.toOption.map f := by
  cases x <;> rfl

/-- Of a conjunction, answered or not, the answers of its parts decide. -/
theorem toOption_testAll (parts : List Condition) :
    (testAll patterns context parts).toOption
      = gather and true (parts.map (answer? patterns context)) := by
  induction parts with
  | nil => rfl
  | cons c parts ih =>
    rw [testAll, List.map_cons, gather, List.foldr_cons, ← gather, ← ih, answer?]
    cases c.test patterns context with
    | error e => rfl
    | ok b => cases testAll patterns context parts <;> rfl

/-- And so of a disjunction. -/
theorem toOption_testAny (parts : List Condition) :
    (testAny patterns context parts).toOption
      = gather or false (parts.map (answer? patterns context)) := by
  induction parts with
  | nil => rfl
  | cons c parts ih =>
    rw [testAny, List.map_cons, gather, List.foldr_cons, ← gather, ← ih, answer?]
    cases c.test patterns context with
    | error e => rfl
    | ok b => cases testAny patterns context parts <;> rfl

/-- Answers may be put together in any order. -/
theorem gather_perm {op : Bool → Bool → Bool} (hop : ∀ a b c, op a (op b c) = op b (op a c))
    (unit : Bool) {answers answers' : List (Option Bool)} (h : answers.Perm answers') :
    gather op unit answers = gather op unit answers' := by
  refine h.foldr_eq' (fun a _ b _ rest => ?_) _
  cases a with
  | none => cases b <;> rfl
  | some a =>
    cases b with
    | none => rfl
    | some b =>
      cases rest with
      | none => rfl
      | some rest => exact congrArg some (hop b a rest)

section Parts

variable {operator : String} {field : Option String} {value : Option Json}
  {parts parts' : List Condition}

/-- **A condition knows no more of its parts than their answers.** -/
theorem answer?_congr
    (h : parts.map (answer? patterns context) = parts'.map (answer? patterns context)) :
    answer? patterns context ⟨operator, field, value, parts⟩
      = answer? patterns context ⟨operator, field, value, parts'⟩ := by
  cases parts with
  | nil =>
    obtain rfl : parts' = [] := List.map_eq_nil_iff.1 h.symm
    rfl
  | cons first rest =>
    obtain ⟨first', rest', rfl, hfirst, -⟩ := List.map_eq_cons_iff.1 h.symm
    rw [answer?, answer?, test, test]
    cases Operator.ofName? operator with
    | none => rfl
    | some op =>
      cases op with
      | and =>
        show (testAll patterns context (first :: rest)).toOption
          = (testAll patterns context (first' :: rest')).toOption
        rw [toOption_testAll, toOption_testAll, h]
      | or =>
        show (testAny patterns context (first :: rest)).toOption
          = (testAny patterns context (first' :: rest')).toOption
        rw [toOption_testAny, toOption_testAny, h]
      | not =>
        show ((first.test patterns context).map (!·)).toOption
          = ((first'.test patterns context).map (!·)).toOption
        rw [toOption_map, toOption_map]
        exact congrArg (Option.map (!·)) hfirst.symm
      | _ => rfl

/-- The parts of a conjunction or a choice may stand in any order. -/
theorem answer?_perm (ho : operator = Operator.and.name ∨ operator = Operator.or.name)
    (h : parts.Perm parts') :
    answer? patterns context ⟨operator, field, value, parts⟩
      = answer? patterns context ⟨operator, field, value, parts'⟩ := by
  have hanswers := h.map (answer? patterns context)
  rcases ho with rfl | rfl
  · by_cases hnil : parts = []
    · obtain rfl : parts' = [] := (hnil ▸ h).nil_eq.symm
      rw [hnil]
    · have hnil' : parts' ≠ [] := fun hnil' => hnil (hnil' ▸ h).eq_nil
      rw [answer?, answer?, test_and hnil, test_and hnil', toOption_testAll, toOption_testAll,
        gather_perm Bool.and_left_comm true hanswers]
  · rw [answer?, answer?, test_or, test_or, toOption_testAny, toOption_testAny,
      gather_perm Bool.or_left_comm false hanswers]

end Parts

/-- A condition with its parts reordered has the same answer, or none. -/
theorem Reordered.answer?_eq {c d : Condition} (h : c.Reordered d) :
    answer? patterns context c = answer? patterns context d := by
  induction h with
  | refl => rfl
  | parts ho h => exact answer?_perm ho h
  | within _ ih => exact answer?_congr (by simp only [List.map_append, List.map_cons, ih])
  | trans _ _ ih ih' => exact ih.trans ih'

/-- **The order of operands is immaterial.**  Whatever the parts of conjunctions and choices are,
also those that have no answer or an operator that nobody knows: in another order, at any depth,
they come to the same answer, or there is none either way, and so the condition holds or does not
hold as before. -/
theorem Reordered.same_answer {c d : Condition} (h : c.Reordered d) (patterns : Patterns)
    (context : Json) :
    ((∃ b, c.test patterns context = .ok b ∧ d.test patterns context = .ok b)
        ∨ ∃ e e', c.test patterns context = .error e ∧ d.test patterns context = .error e')
      ∧ c.holds patterns context = d.holds patterns context := by
  have heq : (c.test patterns context).toOption = (d.test patterns context).toOption := h.answer?_eq
  rw [holds, holds]
  cases hc : c.test patterns context with
  | ok b =>
    cases hd : d.test patterns context with
    | ok b' =>
      rw [hc, hd] at heq
      obtain rfl : b = b' := Option.some.inj heq
      exact ⟨.inl ⟨b, rfl, rfl⟩, rfl⟩
    | error e' =>
      rw [hc, hd] at heq
      cases heq
  | error e =>
    cases hd : d.test patterns context with
    | ok b' =>
      rw [hc, hd] at heq
      cases heq
    | error e' => exact ⟨.inr ⟨e, e', rfl, rfl⟩, rfl⟩

/-- Something that cannot be asked stands beside a conjunction with a pattern that is none. -/
def jumble : Condition :=
  composite .or
    [compare .in "name" (.str "Ann"),
     composite .and [{ operator := "isSunny" }, compare .regex "name" (.str "(")]]

/-- The same the other way round, inside and out. -/
def jumbled : Condition :=
  composite .or
    [composite .and [compare .regex "name" (.str "("), { operator := "isSunny" }],
     compare .in "name" (.str "Ann")]

/-- Another order gives another reason, and no answer either way. -/
theorem same_answer_jumble :
    jumble.Reordered jumbled
      ∧ jumble.test literally (.obj [("name", .str "Ann")])
        = .error (.typeMismatch .in "an array value")
      ∧ jumbled.test literally (.obj [("name", .str "Ann")])
        = .error (.invalidPattern "(" "regex parse error:\n    (\n    ^\nerror: unclosed group")
      ∧ jumble.holds literally (.obj [("name", .str "Ann")])
        = jumbled.holds literally (.obj [("name", .str "Ann")]) := by
  have hinner : Reordered jumble (composite .or
      [compare .in "name" (.str "Ann"),
       composite .and [compare .regex "name" (.str "("), { operator := "isSunny" }]]) :=
    @Reordered.within _ _ _ [compare .in "name" (.str "Ann")] _ _ []
      (.parts (.inl rfl) (.swap _ _ []))
  have h : jumble.Reordered jumbled := hinner.trans (.parts (.inr rfl) (.swap _ _ []))
  exact ⟨h, rfl, rfl, (h.same_answer _ _).2⟩

end Condition

end RemoteScreen
