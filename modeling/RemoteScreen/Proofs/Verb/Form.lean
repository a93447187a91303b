import RemoteScreen.Host.Console
import RemoteScreen.Library.Standard
import RemoteScreen.Proofs.Condition.Laws
import RemoteScreen.Proofs.Engine.AtOnce
import RemoteScreen.Proofs.Json.Records
import RemoteScreen.Verb.Form

/-!
# Proofs/Verb/Form — a form is accepted if no field breaks a rule

    field ──judged by each rule──▸ first broken one ──▸ its wording, or the field's own
    form  ──field by field──▸ refusals, in order ──▸ joined, if there are any

Each rule judges a field by itself (`FormField.breaks`).  The check reads the rules one after the
other and leaves the rest out as soon as one is broken; **what it says is the first of all broken
rules** (`FormField.violation_eq`), since a rule that is left out comes later.  Only a pattern that
does not compile ends the check itself, and only where the rules before it let the text through.
Which patterns compile, and to what, is for a library to say.
-/

namespace RemoteScreen

/-- What a field can break. -/
inductive FormRule where
  | required
  | minLength
  | maxLength
  | pattern
  | custom
  deriving DecidableEq

namespace FormRule

/-- The rules about the text of a value, in the order in which they are told. -/
def ofText : List FormRule := [required, minLength, maxLength, pattern]

/-- All rules, in the order in which they are told. -/
def all : List FormRule := ofText ++ [custom]

theorem mem_all (rule : FormRule) : rule ∈ all := by
  cases rule <;> decide

end FormRule

/-- What is wrong with a pattern that does not compile. -/
def Pattern.fault? (patterns : Patterns) (pattern : String) : Option String :=
  match patterns pattern with
  | .error message => some message
  | .ok _ => none

namespace FormField

section Judged

variable (f : FormField) (patterns : Patterns) (members : Fields)

/-- The value that is judged: the field's own one, unless that is null; what its path leads to, if
it has one, else what its name leads to; and null where nothing is found. -/
def judged : Json :=
  match f.value.filter (!·.isNull), f.path with
  | some own, _ => own
  | none, some path => ((Json.obj members).resolve path).getD .null
  | none, none => ((Json.obj members).resolve f.name).getD .null

/-- The text that is judged. -/
def text : String := textOf (f.judged members)

/-- The text is nothing but blanks. -/
def blank : Bool := (Text.trim (f.text members).toList).isEmpty

/-- The field breaks a rule.  Blank text breaks none but the first and the last, and the pattern is
broken where it compiles and no part of the text matches. -/
def breaks : FormRule → Bool
  | .required => f.blank members && f.rules.required
  | .minLength => !f.blank members && f.rules.minLength.any ((f.text members).length < ·)
  | .maxLength => !f.blank members && f.rules.maxLength.any (· < (f.text members).length)
  | .pattern => !f.blank members && f.rules.pattern.any fun p =>
      (patterns p).toOption.any fun isMatch => !isMatch (f.text members)
  | .custom => f.rules.custom.any fun c =>
      !c.holds patterns (.obj (members.insert "value" (f.judged members)))

/-- What is wrong with the pattern of the field, if it is needed and does not compile. -/
def malformed? : Option String :=
  if f.blank members || f.breaks patterns members .minLength
      || f.breaks patterns members .maxLength then none
  else f.rules.pattern >>= Pattern.fault? patterns

/-- What is said about a broken rule. -/
def wording : FormRule → String
  | .required => f.title ++ " is required"
  | .minLength =>
    f.title ++ " must be at least " ++ toString (f.rules.minLength.getD 0) ++ " characters"
  | .maxLength =>
    f.title ++ " must be at most " ++ toString (f.rules.maxLength.getD 0) ++ " characters"
  | .pattern | .custom => f.title ++ " is invalid"

/-- The message about a field that breaks a rule: its own, or the wording of the first such rule. -/
def refusal? : Option String :=
  (FormRule.all.find? (f.breaks patterns members)).map fun rule => f.message.getD (f.wording rule)

end Judged

variable {f : FormField} {patterns : Patterns} {members : Fields}

/-- A field is not refused if it breaks no rule. -/
theorem refusal?_eq_none_iff :
    f.refusal? patterns members = none ↔ ∀ rule, f.breaks patterns members rule = false := by
  rw [refusal?, Option.map_eq_none_iff, List.find?_eq_none]
  exact ⟨fun h rule => Bool.not_eq_true _ ▸ h rule rule.mem_all,
    fun h rule _ => Bool.not_eq_true _ ▸ h rule⟩

/-- A field that is read has a value only if it is not null. -/
theorem value_ne_null_of_decode {j : Json} (h : decode (.ofJson j) = .ok f) :
    f.value ≠ some .null := by
  obtain ⟨⟨d, ending⟩, hrecord, h⟩ := Decoding.bind_eq_ok.1 h
  obtain ⟨name, -, h⟩ := Decoding.bind_eq_ok.1 h
  cases h
  refine Json.Source.record_keeps (P := fun d : Draft => d.value ≠ some .null) hrecord nofun
    fun k x d d' _ hd hd' => ?_
  split at hd'
  case h_2 =>
    obtain ⟨o, ho, rfl⟩ := Decoding.return_eq_ok.1 hd'
    rintro rfl
    obtain ⟨hx, hvalue⟩ := Json.Source.of_optional ho _ rfl
    rw [← Json.Source.isNull_of_value hvalue] at hx
    cases hx
  case h_7 =>
    cases hd'
    exact hd
  all_goals
    obtain ⟨-, -, rfl⟩ := Decoding.return_eq_ok.1 hd'
    exact hd

/-- A field is judged by its own value, or by what stands at its path. -/
theorem valueIn_eq_judged (hf : f.value ≠ some .null) :
    f.valueIn (.obj members) = f.judged members := by
  rw [valueIn, judged]
  cases hvalue : f.value with
  | none => cases f.path <;> rfl
  | some v =>
    have hkept : (some v).filter (!·.isNull) = some v := by
      cases v <;> first | rfl | exact absurd hvalue hf
    rw [hkept]

/-- **What the text of a field breaks is told by the first rule**, unless the pattern is needed and
does not compile. -/
theorem textComplaint_eq :
    f.textComplaint patterns (f.text members)
      = (f.malformed? patterns members).elim
        (.ok ((FormRule.ofText.find? (f.breaks patterns members)).map f.wording))
        fun message => .error (.invalidField "pattern" message) := by
  cases hblank : f.blank members
  case true =>
    have htrim : (Text.trim (f.text members).toList).isEmpty = true := hblank
    cases hrequired : f.rules.required <;>
      simp [textComplaint, malformed?, FormRule.ofText, breaks, wording, hblank, htrim, hrequired]
  case false =>
    have htrim : (Text.trim (f.text members).toList).isEmpty = false := hblank
    have hfirst : f.breaks patterns members .required = false := by rw [breaks, hblank]; rfl
    have hmin : f.breaks patterns members .minLength
        = f.rules.minLength.any ((f.text members).length < ·) := by
      rw [breaks, hblank]; rfl
    have hmax : f.breaks patterns members .maxLength
        = f.rules.maxLength.any (· < (f.text members).length) := by
      rw [breaks, hblank]; rfl
    have hpattern : f.breaks patterns members .pattern = f.rules.pattern.any fun p =>
        (patterns p).toOption.any fun isMatch => !isMatch (f.text members) := by
      rw [breaks, hblank]; rfl
    rw [textComplaint, htrim, ← hmin, ← hmax]
    cases hm : f.breaks patterns members .minLength
    case true =>
      obtain ⟨n, hn⟩ : ∃ n, f.rules.minLength = some n := by
        rw [hmin] at hm
        exact Option.isSome_iff_exists.1 (Option.isSome_of_any hm)
      simp [malformed?, FormRule.ofText, wording, hfirst, hm, hn]
    case false =>
      cases hM : f.breaks patterns members .maxLength
      case true =>
        obtain ⟨n, hn⟩ : ∃ n, f.rules.maxLength = some n := by
          rw [hmax] at hM
          exact Option.isSome_iff_exists.1 (Option.isSome_of_any hM)
        simp [malformed?, FormRule.ofText, wording, hfirst, hm, hM, hn]
      case false =>
        cases hp : f.rules.pattern with
        | none => simp [malformed?, FormRule.ofText, hfirst, hm, hM, hpattern, hp]
        | some p =>
          cases hcompiled : patterns p with
          | error message => simp [malformed?, Pattern.fault?, hblank, hm, hM, hp, hcompiled]
          | ok isMatch =>
            cases hmatch : isMatch (f.text members) <;>
              simp [malformed?, Pattern.fault?, FormRule.ofText, wording, hfirst, hm, hM, hpattern,
                hp, hcompiled, hmatch, Except.toOption]

/-- The complaint of a custom rule is its wording, if it is broken. -/
theorem customComplaint_eq :
    f.customComplaint patterns (.obj members) (f.judged members)
      = ([FormRule.custom].find? (f.breaks patterns members)).map f.wording := by
  have hlayer : layer (.obj members) (some (.obj [("value", f.judged members)]))
      = .obj (members.insert "value" (f.judged members)) := rfl
  rw [customComplaint, hlayer]
  cases hcustom : f.rules.custom with
  | none => simp [breaks, hcustom]
  | some c =>
    cases hholds : c.holds patterns (.obj (members.insert "value" (f.judged members))) <;>
      simp [breaks, wording, hcustom, hholds]

/-- **The check of a field tells the first of all rules that it breaks**, unless its pattern is
needed and does not compile. -/
theorem violation_eq (hf : f.value ≠ some .null) :
    f.violation patterns (.obj members)
      = (f.malformed? patterns members).elim (.ok (f.refusal? patterns members))
        fun message => .error (.invalidField "pattern" message) := by
  have hfirst : ((FormRule.ofText.find? (f.breaks patterns members)).map f.wording <|>
      ([FormRule.custom].find? (f.breaks patterns members)).map f.wording)
        = (FormRule.all.find? (f.breaks patterns members)).map f.wording := by
    rw [show FormRule.all = FormRule.ofText ++ [.custom] from rfl, List.find?_append,
      Option.map_or]
    exact Option.orElse_eq_or
  have htext : f.textComplaint patterns (textOf (f.judged members)) = _ := f.textComplaint_eq
  rw [violation, valueIn_eq_judged hf, htext, customComplaint_eq]
  cases f.malformed? patterns members with
  | some message => rfl
  | none =>
    change Except.ok _ = Except.ok _
    rw [hfirst, Option.map_map, refusal?]
    rfl

/-- A field that can be checked has its refusal for a violation. -/
theorem violation_of_checked (hf : f.value ≠ some .null)
    (hcheck : f.malformed? patterns members = none) :
    f.violation patterns (.obj members) = .ok (f.refusal? patterns members) := by
  rw [violation_eq hf, hcheck]
  rfl

/-- One that cannot be checked has none, but the fault of its pattern. -/
theorem violation_of_malformed (hf : f.value ≠ some .null) {message : String}
    (hmalformed : f.malformed? patterns members = some message) :
    f.violation patterns (.obj members) = .error (.invalidField "pattern" message) := by
  rw [violation_eq hf, hmalformed]
  rfl

end FormField

/-! ## Forms -/

section Fields

variable {patterns : Patterns} {members : Fields} {fields : List FormField}

/-- The violations of fields that can be checked are their refusals. -/
theorem violations_eq (hvalue : ∀ f ∈ fields, f.value ≠ some .null)
    (hcheck : ∀ f ∈ fields, f.malformed? patterns members = none) :
    violations patterns (.obj members) fields
      = .ok (fields.filterMap (·.refusal? patterns members)) := by
  induction fields with
  | nil => rfl
  | cons f fields ih =>
    obtain ⟨hf, hvalue⟩ := List.forall_mem_cons.1 hvalue
    obtain ⟨hfcheck, hcheck⟩ := List.forall_mem_cons.1 hcheck
    rw [violations, FormField.violation_of_checked hf hfcheck, ih hvalue hcheck,
      List.filterMap_cons]
    cases f.refusal? patterns members <;> rfl

/-- The first field that cannot be checked ends the check. -/
theorem violations_eq_error {before after : List FormField} {f : FormField} {message : String}
    (hvalue : ∀ g ∈ before ++ f :: after, g.value ≠ some .null)
    (hbefore : ∀ g ∈ before, g.malformed? patterns members = none)
    (hf : f.malformed? patterns members = some message) :
    violations patterns (.obj members) (before ++ f :: after)
      = .error (.invalidField "pattern" message) := by
  induction before with
  | nil =>
    rw [List.nil_append, violations,
      FormField.violation_of_malformed (hvalue f List.mem_cons_self) hf]
    rfl
  | cons g before ih =>
    obtain ⟨hg, hvalue⟩ := List.forall_mem_cons.1 hvalue
    obtain ⟨hgcheck, hbefore⟩ := List.forall_mem_cons.1 hbefore
    rw [List.cons_append, violations, FormField.violation_of_checked hg hgcheck,
      ih hvalue hbefore]
    rfl

end Fields

/-- What is said about the check of a form. -/
structure FormChecked (patterns : Patterns) (members : Fields) (fields : List FormField)
    (result : Except VerbError Unit) : Prop where
  /-- The first field whose pattern is needed and does not compile ends the check, with what is
  wrong with the pattern. -/
  stopped : ∀ before f after message, fields = before ++ f :: after →
    (∀ g ∈ before, g.malformed? patterns members = none) →
    f.malformed? patterns members = some message →
      f.violation patterns (.obj members) = .error (.invalidField "pattern" message)
        ∧ result = .error (.invalidField "pattern" message)
  /-- Else the form is accepted if and only if no field breaks a rule. -/
  accepted : (∀ f ∈ fields, f.malformed? patterns members = none) →
    (result = .ok () ↔ ∀ f ∈ fields, ∀ rule, f.breaks patterns members rule = false)
  /-- One that is not accepted is refused with the refusals of its fields, in order. -/
  refused : (∀ f ∈ fields, f.malformed? patterns members = none) → result ≠ .ok () →
    result = .error (.validation
      (String.intercalate "; " (fields.filterMap (·.refusal? patterns members))))

namespace Verb

variable {σ : Type} (h : Host σ) (now : Nat) (patterns : Patterns)

/-- A decoded field has no null for a value: one that is given counts as none. -/
theorem value_ne_null_of_fieldsOf {i : VerbInput} {fields : List FormField}
    (hi : fieldsOf i = .ok fields) : ∀ f ∈ fields, f.value ≠ some .null := by
  rw [fieldsOf] at hi
  split at hi
  · next v _ =>
    cases hlist : FormField.listOfJson v with
    | error err => rw [hlist] at hi; cases hi
    | ok fs =>
      rw [hlist] at hi
      cases hi
      exact Json.Source.listOf_forall hlist fun x f _ hf => FormField.value_ne_null_of_decode hf
  · cases hi

/-- What the verb makes of the violations of the fields. -/
def formResult : Except VerbError (List String) → Except VerbError Unit
  | .error err => .error err
  | .ok [] => .ok ()
  | .ok complaints => .error (.validation (String.intercalate "; " complaints))

/-- **The verb complains of the violations of its fields**, or of none. -/
theorem seeing_validateForm_fields {i : VerbInput} {fields : List FormField}
    (hi : fieldsOf i = .ok fields) (data : Json) :
    (validateForm patterns i).seeing data
      = some (formResult (violations patterns data fields)) := by
  rw [validateForm, Script.seeing_withValue, hi]
  dsimp only [Script.seeing]
  rw [Script.seeing_withValue]
  cases violations patterns data fields with
  | error err => rfl
  | ok complaints => cases complaints <;> rfl

/-- **A form is accepted exactly if no field of it breaks a rule.**  The verb ends at once, whatever
the host does, and leaves the engine as it is.  The data of a context is always an object
(`Context.exists_obj_ofJson`, `Context.exists_obj_after`). -/
theorem validateForm_exact {i : VerbInput} {fields : List FormField} (hi : fieldsOf i = .ok fields)
    {e : Engine σ} {members : Fields} (hdata : e.context.data = .obj members) :
    ∃ result, Engine.runScript h now (validateForm patterns i) e = (.ended result, e)
      ∧ FormChecked patterns members fields result := by
  have hvalue := value_ne_null_of_fieldsOf hi
  have hrun := Engine.runScript_of_seeing h now
    (seeing_validateForm_fields patterns hi e.context.data)
  rw [hdata] at hrun
  refine ⟨_, hrun, ⟨?_, fun hcheck => ?_, fun hcheck hne => ?_⟩⟩
  · rintro before f after message rfl hbefore hf
    refine ⟨FormField.violation_of_malformed (hvalue f ?_) hf, ?_⟩
    · exact List.mem_append_right _ List.mem_cons_self
    · rw [violations_eq_error hvalue hbefore hf]
      rfl
  · rw [violations_eq hvalue hcheck]
    cases hrefusals : fields.filterMap (·.refusal? patterns members) with
    | nil =>
      rw [List.filterMap_eq_nil_iff] at hrefusals
      exact ⟨fun _ f hf => FormField.refusal?_eq_none_iff.1 (hrefusals f hf), fun _ => rfl⟩
    | cons m ms =>
      refine ⟨nofun, fun hnone => ?_⟩
      have hnil : fields.filterMap (·.refusal? patterns members) = [] :=
        List.filterMap_eq_nil_iff.2 fun f hf => FormField.refusal?_eq_none_iff.2 (hnone f hf)
      rw [hnil] at hrefusals
      cases hrefusals
  · rw [violations_eq hvalue hcheck] at hne ⊢
    cases hrefusals : fields.filterMap (·.refusal? patterns members) with
    | nil => exact absurd (by rw [hrefusals]; rfl) hne
    | cons m ms => rfl

/-- A form with a blank field, one that is too short, and one with a message of its own. -/
def signUp : VerbInput where
  payload := [("fields", .arr [
    .obj [("label", .str "Phone"), ("name", .str "phone"),
      ("rules", .obj [("required", .bool true)]), ("value", .str " ")],
    .obj [("label", .str "Code"), ("name", .str "otp"), ("path", .str "form.code"),
      ("rules", .obj [("minLength", .num (.int 4)), ("pattern", .str "[")])],
    .obj [("message", .str "Enter a valid email"), ("name", .str "email"),
      ("rules", .obj [("pattern", .str "@")])]])]
  componentId := none
  offers := fun _ => false
  config := {}

/-- The fields of the form. -/
def signUpFields : List FormField :=
  [{ name := "phone", value := some (.str " "), label := some "Phone",
     rules := { required := true } },
   { name := "otp", path := some "form.code", label := some "Code",
     rules := { minLength := some 4, pattern := some "[" } },
   { name := "email", rules := { pattern := some "@" }, message := some "Enter a valid email" }]

/-- The refusals of all fields are told together.  The pattern of the second one is not needed. -/
theorem validateForm_exact_signUp :
    let e : Engine Store :=
      .new .standard {} ⟨1, .obj [("email", .str "nope"), ("form", .obj [("code", .str "12")])]⟩ []
    Engine.runScript Console.host 0 (validateForm Condition.literally signUp) e
      = (.ended (.error (.validation
          "Phone is required; Code must be at least 4 characters; Enter a valid email")), e) := by
  intro e
  have hfields : fieldsOf signUp = .ok signUpFields := rfl
  have hdata : e.context.data = .obj e.context.data.members := rfl
  obtain ⟨result, hrun, hchecked⟩ :=
    validateForm_exact Console.host 0 Condition.literally hfields hdata
  have hcheck : ∀ f ∈ signUpFields,
      f.malformed? Condition.literally e.context.data.members = none := by
    decide +kernel
  have hrefusals : signUpFields.filterMap
      (·.refusal? Condition.literally e.context.data.members)
      = ["Phone is required", "Code must be at least 4 characters", "Enter a valid email"] := by
    decide +kernel
  have hbroken : ¬ ∀ f ∈ signUpFields, ∀ rule,
      f.breaks Condition.literally e.context.data.members rule = false := by
    intro hnone
    have hfirst := hnone _ List.mem_cons_self .required
    revert hfirst
    decide +kernel
  rw [hrun, hchecked.refused hcheck fun hok => hbroken ((hchecked.accepted hcheck).1 hok),
    hrefusals]
  rfl

end Verb

end RemoteScreen
