import RemoteScreen.Condition.Codec
import RemoteScreen.Condition.Eval
import RemoteScreen.Context
import RemoteScreen.Verb.Basic

/-!
# Verb/Form — checking a form

All fields are checked, and the violations of all of them are reported together.  A pattern that
does not compile ends the check at once.
-/

namespace RemoteScreen

/-- What a field has to satisfy. -/
structure FieldRules where
  required : Bool := false
  minLength : Option Nat := none
  maxLength : Option Nat := none
  pattern : Option String := none
  custom : Option Condition := none

/-- A field of a form: its value, or the path in the context that leads to it. -/
structure FormField where
  name : String
  value : Option Json := none
  path : Option String := none
  label : Option String := none
  rules : FieldRules := {}
  message : Option String := none

namespace FieldRules

/-- How rules are written. -/
def layout : Json.Source.Layout :=
  ⟨"Rules", ["required", "minLength", "maxLength", "pattern", "custom"]⟩

/-- Decodes rules; in a list they may only leave out what follows the last field. -/
def decode (s : Json.Source) : Decoding FieldRules := do
  let (r, ending) ← s.record layout ({} : FieldRules) fun field t _ r =>
    match field with
    | "required" => return { r with required := ← t.bool }
    | "minLength" => return { r with minLength := ← t.optional Json.Source.count }
    | "maxLength" => return { r with maxLength := ← t.optional Json.Source.count }
    | "pattern" => return { r with pattern := ← t.optional Json.Source.string }
    | "custom" => return { r with custom := ← t.optional Condition.decode }
    | _ => return r
  for field in ["minLength", "maxLength", "pattern", "custom"] do
    ending.requireInList layout field
  return r

end FieldRules

namespace FormField

/-- How a field is written. -/
def layout : Json.Source.Layout :=
  ⟨"FieldSpec", ["name", "value", "path", "label", "rules", "message"]⟩

/-- A field on its way in. -/
structure Draft where
  name : Option String := none
  value : Option Json := none
  path : Option String := none
  label : Option String := none
  rules : FieldRules := {}
  message : Option String := none

/-- Decodes a field. -/
def decode (s : Json.Source) : Decoding FormField := do
  let (d, ending) ← s.record layout ({} : Draft) fun field t _ d =>
    match field with
    | "name" => return { d with name := some (← t.string) }
    | "value" => return { d with value := ← t.optional Json.Source.value }
    | "path" => return { d with path := ← t.optional Json.Source.string }
    | "label" => return { d with label := ← t.optional Json.Source.string }
    | "rules" => return { d with rules := ← FieldRules.decode t }
    | "message" => return { d with message := ← t.optional Json.Source.string }
    | _ => return d
  let name ← ending.require layout "name" d.name
  return {
    name, value := d.value, path := d.path, label := d.label, rules := d.rules
    message := d.message }

/-- The fields that a value stands for. -/
def listOfJson (j : Json) : Decoding (List FormField) :=
  (Json.Source.ofJson j).listOf fun s _ => decode s

/-- What the field is called. -/
def title (f : FormField) : String := f.label.getD f.name

/-- The value of a field: its own, or the one its path, or else its name, leads to. -/
def valueIn (f : FormField) (data : Json) : Json :=
  match f.value with
  | some v => v
  | none => (data.resolve (f.path.getD f.name)).getD .null

/-- The text of a value that is checked. -/
def textOf : Json → String
  | .null => ""
  | v => v.plainText

/-- The complaint of the rules on the text of a field. -/
def textComplaint (patterns : Patterns) (f : FormField) (text : String) :
    Except VerbError (Option String) :=
  let r := f.rules
  let length := text.length
  if (Text.trim text.toList).isEmpty then
    .ok (if r.required then some (f.title ++ " is required") else none)
  else if r.minLength.any (length < ·) then
    .ok (r.minLength.map fun n => f.title ++ " must be at least " ++ toString n ++ " characters")
  else if r.maxLength.any (· < length) then
    .ok (r.maxLength.map fun n => f.title ++ " must be at most " ++ toString n ++ " characters")
  else
    match r.pattern with
    | none => .ok none
    | some p =>
      match patterns p with
      | .error message => .error (.invalidField "pattern" message)
      | .ok isMatch => .ok (if isMatch text then none else some (f.title ++ " is invalid"))

/-- The complaint of the condition on a field, which sees its value as `value`. -/
def customComplaint (patterns : Patterns) (f : FormField) (data value : Json) : Option String :=
  match f.rules.custom with
  | none => none
  | some c =>
    if c.holds patterns (layer data (some (.obj [("value", value)]))) then none
    else some (f.title ++ " is invalid")

/-- The violation of a field, in its own words if it has some. -/
def violation (patterns : Patterns) (f : FormField) (data : Json) :
    Except VerbError (Option String) := do
  let value := f.valueIn data
  let complaint ← f.textComplaint patterns (textOf value)
  return (complaint <|> f.customComplaint patterns data value).map fun m => f.message.getD m

end FormField

/-- The violations of some fields, in order. -/
def violations (patterns : Patterns) (data : Json) :
    List FormField → Except VerbError (List String)
  | [] => .ok []
  | f :: fs => do
    let v ← f.violation patterns data
    return v.toList ++ (← violations patterns data fs)

namespace Verb

/-- The fields that a payload asks to check. -/
def fieldsOf (i : VerbInput) : Except VerbError (List FormField) :=
  match i.payload.get? "fields" with
  | some v => (FormField.listOfJson v).mapError fun e => .invalidField "fields" e.message
  | none => .error (.missingField "fields")

/-- Checks a form. -/
def validateForm (patterns : Patterns) : Verb := fun i =>
  Script.withValue (fieldsOf i) fun fields =>
    .look fun data =>
      Script.withValue (violations patterns data fields) fun complaints =>
        if complaints.isEmpty then .ok
        else .fail (.validation (String.intercalate "; " complaints))

end Verb

end RemoteScreen
