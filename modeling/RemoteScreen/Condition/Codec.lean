import RemoteScreen.Condition.Basic
import RemoteScreen.Json.Decode

/-!
# Condition/Codec — conditions as JSON

Only the operator has to be there.  An operand that is null counts as none, and so does a field;
nothing that is absent or empty is written.
-/

namespace RemoteScreen

namespace Condition

/-- How a condition is written. -/
def layout : Json.Source.Layout := ⟨"ConditionExpr", ["operator", "field", "value", "conditions"]⟩

mutual

/-- The value that stands for a condition. -/
def toJson : Condition → Json
  | ⟨operator, field, value, conditions⟩ =>
    .obj (Keyed.ofPresent
      [("operator", some (.str operator)), ("field", field.map .str), ("value", value),
       ("conditions", if conditions.isEmpty then none else some (.arr (listToJson conditions)))])

/-- The values that stand for conditions. -/
def listToJson : List Condition → List Json
  | [] => []
  | c :: cs => toJson c :: listToJson cs

end

/-- A condition on its way in. -/
structure Draft where
  operator : Option String := none
  field : Option String := none
  value : Option Json := none
  conditions : List Condition := []

/-- Decodes a condition. -/
def decode (s : Json.Source) : Decoding Condition := do
  let (d, ending) ← s.record layout ({} : Draft) fun field t _ d =>
    match field with
    | "operator" => return { d with operator := some (← t.string) }
    | "field" => return { d with field := ← t.optional Json.Source.string }
    | "value" => return { d with value := ← t.optional Json.Source.value }
    | "conditions" => return { d with conditions := ← t.listOf fun c _ => decode c }
    | _ => return d
  let operator ← ending.require layout "operator" d.operator
  return { operator, field := d.field, value := d.value, conditions := d.conditions }
termination_by sizeOf s

/-- The condition that a value stands for. -/
def ofJson (j : Json) : Decoding Condition := decode (.ofJson j)

end Condition

end RemoteScreen
