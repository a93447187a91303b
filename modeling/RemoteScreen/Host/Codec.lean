import RemoteScreen.Host.Basic

/-!
# Host/Codec — what goes to a host, as JSON
-/

namespace RemoteScreen

namespace StateAction

/-- How an action for the host's state is written. -/
def layout : Json.Source.Layout := ⟨"StateAction", ["type", "payload"]⟩

/-- The value that stands for an action for the host's state. -/
def toJson (a : StateAction) : Json :=
  .obj (Keyed.ofList [("type", .str a.type), ("payload", a.payload)])

/-- Decodes an action for the host's state. -/
def decode (s : Json.Source) : Decoding StateAction := do
  let ((type, payload), ending) ← s.record layout ((none : Option String), Json.null)
    fun field t _ d =>
      match field with
      | "type" => return (some (← t.string), d.2)
      | "payload" => return (d.1, ← t.value)
      | _ => return d
  return { type := ← ending.require layout "type" type, payload }

end StateAction

namespace AlertButton

/-- How a button is written. -/
def layout : Json.Source.Layout := ⟨"AlertButton", ["text", "style"]⟩

/-- The value that stands for a button. -/
def toJson (b : AlertButton) : Json :=
  .obj (Keyed.ofList [("text", .str b.text), ("style", (b.style.map Json.str).getD .null)])

/-- Decodes a button. -/
def decode (s : Json.Source) : Decoding AlertButton := do
  let ((text, style), ending) ← s.record layout ((none : Option String), (none : Option String))
    fun field t _ d =>
      match field with
      | "text" => return (some (← t.string), d.2)
      | "style" => return (d.1, ← t.optional Json.Source.string)
      | _ => return d
  return { text := ← ending.require layout "text" text, style }

/-- The buttons that a value stands for. -/
def listOfJson (j : Json) : Decoding (List AlertButton) :=
  (Json.Source.ofJson j).listOf fun s _ => decode s

end AlertButton

end RemoteScreen
