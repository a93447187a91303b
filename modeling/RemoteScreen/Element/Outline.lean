import RemoteScreen.Element.Basic
import RemoteScreen.Json.Shown

/-!
# Element/Outline — elements as text

An outline gives each element a line, indented by its depth: kind, key, text, events.  An account
spells out everything.
-/

namespace RemoteScreen

namespace Element

/-- What the line of an element says. -/
def headline (e : Element) : String :=
  e.kind
    ++ (match e.key with
      | some k => "#" ++ k
      | none => "")
    ++ (match e.text with
      | some t => " " ++ Text.quoted t
      | none => "")
    ++ (if e.handlers.isEmpty then ""
      else " [" ++ String.intercalate ", " e.handlers.keys ++ "]")
    ++ (if e.enabled then "" else " (disabled)")

/-- The blanks before the line of an element. -/
def indentation (depth : Nat) : String := String.ofList (List.replicate (2 * depth) ' ')

mutual

/-- The lines of an element at a depth. -/
def outlineAt (depth : Nat) : Element → String
  | e@⟨_, _, _, _, children, _, _⟩ =>
    indentation depth ++ headline e ++ "\n" ++ outlineAll (depth + 1) children

/-- The lines of elements at a depth. -/
def outlineAll (depth : Nat) : List Element → String
  | [] => ""
  | e :: es => outlineAt depth e ++ outlineAll depth es

end

/-- A line for each element, indented by its depth. -/
def outline (e : Element) : String := outlineAt 0 e

mutual

/-- An element with everything spelled out. -/
def shown : Element → String
  | ⟨kind, key, props, style, children, handlers, enabled⟩ =>
    "Element \x7b kind: " ++ Text.quoted kind ++ ", key: " ++ Text.quotedOption key
      ++ ", props: " ++ bracketed "\x7b" "\x7d" (Json.shownFields props)
      ++ ", style: " ++ bracketed "\x7b" "\x7d" (Json.shownFields style)
      ++ ", children: " ++ bracketed "[" "]" (shownAll children)
      ++ ", handlers: " ++ bracketed "[" "]" (handlers.keys.map Text.quoted)
      ++ ", enabled: " ++ (if enabled then "true" else "false") ++ " \x7d"

/-- Elements with everything spelled out. -/
def shownAll : List Element → List String
  | [] => []
  | e :: es => shown e :: shownAll es

end

end Element

end RemoteScreen
