import RemoteScreen.Element.Trigger
import RemoteScreen.Proofs.Primitive

/-!
# Proofs/Element/Texts — what is read of an element

    element ──▸ the text of its value
       └─ event, value ──▸ dispatches ──▸ the texts of their payloads

Of the actions that an element declares, none of these texts says when they are to run, what stands
in for them, and what is reported of them.  Without that an element is **bare**: elements that are
bare the same read the same (`ReadsAs.of_bare`), and a built-in primitive makes of a bare draft the
bare element that it makes of the draft (`Primitive.builtins_keepBare`).
-/

namespace RemoteScreen

/-! ## What is read -/

/-- What is written down of a dispatch: the type of its action, the text of the payload, and that of
what was entered. -/
structure Line where
  type : String
  payload : String
  input : Option String
  deriving DecidableEq

/-- The dispatch, written down. -/
def Dispatch.line (d : Dispatch) : Line :=
  ⟨d.action.type, (Json.obj d.action.payload).text, d.input.map Json.text⟩

/-- Takes all dispatches in, and writes them down. -/
def Sink.scribe : Sink Unit (List Line) := fun d lines => (.ok (), lines ++ [d.line])

namespace Element

/-- What becomes of an event at a place in an element, with the dispatches written down; none if
there is no such place. -/
def told (e : Element) (place : List Nat) (event : String) (value : Option Json) :
    Option (Except Unit Bool × List Line) :=
  (e.at? place).map (·.trigger (fun _ => Sink.scribe) event value [])

/-- **An element reads as another one**: as a text, and in what comes of its events, anywhere in
it. -/
structure ReadsAs (e e' : Element) : Prop where
  text : e.toJson.text = e'.toJson.text
  told : ∀ place event value, e.told place event value = e'.told place event value

end Element

/-! ## Bare elements -/

/-- An action without what no dispatch of it shows. -/
def Action.bare (a : Action) : Action :=
  { a with condition := none, fallback := none, analytics := none }

/-- The binding of the bare action. -/
def Binding.bare (b : Binding) : Binding := { b with declared := b.declared.map Action.bare }

/-- The handler with its action bare. -/
def Handler.bare : Handler → Handler
  | inert => inert
  | resetBoundary => resetBoundary
  | bound b => bound b.bare

namespace Element

mutual

/-- The element with all its actions, and those below it, bare. -/
def bare : Element → Element
  | ⟨kind, key, props, style, children, handlers, enabled⟩ =>
    ⟨kind, key, props, style, bareAll children, handlers.map fun h => (h.1, h.2.bare), enabled⟩

/-- The elements with all their actions, and those below them, bare. -/
def bareAll : List Element → List Element
  | [] => []
  | e :: es => bare e :: bareAll es

end

theorem bareAll_eq_map (es : List Element) : bareAll es = es.map bare := by
  induction es with
  | nil => rfl
  | cons e es ih => rw [bareAll, ih, List.map_cons]

mutual

/-- A bare element has the same value. -/
theorem toJson_bare : (e : Element) → e.bare.toJson = e.toJson
  | ⟨kind, key, props, style, children, handlers, enabled⟩ => by
    have hkeys : Keyed.keys (handlers.map fun h => (h.1, h.2.bare)) = Keyed.keys handlers := by
      simp [Keyed.keys]
    rw [bare, toJson, toJson, listToJson_bareAll children, hkeys]

/-- Bared elements are written like those with handlers. -/
theorem listToJson_bareAll : (es : List Element) → listToJson (bareAll es) = listToJson es
  | [] => rfl
  | e :: es => by rw [bareAll, listToJson, listToJson, toJson_bare e, listToJson_bareAll es]

end

/-- Baring an element moves none of its descendants. -/
theorem at?_bare (e : Element) (place : List Nat) : e.bare.at? place = (e.at? place).map bare := by
  induction place generalizing e with
  | nil => rfl
  | cons i place ih =>
    obtain ⟨kind, key, props, style, children, handlers, enabled⟩ := e
    rw [bare, at?, at?, bareAll_eq_map, List.getElem?_map]
    cases children[i]? with
    | none => rfl
    | some child => exact ih child

end Element

/-- A bare handler sets off dispatches that read the same. -/
theorem Handler.fire_bare (h : Handler) (value : Option Json) (lines : List Line) :
    h.bare.fire (fun _ => Sink.scribe) value lines = h.fire (fun _ => Sink.scribe) value lines := by
  cases h with
  | inert | resetBoundary => rfl
  | bound b =>
    obtain ⟨declared, capturesValue, meaning, componentId, sink⟩ := b
    cases declared <;> rfl

namespace Element

/-- A bared element answers a trigger like the one with its sinks. -/
theorem trigger_bare (e : Element) (event : String) (value : Option Json) (lines : List Line) :
    e.bare.trigger (fun _ => Sink.scribe) event value lines
      = e.trigger (fun _ => Sink.scribe) event value lines := by
  have hhandler : e.bare.handler? event = (e.handler? event).map Handler.bare := by
    obtain ⟨kind, key, props, style, children, handlers, enabled⟩ := e
    exact Keyed.get?_map (fun _ => Handler.bare) handlers event
  rw [trigger, trigger, hhandler]
  cases e.handler? event with
  | none => rfl
  | some h => simp only [Option.map_some, h.fire_bare]

/-- And so it is told what the other is told. -/
theorem told_bare (e : Element) (place : List Nat) (event : String) (value : Option Json) :
    e.bare.told place event value = e.told place event value := by
  rw [told, told, at?_bare, Option.map_map]
  exact congrArg (Option.map · _) (funext fun e => e.trigger_bare event value [])

/-- **Elements that are bare the same read the same.** -/
theorem ReadsAs.of_bare {e e' : Element} (h : e.bare = e'.bare) : e.ReadsAs e' where
  text := by rw [← toJson_bare e, h, toJson_bare]
  told place event value := by rw [← told_bare, h, told_bare]

end Element

/-! ## Factories -/

/-- A factory makes of a bare draft the bare element that it makes of the draft. -/
def Factory.KeepsBare (factory : Factory) : Prop :=
  ∀ draft, factory draft.bare = (factory draft).map Element.bare

/-- Each of these factories does. -/
def KeepBare (primitives : Keyed Factory) : Prop :=
  ∀ kind factory, primitives.get? kind = some factory → factory.KeepsBare

namespace Primitive

theorem plain_keepsBare : Factory.KeepsBare plain := fun _ => rfl

/-- The factory of texts heeds no handlers. -/
theorem text_keepsBare : Factory.KeepsBare text := by
  rintro ⟨kind, key, props, style, children, handlers, enabled⟩
  rfl

theorem switch_keepsBare : Factory.KeepsBare switch := by
  rintro ⟨kind, key, props, style, children, handlers, enabled⟩
  rfl

theorem image_keepsBare : Factory.KeepsBare image := by
  rintro ⟨kind, key, props, style, children, handlers, enabled⟩
  simp only [image, Element.bare]
  split <;> rfl

theorem icon_keepsBare : Factory.KeepsBare icon := by
  rintro ⟨kind, key, props, style, children, handlers, enabled⟩
  simp only [icon, Element.bare]
  split
  · split <;> rfl
  · rfl

/-- **No built-in primitive looks behind what is bare.** -/
theorem builtins_keepBare : KeepBare builtins := by
  intro kind factory hf
  obtain rfl | rfl | rfl | rfl | rfl := factory_of_builtins hf
  · exact plain_keepsBare
  · exact text_keepsBare
  · exact image_keepsBare
  · exact switch_keepsBare
  · exact icon_keepsBare

end Primitive

end RemoteScreen
