import RemoteScreen.Engine.Basic
import RemoteScreen.Proofs.Json.Strings

/-!
# Proofs/Engine/Key — what a key says of a dispatch

    log|{"message":"typed"}|name|5
    type        payload      component and value entered

The parts of a key are joined by bars, and a bar may stand in each of them.  The payload and the
value entered are texts of values, which say themselves where they end; the type and the component
do not.  `Dispatch.of_key_eq` says what two dispatches with one key have in common: **all four
parts**, unless a type has a bar in it, or the component of one **reads like** the component of the
other with the value entered behind it.  The second thing does happen
(`Dispatch.not_identified_by_key`).
-/

namespace RemoteScreen.Dispatch

variable {d d' : Dispatch}

/-- The component of a dispatch, empty if it has none. -/
def component (d : Dispatch) : String := d.action.componentId.getD ""

/-- What stands in the key of the value entered. -/
def inputChars (d : Dispatch) : List Char :=
  match d.input with
  | none => []
  | some v => '|' :: v.chars

/-- The key as characters: type, payload, component and input with bars between them. -/
theorem key_toList (d : Dispatch) :
    d.key.toList = d.action.type.toList ++ '|' :: ((Json.obj d.action.payload).chars
      ++ '|' :: (d.component.toList ++ d.inputChars)) := by
  obtain ⟨action, overlay, input⟩ := d
  cases input <;> simp [key, Action.identity, inputChars, component, Json.text]

/-- Where two texts go on with a bar, one of them has a bar in it if they differ. -/
theorem bar_mem_of_append {as bs s t : List Char} (h : as ++ '|' :: s = bs ++ '|' :: t)
    (hne : as ≠ bs) : '|' ∈ as ∨ '|' ∈ bs := by
  rcases List.append_eq_append_iff.1 h with ⟨cs, rfl, hs⟩ | ⟨cs, rfl, ht⟩
  · cases cs with
    | nil => simp at hne
    | cons c cs =>
      obtain rfl : '|' = c := (List.cons.inj hs).1
      exact .inr (by simp)
  · cases cs with
    | nil => simp at hne
    | cons c cs =>
      obtain rfl : '|' = c := (List.cons.inj ht).1
      exact .inl (by simp)

/-- Where two texts go on with a bar and the text of a value, both are the same. -/
theorem append_bar_chars {as bs : List Char} {v w : Json}
    (h : as ++ '|' :: v.chars = bs ++ '|' :: w.chars) : as = bs ∧ v = w := by
  have hsame {v w : Json} (h : v.chars = w.chars) : v = w :=
    Json.text_injective (congrArg String.ofList h)
  rcases List.append_eq_append_iff.1 h with ⟨cs, rfl, hs⟩ | ⟨cs, rfl, ht⟩
  · cases cs with
    | nil => exact ⟨by simp, hsame (List.cons.inj hs).2⟩
    | cons c cs => exact absurd (List.cons.inj hs).2 (Json.chars_ne_append_bar v w cs)
  · cases cs with
    | nil => exact ⟨by simp, hsame (List.cons.inj ht).2.symm⟩
    | cons c cs => exact absurd (List.cons.inj ht).2 (Json.chars_ne_append_bar w v cs)

/-- No value is entered, and the component reads like that of another dispatch with the value
entered there. -/
def ReadsLike (d d' : Dispatch) : Prop :=
  d.input = none ∧ ∃ v, d'.input = some v ∧ d.component = d'.component ++ "|" ++ v.text

/-- The component and the value entered are told, unless one reads like the other. -/
theorem component_and_input
    (h : d.component.toList ++ d.inputChars = d'.component.toList ++ d'.inputChars) :
    (d.component = d'.component ∧ d.input = d'.input) ∨ d.ReadsLike d' ∨ d'.ReadsLike d := by
  have hlike {d : Dispatch} {component : String} {v : Json}
      (h : component.toList = d.component.toList ++ '|' :: v.chars) :
      component = d.component ++ "|" ++ v.text := by
    refine String.toList_inj.1 ?_
    simp [h, Json.text]
  rw [inputChars, inputChars] at h
  cases hi : d.input with
  | none =>
    cases hi' : d'.input with
    | none =>
      simp only [hi, hi', List.append_nil] at h
      exact .inl ⟨String.toList_inj.1 h, rfl⟩
    | some v =>
      simp only [hi, hi', List.append_nil] at h
      exact .inr (.inl ⟨hi, v, hi', hlike h⟩)
  | some v =>
    cases hi' : d'.input with
    | none =>
      simp only [hi, hi', List.append_nil] at h
      exact .inr (.inr ⟨hi', v, hi, hlike h.symm⟩)
    | some w =>
      simp only [hi, hi'] at h
      obtain ⟨hc, rfl⟩ := append_bar_chars h
      exact .inl ⟨String.toList_inj.1 hc, rfl⟩

/-- **Dispatches with one key** have type, payload, component and value entered in common — unless
their types differ and one of these has a bar in it, or the component of one reads like that of the
other with the value entered there. -/
theorem of_key_eq (hk : d.key = d'.key) :
    (d.action.type ≠ d'.action.type
        ∧ ('|' ∈ d.action.type.toList ∨ '|' ∈ d'.action.type.toList))
      ∨ (d.action.type = d'.action.type ∧ d.action.payload = d'.action.payload
        ∧ ((d.component = d'.component ∧ d.input = d'.input)
          ∨ d.ReadsLike d' ∨ d'.ReadsLike d)) := by
  have h := congrArg String.toList hk
  rw [key_toList, key_toList] at h
  by_cases htype : d.action.type = d'.action.type
  · rw [htype] at h
    have hbar (s : List Char) : Json.Delimits ('|' :: s) := by
      simp [Json.Delimits]
      decide
    have hrest := (List.cons.inj (List.append_cancel_left h)).2
    obtain ⟨hp, hend⟩ := Json.chars_append _ _ (hbar _) (hbar _) hrest
    exact .inr ⟨htype, Json.obj.inj hp, component_and_input (List.cons.inj hend).2⟩
  · exact .inl ⟨htype, bar_mem_of_append h fun he => htype (String.toList_inj.1 he)⟩

/-- A line for the log, from a component, maybe with a value entered there. -/
def typed (component : String) (input : Option Json) : Dispatch :=
  { action :=
      { type := "log", payload := [("message", .str "typed")], componentId := some component }
    input }

/-- **Equal keys of different dispatches**: a bar in the name reads like a bar before the input. -/
theorem of_key_eq_typed :
    (typed "name|5" none).key = (typed "name" (some (.ofNat 5))).key
      ∧ (typed "name|5" none).ReadsLike (typed "name" (some (.ofNat 5))) := by
  have hk : (typed "name|5" none).key = (typed "name" (some (.ofNat 5))).key := by decide +kernel
  refine ⟨hk, ?_⟩
  rcases of_key_eq hk with ⟨htype, -⟩ | ⟨-, -, ⟨-, hinput⟩ | hlike | ⟨hnone, -⟩⟩
  · exact absurd rfl htype
  · cases hinput
  · exact hlike
  · cases hnone

/-- **A key does not tell the dispatches apart**: a component named like another one with the value
5 entered there has its key. -/
theorem not_identified_by_key :
    ¬ ∀ d d' : Dispatch, d.key = d'.key →
      d.action.type = d'.action.type ∧ d.action.payload = d'.action.payload
        ∧ d.component = d'.component ∧ d.input = d'.input := by
  intro hall
  have hk : (typed "name|5" none).key = (typed "name" (some (.ofNat 5))).key := by decide +kernel
  obtain ⟨-, -, -, hinput⟩ := hall _ _ hk
  cases hinput

end RemoteScreen.Dispatch
