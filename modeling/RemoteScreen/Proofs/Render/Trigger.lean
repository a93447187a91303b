import Mathlib.Data.List.Forall2
import RemoteScreen.Element.Trigger
import RemoteScreen.Library.Standard
import RemoteScreen.Proofs.Render.Handlers
import RemoteScreen.Proofs.Render.Prune
import RemoteScreen.Proofs.Template.Exact

/-!
# Proofs/Render/Trigger — what comes of the events of a node

    typed ──▸ updateState, if the input has a purpose ──▸ declared action ──▸ outcome

A node listens to the events it declares actions for, and, if it is an input whose purpose is known,
to what is typed; a disabled node listens to none.  The element that is built for a node
**responds** as the node says (`Responds`), to any event, with or without a value, and with any sink
to take what is dispatched.
-/

namespace RemoteScreen

namespace Node

variable (n : Node) (patterns : Patterns) (context : Json)

/-- The guards of the node keep events from it. -/
def Disabled : Prop :=
  (∃ c ∈ n.guards.disable, c.holds patterns context = true)
    ∨ ∃ c ∈ n.guards.enable, c.holds patterns context = false

/-- What an input is for, as far as its id and its placeholder in a context tell. -/
def purpose : Option InputMeaning :=
  if n.kind = "TextInput" then
    InputMeaning.infer n.id ((n.props.get? "placeholder").map fun p =>
      ("placeholder", Json.interpolate context p)).toList
  else none

/-- The node listens to an event. -/
def Listens (event : String) : Prop :=
  (n.actions.get? event).isSome ∨ (event = "onChangeText" ∧ (n.purpose context).isSome)

/-- The dispatch that keeps what is typed, under the key of the purpose of the input. -/
def mirrored (event : String) (value : Option Json) : Option Dispatch :=
  if event = "onChangeText" then
    match n.purpose context, value with
    | some m, some v => some
      { action :=
          { type := "updateState", payload := [("key", .str m.stateKey)], componentId := n.id }
        overlay := none
        input := some v }
    | _, _ => none
  else none

/-- The dispatch of the action that is declared for an event. -/
def declared (event : String) (value : Option Json) : Option Dispatch :=
  (n.actions.get? event).map fun a =>
    { action := { a with componentId := a.componentId <|> n.id }
      overlay := none
      input := if event = "onChangeText" ∨ event = "onValueChange" then value else none }

end Node

/-- What a sink has come to after some dispatches, whatever their outcomes. -/
def Sink.after {ε τ : Type} (sink : Sink ε τ) (dispatches : List Dispatch) (t : τ) : τ :=
  dispatches.foldl (fun t d => (sink d t).2) t

/-- **An element responds as a node says**, which is rendered in a scope. -/
structure Responds (patterns : Patterns) (scope : Scope) (n : Node) (e : Element) : Prop where
  /-- A disabled element has no handlers, and says so. -/
  disabled : n.Disabled patterns scope.context →
    e.handlers = [] ∧ e.enabled = false ∧ e.props.get? "disabled" = some (.bool true)
  /-- Any other has handlers for the events that its node listens to. -/
  enabled : ¬ n.Disabled patterns scope.context →
    e.enabled = true ∧ ∀ event, (e.handler? event).isSome ↔ n.Listens scope.context event
  /-- Nothing comes of an event that nothing is bound to. -/
  unbound : ∀ {ε τ : Type} (sinks : Nat → Sink ε τ) (event : String) (value : Option Json) (t : τ),
    e.handler? event = none → e.trigger sinks event value t = (.ok false, t)
  /-- Of any other event comes what keeps the value, and then the declared action, whatever has come
  of the former. -/
  dispatches : ∀ {ε τ : Type} (sinks : Nat → Sink ε τ) (event : String) (value : Option Json)
    (t : τ), (e.handler? event).isSome →
      (e.trigger sinks event value t).2 = (sinks scope.sink).after
        ((n.mirrored scope.context event value).toList ++ (n.declared event value).toList) t
  /-- It fails as the declared action does. -/
  outcome : ∀ {ε τ : Type} (sinks : Nat → Sink ε τ) (event : String) (value : Option Json) (t : τ),
    (e.handler? event).isSome →
      (e.trigger sinks event value t).1 = (n.declared event value).elim (.ok true) fun d =>
        (sinks scope.sink d ((sinks scope.sink).after
          (n.mirrored scope.context event value).toList t)).1.map fun _ => true

namespace Node

variable {n : Node} {patterns : Patterns} {context : Json}

theorem meaning_propsIn : n.meaning (n.propsIn context) = n.purpose context := by
  have hplaceholder : (n.propsIn context).get? "placeholder"
      = Keyed.get? ((n.props.get? "placeholder").map fun p =>
        ("placeholder", Json.interpolate context p)).toList "placeholder" := by
    rw [propsIn, Json.interpolateFields_eq_map]
    refine (Keyed.get?_map (fun _ v => Json.interpolate context v) n.props _).trans ?_
    cases n.props.get? "placeholder" <;> rfl
  rw [meaning, purpose, InputMeaning.infer, InputMeaning.infer, hplaceholder]

/-- Guards disable a node if its own conditions say so. -/
theorem disables_iff : n.guards.disables patterns context = true ↔ n.Disabled patterns context := by
  rw [Guards.disables, Disabled]
  cases n.guards.disable <;> cases n.guards.enable <;> simp

/-- What a node binds for an event keeps what is typed, if the node says so. -/
theorem echo_binding (event : String) (sink : Nat) (value : Option Json) :
    (n.binding (n.purpose context) sink event).echo value = n.mirrored context event value := by
  by_cases he : event = "onChangeText" <;>
    simp only [Binding.echo, mirrored, binding, he, if_true, if_false]
  rfl

/-- What a node binds for an event runs the action that is declared for it. -/
theorem main_binding (event : String) (sink : Nat) (value : Option Json) :
    (n.binding (n.purpose context) sink event).main value = n.declared event value := by
  have hcomponent (a : Action) :
      a.inheritComponent n.id = { a with componentId := a.componentId <|> n.id } := by
    rw [Action.inheritComponent]
    cases h : a.componentId with
    | some id =>
      obtain ⟨_⟩ := a
      cases h
      rfl
    | none => rfl
  have hcaptures : valueEvents.contains event
      = decide (event = "onChangeText" ∨ event = "onValueChange") := by
    simp [valueEvents]
  simp only [Binding.main, declared, binding, Option.map_map, Function.comp_def, hcomponent,
    hcaptures, decide_eq_true_eq]

end Node

/-! ## What handlers do -/

section Fired

variable {ε τ : Type} (sinks : Nat → Sink ε τ) (b : Binding) (value : Option Json) (t : τ)

/-- What a handler dispatches is taken in in order, whatever the outcomes. -/
theorem Handler.fire_after : ((Handler.bound b).fire sinks value t).2
    = (sinks b.sink).after ((b.echo value).toList ++ (b.main value).toList) t := by
  rw [fire]
  cases b.echo value <;> cases b.main value <;> rfl

/-- A handler fails as the declared action does. -/
theorem Handler.fire_outcome : ((Handler.bound b).fire sinks value t).1
    = (b.main value).elim (.ok ()) fun d =>
      (sinks b.sink d ((sinks b.sink).after (b.echo value).toList t)).1 := by
  rw [fire]
  cases b.echo value <;> cases b.main value <;> rfl

end Fired

/-! ## What is built for a node responds -/

section Built

variable {rules : RenderRules} {scope : Scope} {n : Node} {e : Element}

/-- What is built of a draft by a factory that finishes it differs from it in little. -/
theorem BuiltFor.finishes (hf : AllFinish rules.primitives) (hb : BuiltFor rules scope n e) :
    ∃ children, (n.draft rules.patterns scope children).Finishes e := by
  obtain ⟨hknown, -, he⟩ := hb
  exact ⟨_, hf.of_built hknown he⟩

/-- **A disabled element has no handlers**, and says that it is disabled. -/
theorem BuiltFor.disabled (hf : AllFinish rules.primitives) (hb : BuiltFor rules scope n e)
    (hd : n.Disabled rules.patterns scope.context) :
    e.handlers = [] ∧ e.enabled = false ∧ e.props.get? "disabled" = some (.bool true) := by
  obtain ⟨children, hfinishes⟩ := hb.finishes hf
  have hdisables : n.guards.disables rules.patterns scope.context = true := Node.disables_iff.2 hd
  rw [hfinishes.handlers, hfinishes.enabled, hfinishes.disabled, Node.draft, hdisables]
  exact ⟨rfl, rfl, Keyed.get?_insert_self _ _ _⟩

/-- **The handler of an element is what its node binds**, if it listens to the event. -/
theorem BuiltFor.enabled (hf : AllFinish rules.primitives) (hb : BuiltFor rules scope n e)
    (hd : ¬ n.Disabled rules.patterns scope.context) :
    e.enabled = true ∧ ∀ event, e.handler? event = if (n.actions.get? event).isSome
        ∨ (event = "onChangeText" ∧ (n.purpose scope.context).isSome)
      then some (.bound (n.binding (n.purpose scope.context) scope.sink event)) else none := by
  obtain ⟨children, hfinishes⟩ := hb.finishes hf
  have hdisables : n.guards.disables rules.patterns scope.context = false :=
    Bool.eq_false_iff.2 ((not_congr Node.disables_iff).2 hd)
  refine ⟨?_, fun event => ?_⟩
  · rw [hfinishes.enabled, Node.draft, hdisables]
    rfl
  · rw [Element.handler?, hfinishes.handlers, Node.draft, hdisables, ← Node.meaning_propsIn]
    exact Node.handlers_get? ..

/-- What is bound is what the node binds. -/
theorem BuiltFor.handler?_of_isSome (hf : AllFinish rules.primitives)
    (hb : BuiltFor rules scope n e) {event : String} (hs : (e.handler? event).isSome) :
    e.handler? event = some (.bound (n.binding (n.purpose scope.context) scope.sink event)) := by
  by_cases hd : n.Disabled rules.patterns scope.context
  · rw [Element.handler?, (hb.disabled hf hd).1] at hs
    cases hs
  · rw [(hb.enabled hf hd).2 event] at hs ⊢
    split at hs
    · next hlistens => exact if_pos hlistens
    · cases hs

/-- **What is built for a node responds as the node says.** -/
theorem BuiltFor.responds (hf : AllFinish rules.primitives) (hb : BuiltFor rules scope n e) :
    Responds rules.patterns scope n e := by
  refine ⟨hb.disabled hf, fun hd => ⟨(hb.enabled hf hd).1, fun event => ?_⟩, ?_, ?_, ?_⟩
  · rw [(hb.enabled hf hd).2 event, Node.Listens]
    split <;> simp [*]
  · intro ε τ sinks event value t hnone
    rw [Element.trigger, hnone]
  · intro ε τ sinks event value t hs
    rw [Element.trigger, hb.handler?_of_isSome hf hs]
    simp only [Handler.fire_after, Node.echo_binding, Node.main_binding]
    rfl
  · intro ε τ sinks event value t hs
    rw [Element.trigger, hb.handler?_of_isSome hf hs]
    simp only [Handler.fire_outcome, Node.echo_binding, Node.main_binding]
    cases n.declared event value <;> rfl

theorem Element.all_eq (e : Element) : e.all = e :: Element.allIn e.children := by
  obtain ⟨_, _, _, _, _, _, _⟩ := e
  rw [Element.all]

theorem Node.all_eq (n : Node) : n.all = n :: Node.allIn n.children := by
  obtain ⟨_, _, _, _, _, _, _⟩ := n
  rw [Node.all]

mutual

/-- All that is below what is built for a node is built for what is below the node, in order. -/
theorem BuiltFor.all (hf : AllFinish rules.primitives) {n : Node} {e : Element} :
    BuiltFor rules scope n e → List.Forall₂ (BuiltFor rules scope) n.all e.all
  | .mk hknown below he => by
    rw [Node.all_eq, Element.all_eq, (hf.of_built hknown he).children]
    exact .cons (.mk hknown below he) (below.allIn hf)

/-- Elements and the nodes they were built for correspond, all the way down. -/
theorem AllBuiltFor.allIn (hf : AllFinish rules.primitives) {nodes : List Node}
    {elements : List Element} : AllBuiltFor rules scope nodes elements →
    List.Forall₂ (BuiltFor rules scope) (Node.allIn nodes) (Element.allIn elements)
  | .nil => .nil
  | .cons first others => by
    rw [Node.allIn, Element.allIn]
    exact List.rel_append (first.all hf) (others.allIn hf)

end

end Built

/-- **Every element of a rendered tree responds as its node says**, also where it has been kept.
What is kept of a node shows for any node that is equal as data, and these can differ in the sign of
a zero; so a tree with a negative zero is one of which nothing is kept. -/
theorem renderTree_responds (config : RendererConfig) (patterns : Patterns) {scopes : Scopes}
    {scope : Scope}
    (hs : scopes.mem scope) {tree : List Node} {s : RenderState}
    (hm : s.memo.Sound ⟨Primitive.builtins, config, patterns⟩ scopes)
    (ht : s.memo = [] ∨ Number.negZero ∉ Node.allNumbers tree) :
    let rules : RenderRules := ⟨Primitive.builtins, config, patterns⟩
    ∃ elements, (renderTree rules scope tree s).1 = .ok elements
      ∧ List.Forall₂ (Responds patterns scope)
        (Node.allIn (Node.pruneAll rules scope.context 1 tree)) (Element.allIn elements) := by
  intro rules
  have hf : AllFinish rules.primitives := Primitive.builtins_finish
  obtain ⟨elements, hall⟩ : ∃ elements, elementsAt rules scope 0 tree = .ok elements :=
    elementsAt_isOk hf 0 tree
  have hrender : (renderTree rules scope tree s).1 = elementsAt rules scope 0 tree := by
    rcases ht with hnil | hclean
    · exact renderTree_of_nil rules scope tree hnil
    · exact (renderTree_agrees hs hclean hm).outcome
  exact ⟨elements, hrender.trans hall,
    ((allBuiltFor_pruneAll tree hall).allIn hf).imp fun _ _ hb => hb.responds hf⟩

/-- An input for a phone number, with an action for what is typed. -/
def Node.phoneInput : Node where
  kind := "TextInput"
  id := some "field"
  props := [("placeholder", .str "Your \x7b\x7bdevice\x7d\x7d")]
  actions := [("onChangeText", { type := "analytics" })]

/-- What is typed reaches both actions, though the first one fails. -/
theorem renderTree_responds_phoneInput :
    let scope := Scope.ofData (.obj [("device", .str "mobile")]) 0
    let sink : Sink String (List Dispatch) := fun d taken =>
      (if d.action.type = "updateState" then .error "refused" else .ok (), taken ++ [d])
    ∃ elements,
      (renderTree ⟨Primitive.builtins, {}, Pattern.dialect⟩ scope [.phoneInput] {}).1 = .ok elements
      ∧ ∃ e ∈ Element.allIn elements,
        e.trigger (fun _ => sink) "onChangeText" (some (.str "555")) [] = (.ok true,
          [{ action := { type := "updateState", payload := [("key", .str "phoneNumber")]
                         componentId := some "field" }
             input := some (.str "555") },
           { action := { type := "analytics", componentId := some "field" }
             input := some (.str "555") }]) := by
  intro scope sink
  let scopes : Scopes := ⟨(· = scope), fun _ _ hs ht _ => hs.trans ht.symm⟩
  have hscope : scopes.mem scope := rfl
  obtain ⟨elements, hrender, hresponds⟩ : ∃ elements,
      (renderTree ⟨Primitive.builtins, {}, Pattern.dialect⟩ scope [.phoneInput] {}).1 = .ok elements
        ∧ List.Forall₂ (Responds Pattern.dialect scope) [.phoneInput] (Element.allIn elements) :=
    renderTree_responds {} Pattern.dialect hscope Memo.sound_nil (.inl rfl)
  obtain ⟨e, es, he, -, helements⟩ := List.forall₂_cons_left_iff.1 hresponds
  refine ⟨elements, hrender, e, helements ▸ List.mem_cons_self, ?_⟩
  have henabled : ¬ Node.phoneInput.Disabled Pattern.dialect scope.context := by
    simp [Node.Disabled, Node.phoneInput]
  have hbound : (e.handler? "onChangeText").isSome :=
    ((he.enabled henabled).2 "onChangeText").2 (.inl rfl)
  have hpurpose : Node.phoneInput.purpose scope.context = some .phone := by decide +kernel
  have hmirrored : Node.phoneInput.mirrored scope.context "onChangeText" (some (.str "555"))
      = some { action := InputMeaning.phone.stateUpdate (some "field")
               input := some (.str "555") } := by
    unfold Node.mirrored
    rw [hpurpose]
    rfl
  refine Prod.ext ?_ ?_
  · rw [he.outcome _ _ _ _ hbound, hmirrored]
    rfl
  · rw [he.dispatches _ _ _ _ hbound, hmirrored]
    rfl

end RemoteScreen
