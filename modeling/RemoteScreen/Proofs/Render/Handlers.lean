import Mathlib.Logic.Relation
import RemoteScreen.Proofs.Primitive
import RemoteScreen.Proofs.Render.Memo

/-!
# Proofs/Render/Handlers — where the handlers of a screen come from

A node binds one handler for an event: the action it declares for it, and, for an input of known
meaning, the one that keeps what is typed (`Node.binding`).  Factories bind nothing by themselves.
A memo shows what it has kept of a node for every node that is equal as data, so what shows for one
node may have been bound by another one that was **taken for** it.

* `Node.handlers_get?` — a node binds `Node.binding` for an event, or nothing;
* `renderTree_bound` — **rendering binds what the nodes of the tree bind, and nothing else**, also
  where it shows what was kept.
-/

namespace RemoteScreen

/-! ## What a node binds -/

namespace Node

/-- What a node binds for an event, its input being of some meaning. -/
def binding (n : Node) (meaning : Option InputMeaning) (sink : Nat) (event : String) : Binding where
  declared := (n.actions.get? event).map (·.inheritComponent n.id)
  capturesValue := valueEvents.contains event
  meaning := if event = "onChangeText" then meaning else none
  componentId := n.id
  sink

/-- **A node binds one handler for an event**, if it declares an action for it or keeps what is
typed. -/
theorem handlers_get? (n : Node) (props : Fields) (sink : Nat) (event : String) :
    (n.handlers props sink).get? event
      = if (n.actions.get? event).isSome ∨ (event = "onChangeText" ∧ (n.meaning props).isSome)
        then some (.bound (n.binding (n.meaning props) sink event)) else none := by
  have hdeclared (event : String) :
      Keyed.get? (n.actions.map fun a => (a.1, n.bind (n.meaning props) sink a.1 a.2)) event
        = (n.actions.get? event).map fun a => n.bind (n.meaning props) sink event a :=
    Keyed.get?_map _ _ _
  rw [handlers]
  cases hm : n.meaning props with
  | none =>
    rw [hm] at hdeclared
    simp only [hdeclared]
    cases ha : n.actions.get? event <;> simp [binding, bind, ha]
  | some m =>
    rw [hm] at hdeclared
    simp only []
    split
    · next hcontains =>
      rw [Keyed.contains, hdeclared] at hcontains
      rw [hdeclared]
      cases ha : n.actions.get? event with
      | some a => simp [binding, bind, ha]
      | none =>
        have hother : event ≠ "onChangeText" := by
          rintro rfl
          simp [ha] at hcontains
        simp [hother]
    · next hcontains =>
      rw [Keyed.contains, hdeclared] at hcontains
      rw [Keyed.get?_insert, hdeclared]
      by_cases he : "onChangeText" = event
      · subst he
        have ha : n.actions.get? "onChangeText" = none := by simpa using hcontains
        simp [binding, ha, valueEvents]
      · cases ha : n.actions.get? event <;> simp [binding, bind, ha, he, Ne.symm he]

end Node

/-! ## What factories bind -/

namespace Element

/-- An element, or one below it, has the handler for the event. -/
def Handles (e : Element) (event : String) (handler : Handler) : Prop :=
  ∃ below ∈ e.all, below.handler? event = some handler

/-- One of some elements, or one below it, has the handler for the event. -/
def AnyHandles (es : List Element) (event : String) (handler : Handler) : Prop :=
  ∃ below ∈ allIn es, below.handler? event = some handler

variable {event : String} {handler : Handler}

theorem handles_iff {e : Element} : e.Handles event handler
    ↔ e.handler? event = some handler ∨ AnyHandles e.children event handler := by
  obtain ⟨kind, key, props, style, children, handlers, enabled⟩ := e
  simp [Handles, AnyHandles, all]

theorem anyHandles_cons {e : Element} {es : List Element} :
    AnyHandles (e :: es) event handler ↔ e.Handles event handler ∨ AnyHandles es event handler := by
  simp only [AnyHandles, Handles, allIn, List.mem_append]
  grind

theorem not_anyHandles_nil : ¬ AnyHandles [] event handler := by simp [AnyHandles, allIn]

theorem anyHandles_append {es fs : List Element} :
    AnyHandles (es ++ fs) event handler
      ↔ AnyHandles es event handler ∨ AnyHandles fs event handler := by
  induction es with
  | nil => simp [not_anyHandles_nil]
  | cons e es ih => rw [List.cons_append, anyHandles_cons, anyHandles_cons, ih, or_assoc]

/-- Handlers and children decide what is handled. -/
theorem handles_congr {e draft : Element} (hh : e.handlers = draft.handlers)
    (hc : e.children = draft.children) : e.Handles event handler ↔ draft.Handles event handler := by
  rw [handles_iff, handles_iff, handler?, handler?, hh, hc]

end Element

/-- A factory binds nothing by itself: what it builds has no handler that its draft has not. -/
def Factory.BindsNothing (factory : Factory) : Prop :=
  ∀ draft e, factory draft = .ok e → ∀ event handler, e.Handles event handler →
    draft.Handles event handler

/-- None of these factories binds anything by itself. -/
def BindNothing (primitives : Keyed Factory) : Prop :=
  ∀ kind factory, primitives.get? kind = some factory → factory.BindsNothing

/-- A factory that passes handlers and children on binds nothing of its own. -/
theorem Factory.bindsNothing_of_frame {factory : Factory}
    (hf : ∀ draft e, factory draft = .ok e →
      e.handlers = draft.handlers ∧ e.children = draft.children) : factory.BindsNothing :=
  fun draft e he _ _ hh => (Element.handles_congr (hf draft e he).1 (hf draft e he).2).1 hh

namespace Primitive

/-- **The built-in primitives bind nothing by themselves.** -/
theorem builtins_bindNothing : BindNothing builtins := by
  intro kind factory hf
  refine Factory.bindsNothing_of_frame fun draft e he => ?_
  have hfinishes := builtins_finish.of_built hf he
  exact ⟨hfinishes.handlers, hfinishes.children⟩

end Primitive

/-! ## What a memo takes for one another -/

namespace Node

mutual

/-- A node and all below it, each before its children. -/
def all : Node → List Node
  | n@⟨_, _, _, _, children, _, _⟩ => n :: allIn children

/-- Nodes and all below them. -/
def allIn : List Node → List Node
  | [] => []
  | n :: ns => all n ++ allIn ns

end

theorem mem_all_self (n : Node) : n ∈ n.all := by
  obtain ⟨_, _, _, _, _, _, _⟩ := n
  simp [all]

/-- What shows for a node can have been kept for this one, which is **taken for** it: they are equal
as data, at once or by way of others. -/
def TakenFor : Node → Node → Prop := Relation.ReflTransGen fun n m => n.same m = true

mutual

/-- **What lies below a node is taken for something below a node like it.** -/
theorem below_of_same : (n m : Node) → n.same m = true → ∀ a ∈ n.all, ∃ b ∈ m.all, a.TakenFor b
  | ⟨k, i, p, s, cs, as, g⟩, ⟨k', i', p', s', cs', as', g'⟩, h, a, ha => by
    have hcs : sameAll cs cs' = true := by
      simp only [same, Bool.and_eq_true] at h
      exact h.1.1.2
    rw [all] at ha ⊢
    rcases List.mem_cons.1 ha with rfl | ha
    · exact ⟨_, List.mem_cons_self, .single h⟩
    · obtain ⟨b, hb, hab⟩ := belowIn_of_same cs cs' hcs a ha
      exact ⟨b, List.mem_cons_of_mem _ hb, hab⟩

theorem belowIn_of_same : (ns ms : List Node) → sameAll ns ms = true →
    ∀ a ∈ allIn ns, ∃ b ∈ allIn ms, a.TakenFor b
  | [], _, _, _, ha => by simp [allIn] at ha
  | n :: ns, [], h, _, _ => by simp [sameAll] at h
  | n :: ns, m :: ms, h, a, ha => by
    simp only [sameAll, Bool.and_eq_true] at h
    rw [allIn, List.mem_append] at ha
    rcases ha with ha | ha
    · obtain ⟨b, hb, hab⟩ := below_of_same n m h.1 a ha
      exact ⟨b, by rw [allIn]; exact List.mem_append_left _ hb, hab⟩
    · obtain ⟨b, hb, hab⟩ := belowIn_of_same ns ms h.2 a ha
      exact ⟨b, by rw [allIn]; exact List.mem_append_right _ hb, hab⟩

end

/-- The handler is what a node binds for the event that is taken for one of a tree. -/
def BindIn (tree : List Node) (event : String) (handler : Handler) : Prop :=
  ∃ m ∈ allIn tree, ∃ n : Node, n.TakenFor m ∧ ∃ context sink,
    handler = .bound (n.binding (n.meaning (n.propsIn context)) sink event)

variable {event : String} {handler : Handler}

/-- What a kept node binds is bound by the one that it is taken for. -/
theorem BindIn.same {n m : Node} (hb : BindIn [n] event handler) (h : n.same m = true) :
    BindIn [m] event handler := by
  obtain ⟨a, ha, n', hn', hbound⟩ := hb
  obtain ⟨b, hb, hab⟩ := below_of_same n m h a (by simpa [allIn] using ha)
  exact ⟨b, by simpa [allIn] using hb, n', hn'.trans hab, hbound⟩

/-- What the children bind is bound by the node and all below it. -/
theorem BindIn.parent {n : Node} (hb : BindIn n.children event handler) :
    BindIn [n] event handler := by
  obtain ⟨m, hm, hbound⟩ := hb
  obtain ⟨_, _, _, _, _, _, _⟩ := n
  exact ⟨m, by simp [allIn, all, hm], hbound⟩

theorem BindIn.head {n : Node} {ns : List Node} (hb : BindIn [n] event handler) :
    BindIn (n :: ns) event handler := by
  obtain ⟨m, hm, hbound⟩ := hb
  exact ⟨m, by simp only [allIn, List.append_nil] at hm; simp [allIn, hm], hbound⟩

theorem BindIn.tail {n : Node} {ns : List Node} (hb : BindIn ns event handler) :
    BindIn (n :: ns) event handler := by
  obtain ⟨m, hm, hbound⟩ := hb
  exact ⟨m, by simp [allIn, hm], hbound⟩

/-- **A draft has the handlers of its node and of its children.** -/
theorem handles_draft {n : Node} {patterns : Patterns} {scope : Scope} {elements : List Element}
    (hh : (n.draft patterns scope elements).Handles event handler)
    (hc : Element.AnyHandles elements event handler → BindIn n.children event handler) :
    BindIn [n] event handler := by
  rcases Element.handles_iff.1 hh with hown | hbelow
  · simp only [draft, Element.handler?] at hown
    split at hown
    · simp at hown
    · rw [handlers_get?] at hown
      split at hown
      · exact ⟨n, by simp [allIn, mem_all_self], n, .refl, scope.context, scope.sink,
          (Option.some.inj hown).symm⟩
      · cases hown
  · exact (hc hbelow).parent

end Node

/-! ## What rendering binds -/

/-- The handlers of what is kept are bound by the nodes that it is kept for. -/
def Memo.Bound (memo : Memo) : Prop :=
  ∀ position entry, (position, entry) ∈ memo → ∀ event handler,
    Element.AnyHandles entry.element.toList event handler → Node.BindIn [entry.node] event handler

namespace Memo

variable {memo : Memo}

theorem bound_nil : Bound [] := fun _ _ hm => by cases hm

/-- What is found among bound entries has only handlers of its node. -/
theorem Bound.kept? (hm : memo.Bound) {position : Position} {stamp : Stamp} {node : Node}
    {element : Option Element} (hk : memo.kept? position stamp node = some element)
    {event : String} {handler : Handler}
    (hh : Element.AnyHandles element.toList event handler) : Node.BindIn [node] event handler := by
  obtain ⟨entry, hmem, -, hsame, rfl⟩ := mem_of_kept? hk
  exact (hm position entry hmem event handler hh).same hsame

theorem Bound.keep (hm : memo.Bound) {position : Position} {entry : MemoEntry}
    (he : ∀ event handler, Element.AnyHandles entry.element.toList event handler →
      Node.BindIn [entry.node] event handler) (capacity : Nat) :
    (memo.keep capacity position entry).Bound := by
  intro position' entry' hmem
  rcases mem_keep hmem with heq | hmem
  · obtain ⟨rfl, rfl⟩ := Prod.mk.inj heq
    exact he
  · exact hm position' entry' hmem

end Memo

variable {rules : RenderRules} {scope : Scope}

/-- What rendering comes to has no handlers but those that these nodes bind, and nor has what is
kept. -/
structure Binds {α : Type} (nodes : List Node) (elements : α → List Element) (r : Rendering α) :
    Prop where
  outcome : ∀ a, r.1 = .ok a → ∀ event handler, Element.AnyHandles (elements a) event handler →
    Node.BindIn nodes event handler
  memo : r.2.memo.Bound

namespace Binds

variable {node : Node} {s : RenderState}

theorem nothing (hm : s.memo.Bound) : Binds [node] Option.toList (.ok none, s) := by
  refine ⟨fun a ha event handler hh => ?_, hm⟩
  obtain rfl := Except.ok.inj ha
  exact (Element.not_anyHandles_nil hh).elim

/-- What has been worked out is kept. -/
theorem keep {element : Option Element} (hm : s.memo.Bound)
    (hb : ∀ event handler, Element.AnyHandles element.toList event handler →
      Node.BindIn [node] event handler) (capacity : Nat) (position : Position) (stamp : Stamp) :
    Binds [node] Option.toList (.ok element, s.keep capacity position ⟨stamp, node, element⟩) := by
  refine ⟨fun a ha => ?_, hm.keep hb _⟩
  obtain rfl := Except.ok.inj ha
  exact hb

end Binds

mutual

/-- **What a node yields has only its own handlers and those below it.** -/
theorem Yields.binds (hf : BindNothing rules.primitives) {depth position node s r} :
    Yields rules scope depth position node s r → s.memo.Bound → Binds [node] Option.toList r
  | .deep _, hm => .nothing hm
  | .kept _ hk, hm => by
    refine ⟨fun a ha event handler hh => ?_, hm⟩
    obtain rfl := Except.ok.inj ha
    exact hm.kept? hk hh
  | .closed _ _ _, hm => by
    refine .keep hm (fun event handler hh => ?_) _ _ _
    exact (Element.not_anyHandles_nil hh).elim
  | .lost _ all, hm => ⟨fun _ ha => (nomatch ha), (all.binds hf hm).memo⟩
  | .failed _ all _, hm => ⟨fun _ ha => (nomatch ha), (all.binds hf hm).memo⟩
  | .built w all he, hm => by
    have hall := all.binds hf hm
    refine .keep (s := RenderState.called _ _ _) hall.memo (fun event handler hh => ?_) _ _ _
    have hdraft := hf _ _ w.known _ _ he event handler
      (by simpa [Element.anyHandles_cons, Element.not_anyHandles_nil] using hh)
    exact Node.handles_draft hdraft fun hc => hall.outcome _ rfl event handler hc

theorem AllYield.binds (hf : BindNothing rules.primitives) {depth position index nodes s r} :
    AllYield rules scope depth position index nodes s r → s.memo.Bound →
    Binds nodes (fun es => es) r
  | .nil, hm => by
    refine ⟨fun a ha event handler hh => ?_, hm⟩
    obtain rfl := Except.ok.inj ha
    exact (Element.not_anyHandles_nil hh).elim
  | .lost first, hm => ⟨fun _ ha => (nomatch ha), (first.binds hf hm).memo⟩
  | .cons (r := ⟨outcome, _⟩) first others, hm => by
    have hfirst := first.binds hf hm
    have hothers := others.binds hf hfirst.memo
    refine ⟨fun a ha event handler hh => ?_, hothers.memo⟩
    cases outcome with
    | error e => cases ha
    | ok elements =>
      obtain rfl := Except.ok.inj ha
      rcases Element.anyHandles_append.1 hh with hh | hh
      · exact (hfirst.outcome _ rfl event handler hh).head
      · exact (hothers.outcome _ rfl event handler hh).tail

end

/-- **Rendering binds what the nodes of the tree bind, and nothing else.** -/
theorem renderTree_bound (rules : RenderRules) (hf : BindNothing rules.primitives)
    (tree : List Node) {s : RenderState} (hm : s.memo.Bound) :
    Binds tree (fun es => es) (renderTree rules scope tree s) :=
  (renderTree_yields rules scope tree s).binds hf hm

end RemoteScreen
