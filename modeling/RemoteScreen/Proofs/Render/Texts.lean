import RemoteScreen.Library.Standard
import RemoteScreen.Proofs.Condition.Alike
import RemoteScreen.Proofs.Element.Texts
import RemoteScreen.Proofs.Json.Records
import RemoteScreen.Proofs.Render.Fresh
import RemoteScreen.Proofs.Render.Prune

/-!
# Proofs/Render/Texts — equal nodes and what is read of them

A memo takes a node for another one that is equal as data, and so `0.0` for `-0.0`, which are
written differently (`Node.not_readsAs_of_same`).  Not all numbers of a node are written out,
though: those in its guards are compared by value, and those in the conditions of its actions are
not looked at.  So **nodes that are equal as data read the same with nothing kept, if the same
numbers are written out of both** (`Node.readsAs_of_same`); and what is written out of both can
differ in the sign of a zero at most (`Node.written_alike`).
-/

namespace RemoteScreen

open Number (Alike)

/-! ## Guards -/

namespace Guards

/-- The numbers in the operands of guards that may be spelled out. -/
def spelled (g : Guards) : List Number :=
  [g.show, g.hide, g.enable, g.disable].flatMap (optionNumbers Condition.spelled)

/-- A guard that is there in both says the same. -/
theorem map_holds_alike {c d : Option Condition} (h : sameOption Condition.same c d = true)
    (heq : optionNumbers Condition.spelled c = optionNumbers Condition.spelled d)
    (patterns : Patterns) (context : Json) :
    c.map (·.holds patterns context) = d.map (·.holds patterns context) := by
  match c, d with
  | none, none => rfl
  | some c, some d =>
    exact congrArg some (Condition.holds_alike h (by simpa [optionNumbers] using heq))

/-- Guards let a node through that is not hidden, and is shown where they ask for it. -/
theorem lets_eq (g : Guards) (patterns : Patterns) (context : Json) :
    g.lets patterns context = (!(g.hide.map (·.holds patterns context)).any id
      && (g.show.map (·.holds patterns context)).all id) := by
  rw [lets]
  cases g.hide <;> cases g.show <;> rfl

/-- A node is disabled if a condition says so, or one asks for it to be enabled and does not hold.
-/
theorem disables_eq (g : Guards) (patterns : Patterns) (context : Json) :
    g.disables patterns context = ((g.disable.map (·.holds patterns context)).any id
      || (g.enable.map (·.holds patterns context)).any (!·)) := by
  rw [disables]
  cases g.disable <;> cases g.enable <;> rfl

variable {g g' : Guards}

theorem spelled_alike (h : g.same g' = true) : Alike g.spelled g'.spelled := by
  have hguard {c d : Option Condition} (hc : sameOption Condition.same c d = true) :=
    optionNumbers_alike Condition.spelled_alike hc
  simp only [same, Bool.and_eq_true] at h
  exact (hguard h.1.1.1).append ((hguard h.1.1.2).append ((hguard h.1.2).append
    ((hguard h.2).append .nil)))

/-- **Guards that are equal as data let a node show, and keep events from it, alike**, if they spell
out the same numbers. -/
theorem alike (h : g.same g' = true) (heq : g.spelled = g'.spelled) (patterns : Patterns)
    (context : Json) :
    g.lets patterns context = g'.lets patterns context
      ∧ g.disables patterns context = g'.disables patterns context := by
  have hguard {c d : Option Condition} (hc : sameOption Condition.same c d = true) :=
    optionNumbers_alike Condition.spelled_alike hc
  simp only [same, Bool.and_eq_true] at h
  obtain ⟨hshow, heq⟩ := (hguard h.1.1.1).append_inj heq
  obtain ⟨hhide, heq⟩ := (hguard h.1.1.2).append_inj heq
  obtain ⟨henable, heq⟩ := (hguard h.1.2).append_inj heq
  obtain ⟨hdisable, -⟩ := (hguard h.2).append_inj heq
  rw [lets_eq, lets_eq, disables_eq, disables_eq, map_holds_alike h.1.1.1 hshow patterns context,
    map_holds_alike h.1.1.2 hhide patterns context,
    map_holds_alike h.1.2 henable patterns context, map_holds_alike h.2 hdisable patterns context]
  exact ⟨rfl, rfl⟩

end Guards

/-! ## Drafts -/

/-- The numbers in the payload of an action. -/
def Action.payloadNumbers (a : Action) : List Number := Json.fieldNumbers a.payload

theorem Action.payloadNumbers_alike (a b : Action) (h : a.same b = true) :
    Alike a.payloadNumbers b.payloadNumbers := by
  obtain ⟨t, p, c, th, d, r, f, an, i⟩ := a
  obtain ⟨t', p', c', th', d', r', f', an', i'⟩ := b
  rw [same.eq_def] at h
  simp only [Bool.and_eq_true] at h
  exact Json.fieldNumbers_alike p p' h.1.1.1.1.1.1.1.2

/-- Equal actions are bare the same, if their payloads have the same numbers. -/
theorem Action.bare_eq_of_same (a b : Action) (h : a.same b = true)
    (heq : a.payloadNumbers = b.payloadNumbers) : a.bare = b.bare := by
  obtain ⟨t, p, c, th, d, r, f, an, i⟩ := a
  obtain ⟨t', p', c', th', d', r', f', an', i'⟩ := b
  rw [same.eq_def] at h
  simp only [Bool.and_eq_true, beq_iff_eq] at h
  obtain ⟨⟨⟨⟨⟨⟨⟨⟨rfl, hp⟩, -⟩, rfl⟩, rfl⟩, rfl⟩, -⟩, -⟩, rfl⟩ := h
  rw [bare, bare, show p = p' from Json.eq_of_fieldNumbers p p' hp heq]

theorem Action.bare_inheritComponent (a : Action) (id : Option String) :
    (a.inheritComponent id).bare = a.bare.inheritComponent id := by
  obtain ⟨t, p, c, th, d, r, f, an, i⟩ := a
  cases i <;> rfl

namespace Node

mutual

/-- **The numbers that rendering writes out**, of a node and all below it: those in its properties,
in its style, in the payloads of its actions, and in what its guards spell out. -/
def written : Node → List Number
  | ⟨_, _, props, style, children, actions, guards⟩ =>
    Json.fieldNumbers props ++ (Json.fieldNumbers style
      ++ (entryNumbers Action.payloadNumbers actions ++ (guards.spelled ++ writtenAll children)))

/-- The numbers that rendering writes out of some nodes and all below them. -/
def writtenAll : List Node → List Number
  | [] => []
  | n :: ns => written n ++ writtenAll ns

end

mutual

/-- Out of equal nodes the same numbers are written, up to the signs of zeros. -/
theorem written_alike : (n m : Node) → n.same m = true → Alike n.written m.written
  | ⟨_, _, p, s, cs, as, g⟩, ⟨_, _, p', s', cs', as', g'⟩, h => by
    simp only [same, Bool.and_eq_true] at h
    obtain ⟨⟨⟨⟨⟨-, hp⟩, hs⟩, hcs⟩, has⟩, hg⟩ := h
    exact (Json.fieldNumbers_alike p p' hp).append ((Json.fieldNumbers_alike s s' hs).append
      ((entryNumbers_alike Action.payloadNumbers_alike has).append
        ((Guards.spelled_alike hg).append (writtenAll_alike cs cs' hcs))))

theorem writtenAll_alike : (ns ms : List Node) → sameAll ns ms = true →
    Alike (writtenAll ns) (writtenAll ms)
  | [], [], _ => .nil
  | n :: ns, m :: ms, h => by
    simp only [sameAll, Bool.and_eq_true] at h
    exact (written_alike n m h.1).append (writtenAll_alike ns ms h.2)

end

/-- To rendering, two nodes are the same, up to children that are equal as data and of which the
same numbers are written out. -/
structure Agree (n m : Node) : Prop where
  kind : n.kind = m.kind
  id : n.id = m.id
  props : n.props = m.props
  style : n.style = m.style
  actions : n.actions.map (fun a => (a.1, a.2.bare)) = m.actions.map fun a => (a.1, a.2.bare)
  lets : ∀ patterns context, n.guards.lets patterns context = m.guards.lets patterns context
  disables : ∀ patterns context,
    n.guards.disables patterns context = m.guards.disables patterns context
  children : sameAll n.children m.children = true
  written : writtenAll n.children = writtenAll m.children

/-- **Equal nodes of which the same numbers are written out are the same to rendering.** -/
theorem agree {n m : Node} (h : n.same m = true) (heq : n.written = m.written) : n.Agree m := by
  obtain ⟨k, i, p, s, cs, as, g⟩ := n
  obtain ⟨k', i', p', s', cs', as', g'⟩ := m
  simp only [same, Bool.and_eq_true, beq_iff_eq] at h
  obtain ⟨⟨⟨⟨⟨⟨hk, hi⟩, hp⟩, hs⟩, hcs⟩, has⟩, hg⟩ := h
  obtain ⟨hprops, heq⟩ := (Json.fieldNumbers_alike p p' hp).append_inj heq
  obtain ⟨hstyle, heq⟩ := (Json.fieldNumbers_alike s s' hs).append_inj heq
  obtain ⟨hactions, heq⟩ := (entryNumbers_alike Action.payloadNumbers_alike has).append_inj heq
  obtain ⟨hguards, hchildren⟩ := (Guards.spelled_alike hg).append_inj heq
  exact
    { kind := hk
      id := hi
      props := Json.eq_of_fieldNumbers p p' hp hprops
      style := Json.eq_of_fieldNumbers s s' hs hstyle
      actions := map_eq_of_entryNumbers Action.payloadNumbers_alike Action.bare_eq_of_same has
        hactions
      lets patterns context := (Guards.alike hg hguards patterns context).1
      disables patterns context := (Guards.alike hg hguards patterns context).2
      children := hcs
      written := hchildren }

/-- The node with its actions bare. -/
def withBareActions (n : Node) : Node :=
  { n with actions := n.actions.map fun a => (a.1, a.2.bare) }

/-- The handlers of a node are bare where its actions are. -/
theorem bare_handlers (n : Node) (props : Fields) (sink : Nat) :
    (n.handlers props sink).map (fun h => (h.1, h.2.bare))
      = n.withBareActions.handlers props sink := by
  have hdeclared (meaning : Option InputMeaning) :
      (n.withBareActions.actions.map fun a => (a.1, n.withBareActions.bind meaning sink a.1 a.2))
        = (n.actions.map fun a => (a.1, n.bind meaning sink a.1 a.2)).map
          fun h => (h.1, h.2.bare) := by
    rw [withBareActions, List.map_map, List.map_map]
    refine List.map_congr_left fun a _ => ?_
    simp [bind, Handler.bare, Binding.bare, Action.bare_inheritComponent]
  have hcontains (handlers : Keyed Handler) (event : String) :
      Keyed.contains (handlers.map fun h => (h.1, h.2.bare)) event = handlers.contains event := by
    rw [Keyed.contains, Keyed.get?_map (fun _ => Handler.bare), Option.isSome_map, Keyed.contains]
  have hmeaning : n.withBareActions.meaning props = n.meaning props := rfl
  rw [handlers, handlers, hmeaning, hdeclared]
  cases n.meaning props with
  | none => rfl
  | some m =>
    dsimp only
    rw [hcontains]
    split
    · rfl
    · exact Keyed.map_insert Handler.bare _ _ _

/-- A draft is bare where the actions of its node and its children are. -/
theorem bare_draft (n : Node) (patterns : Patterns) (scope : Scope) (elements : List Element) :
    (n.draft patterns scope elements).bare
      = n.withBareActions.draft patterns scope (Element.bareAll elements) := by
  have hdisables : n.withBareActions.guards.disables patterns scope.context
      = n.guards.disables patterns scope.context := rfl
  rw [draft, draft, Element.bare, hdisables]
  cases n.guards.disables patterns scope.context with
  | true => rfl
  | false => exact congrArg (Element.mk n.kind n.id _ n.style _ · true) (n.bare_handlers _ _)

/-- **Nodes that agree have drafts that are bare the same**, over children that are. -/
theorem Agree.bare_draft {n m : Node} (h : n.Agree m) (patterns : Patterns) (scope : Scope)
    {elements elements' : List Element}
    (he : Element.bareAll elements = Element.bareAll elements') :
    (n.draft patterns scope elements).bare = (m.draft patterns scope elements').bare := by
  have hdisables := h.disables patterns scope.context
  have hactions := h.actions
  obtain ⟨k, i, p, s, cs, as, g⟩ := n
  obtain ⟨k', i', p', s', cs', as', g'⟩ := m
  obtain ⟨rfl, rfl, rfl, rfl⟩ : k = k' ∧ i = i' ∧ p = p' ∧ s = s' :=
    ⟨h.kind, h.id, h.props, h.style⟩
  rw [Node.bare_draft, Node.bare_draft, he, withBareActions, withBareActions, draft, draft]
  dsimp only at hdisables hactions ⊢
  rw [hdisables, hactions]
  rfl

end Node

/-! ## Rendering -/

/-- What is worked out alike leads to what is, if each next step does. -/
theorem Except.map_bind_congr {ε α β γ δ : Type} {x x' : Except ε α} {f : α → γ} {g : β → δ}
    {k k' : α → Except ε β} (h : x.map f = x'.map f)
    (hk : ∀ a a', f a = f a' → (k a).map g = (k' a').map g) :
    (x.bind k).map g = (x'.bind k').map g := by
  match x, x' with
  | .error e, .error e' =>
    obtain rfl : e = e' := Except.error.inj h
    rfl
  | .ok a, .ok a' => exact hk a a' (Except.ok.inj h)
  | .error _, .ok _ | .ok _, .error _ => cases h

section Rendered

variable {rules : RenderRules} {scope : Scope}

mutual

/-- **Equal nodes of which the same numbers are written out show what is bare the same**, at any
depth. -/
theorem elementAt_bare (hf : KeepBare rules.primitives) (depth : Nat) : (n m : Node) →
    n.same m = true → n.written = m.written →
    (elementAt rules scope depth n).map (·.map Element.bare)
      = (elementAt rules scope depth m).map (·.map Element.bare)
  | ⟨kind, id, props, style, children, actions, guards⟩,
      ⟨kind', id', props', style', children', actions', guards'⟩, h, heq => by
    have hagree := Node.agree h heq
    obtain rfl : kind = kind' := hagree.kind
    have hlets : guards.lets rules.patterns scope.context
        = guards'.lets rules.patterns scope.context := hagree.lets rules.patterns scope.context
    have hall := elementsAt_bare hf depth children children' hagree.children hagree.written
    by_cases hd : rules.config.maxDepth < depth
    · rw [elementAt_deep hd, elementAt_deep hd]
    by_cases hg : guards.lets rules.patterns scope.context = true
    · cases hknown : rules.primitives.get? kind with
      | none => rw [elementAt_closed (.inr hknown), elementAt_closed (.inr hknown)]
      | some factory =>
        rw [elementAt_open hd hg hknown, elementAt_open hd (hlets ▸ hg) hknown]
        refine Except.map_bind_congr hall fun elements elements' he => ?_
        have hbuilt (draft : Element) : ((factory draft).map some).map (·.map Element.bare)
            = (factory draft.bare).map some := by
          rw [hf kind factory hknown draft]
          cases factory draft <;> rfl
        rw [hbuilt, hbuilt, hagree.bare_draft rules.patterns scope he]
    · have hg : guards.lets rules.patterns scope.context = false := by simpa using hg
      rw [elementAt_closed (.inl hg), elementAt_closed (.inl (hlets ▸ hg))]

/-- **Nodes written alike render alike, handlers aside**, one by one. -/
theorem elementsAt_bare (hf : KeepBare rules.primitives) (depth : Nat) : (ns ms : List Node) →
    Node.sameAll ns ms = true → Node.writtenAll ns = Node.writtenAll ms →
    (elementsAt rules scope depth ns).map Element.bareAll
      = (elementsAt rules scope depth ms).map Element.bareAll
  | [], [], _, _ => rfl
  | n :: ns, m :: ms, h, heq => by
    simp only [Node.sameAll, Bool.and_eq_true] at h
    obtain ⟨hn, hns⟩ := (Node.written_alike n m h.1).append_inj heq
    have hfirst := elementAt_bare hf (depth + 1) n m h.1 hn
    have hrest := elementsAt_bare hf depth ns ms h.2 hns
    rw [elementsAt_cons, elementsAt_cons]
    refine Except.map_bind_congr hfirst fun element element' he => ?_
    have hconcat (element : Option Element) (others : Except BuildFailure (List Element)) :
        (others.map (element.toList ++ ·)).map Element.bareAll
          = (others.map Element.bareAll).map ((element.map Element.bare).toList ++ ·) := by
      cases others with
      | error => rfl
      | ok es => cases element <;> rfl
    rw [hconcat, hconcat, he, hrest]

end

end Rendered

/-- Two nodes, rendered, come to elements that read the same, or neither shows. -/
def ReadAlike (r r' : Except BuildFailure (Option Element)) : Prop :=
  ∃ element element', r = .ok element ∧ r' = .ok element'
    ∧ Option.Rel Element.ReadsAs element element'

/-- A node shows with nothing kept what it shows without a memo. -/
theorem renderNode_of_nil (rules : RenderRules) (scope : Scope) (node : Node) :
    (renderNode rules scope node {}).1 = elementAt rules scope 1 node :=
  ((renderAt_yields 1 [0] node {}).anew (.nil _)).outcome

namespace Node

/-- **Nodes that are equal as data read the same**, rendered in any scope with the built-in
primitives and nothing kept, if the same numbers are written out of both. -/
theorem readsAs_of_same (config : RendererConfig) (patterns : Patterns) (scope : Scope)
    {n m : Node} (h : n.same m = true) (heq : n.written = m.written) :
    ReadAlike (renderNode ⟨Primitive.builtins, config, patterns⟩ scope n {}).1
      (renderNode ⟨Primitive.builtins, config, patterns⟩ scope m {}).1 := by
  let rules : RenderRules := ⟨Primitive.builtins, config, patterns⟩
  have hok (node : Node) : ∃ element, elementAt rules scope 1 node = .ok element :=
    elementAt_isOk Primitive.builtins_finish 1 node
  obtain ⟨element, he⟩ := hok n
  obtain ⟨element', he'⟩ := hok m
  have hshown : (elementAt rules scope 1 n).map (·.map Element.bare)
      = (elementAt rules scope 1 m).map (·.map Element.bare) :=
    elementAt_bare Primitive.builtins_keepBare 1 n m h heq
  rw [he, he'] at hshown
  have hbare : element.map Element.bare = element'.map Element.bare := Except.ok.inj hshown
  refine ⟨element, element', (renderNode_of_nil _ _ _).trans he,
    (renderNode_of_nil _ _ _).trans he', ?_⟩
  match element, element' with
  | none, none => exact .none
  | some e, some e' => exact .some (.of_bare (Option.some.inj hbare))

/-- What is offered to somebody whose balance is not zero, as a zero may be written. -/
def offer (zero : Number) : Node where
  kind := "Button"
  props := [("label", .str "Pay")]
  style := [("inset", .num .negZero)]
  actions :=
    [("onPress",
      { type := "log", payload := [("message", .str "paid")]
        condition := some (.compare .greaterThan "balance" (.num zero)) })]
  guards := { «show» := some (.compare .notEquals "balance" (.num zero)) }

/-- The zeros of offers that tell them apart are compared, and not written out. -/
theorem readsAs_of_same_offer :
    let scope : Scope := .ofData (.obj [("balance", .num (.int 5))]) 0
    let plus := offer (.real (.zero false))
    let minus := offer .negZero
    plus.guards.show ≠ minus.guards.show ∧ plus.same minus = true ∧ plus.written = minus.written
      ∧ ReadAlike (renderNode ⟨Primitive.builtins, {}, Pattern.dialect⟩ scope plus {}).1
        (renderNode ⟨Primitive.builtins, {}, Pattern.dialect⟩ scope minus {}).1
      ∧ ∃ e, (renderNode ⟨Primitive.builtins, {}, Pattern.dialect⟩ scope minus {}).1 = .ok (some e)
        ∧ (e.told [] "onPress" none).map Prod.snd
          = some [⟨"log", "\x7b\"message\":\"paid\"\x7d", none⟩] := by
  intro scope plus minus
  have hsame : plus.same minus = true := by decide +kernel
  have hwritten : plus.written = minus.written := by decide +kernel
  exact ⟨by decide, hsame, hwritten, readsAs_of_same {} Pattern.dialect scope hsame hwritten, _,
    rfl, by decide +kernel⟩

/-- A text that says a number. -/
def label (n : Number) : Node where
  kind := "Text"
  props := [("text", .num n)]

/-- **Nodes that are equal as data need not read the same**: `0.0` is not `-0.0` as a text. -/
theorem not_readsAs_of_same : ¬ ∀ (config : RendererConfig) (patterns : Patterns) (scope : Scope)
    (n m : Node), n.same m = true →
    ReadAlike (renderNode ⟨Primitive.builtins, config, patterns⟩ scope n {}).1
      (renderNode ⟨Primitive.builtins, config, patterns⟩ scope m {}).1 := by
  intro h
  obtain ⟨element, element', he, he', hrel⟩ :=
    h {} Pattern.dialect (.ofData (.obj []) 0) (label (.real (.zero false))) (label .negZero)
      (by decide +kernel)
  have hplus : element = some { kind := "Text", props := [("text", .str "0.0")] } :=
    (Except.ok.inj he).symm
  have hminus : element' = some { kind := "Text", props := [("text", .str "-0.0")] } :=
    (Except.ok.inj he').symm
  subst hplus hminus
  cases hrel with
  | some hreads => exact absurd hreads.text (by decide +kernel)

end Node

end RemoteScreen
