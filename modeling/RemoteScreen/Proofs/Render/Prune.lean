import RemoteScreen.Proofs.Primitive
import RemoteScreen.Proofs.Render.Fresh

/-!
# Proofs/Render/Prune — what does not show leaves no trace

    tree  ──pruned──▸  nodes that show  ──one by one──▸  elements
          ──────────────rendered──────────────────────▸

A node that is too deep, hidden or of a kind nobody knows is absent, with all that is below it.
Pruning takes the absent nodes out of a tree (`Node.pruneAll`), and **the pruned tree is rendered to
the same elements** (`elementsAt_pruneAll`).  Of the nodes that are left each one is built, in order
and in its place (`AllBuiltFor`); built-in primitives keep key, style and children of what they
build, so **the elements have the shape of the pruned tree** (`renderTree_prune`).
-/

namespace RemoteScreen

/-! ## Pruning -/

namespace Node

/-- The node does not show at a depth, and nor does what is below it. -/
def absent (rules : RenderRules) (context : Json) (depth : Nat) (n : Node) : Bool :=
  decide (rules.config.maxDepth < depth) || n.guards.hide.any (·.holds rules.patterns context)
    || n.guards.show.any (!·.holds rules.patterns context)
    || (rules.primitives.get? n.kind).isNone

mutual

/-- A node at a depth without the absent ones below it; none if it is absent itself. -/
def prune (rules : RenderRules) (context : Json) (depth : Nat) : Node → Option Node
  | node@⟨kind, id, props, style, children, actions, guards⟩ =>
    if node.absent rules context depth then none
    else some ⟨kind, id, props, style, pruneAll rules context (depth + 1) children, actions, guards⟩

/-- Nodes at a depth without the absent ones among them and below them. -/
def pruneAll (rules : RenderRules) (context : Json) (depth : Nat) : List Node → List Node
  | [] => []
  | node :: rest => (prune rules context depth node).toList ++ pruneAll rules context depth rest

end

variable {rules : RenderRules} {context : Json} {depth : Nat} {node : Node}

theorem prune_of_absent (h : node.absent rules context depth = true) :
    node.prune rules context depth = none := by
  obtain ⟨_, _, _, _, _, _, _⟩ := node
  rw [prune, if_pos h]

theorem prune_of_present (h : node.absent rules context depth = false) :
    node.prune rules context depth
      = some { node with children := pruneAll rules context (depth + 1) node.children } := by
  obtain ⟨_, _, _, _, _, _, _⟩ := node
  rw [prune, if_neg (by simpa using h)]

/-- A node is absent if it lies too deep, its guards are closed, or its kind is unknown. -/
theorem absent_iff : node.absent rules context depth = true
    ↔ rules.config.maxDepth < depth ∨ node.guards.lets rules.patterns context = false
      ∨ rules.primitives.get? node.kind = none := by
  have hlets : node.guards.lets rules.patterns context = false
      ↔ node.guards.hide.any (·.holds rules.patterns context) = true
        ∨ node.guards.show.any (!·.holds rules.patterns context) = true := by
    rw [Guards.lets]
    cases node.guards.hide.any (·.holds rules.patterns context) <;> cases node.guards.show <;> simp
  rw [absent, hlets]
  simp [or_assoc]

/-- A node that is not absent is built by the factory of its kind. -/
theorem of_present (h : node.absent rules context depth = false) :
    ¬ rules.config.maxDepth < depth ∧ node.guards.lets rules.patterns context = true
      ∧ ∃ factory, rules.primitives.get? node.kind = some factory := by
  have hpresent := (not_congr absent_iff).1 (Bool.not_eq_true _ ▸ h)
  rw [not_or, not_or, Bool.not_eq_false] at hpresent
  exact ⟨hpresent.1, hpresent.2.1, Option.ne_none_iff_exists'.1 hpresent.2.2⟩

end Node

section Pruned

variable {rules : RenderRules} {scope : Scope} {depth : Nat} {node : Node}

theorem elementAt_absent (h : node.absent rules scope.context depth = true) :
    elementAt rules scope depth node = .ok none := by
  rcases Node.absent_iff.1 h with hd | hc
  · exact elementAt_deep hd
  · exact elementAt_closed hc

/-- A node that is pruned below is drafted alike, and comes to what its children come to. -/
theorem elementAt_children (h : node.absent rules scope.context depth = false)
    {children : List Node}
    (hc : elementsAt rules scope depth children = elementsAt rules scope depth node.children) :
    elementAt rules scope depth { node with children } = elementAt rules scope depth node := by
  obtain ⟨hd, hg, factory, hf⟩ := Node.of_present h
  let left : Node := { node with children }
  have hg' : left.guards.lets rules.patterns scope.context = true := hg
  have hf' : rules.primitives.get? left.kind = some factory := hf
  rw [elementAt_open hd hg hf, elementAt_open hd hg' hf', hc]
  rfl

mutual

/-- **Pruning changes nothing of what a node shows.** -/
theorem elementAt_prune (depth : Nat) : (node : Node) →
    elementAt rules scope depth node = match node.prune rules scope.context depth with
      | none => .ok none
      | some left => elementAt rules scope depth left
  | ⟨kind, id, props, style, children, actions, guards⟩ => by
    cases h : Node.absent rules scope.context depth
      ⟨kind, id, props, style, children, actions, guards⟩ with
    | true =>
      rw [Node.prune_of_absent h]
      exact elementAt_absent h
    | false =>
      rw [Node.prune_of_present h]
      exact (elementAt_children h (elementsAt_pruneAll depth children)).symm

/-- **Pruned children render alike**, by induction with their nodes. -/
theorem elementsAt_pruneAll (depth : Nat) : (nodes : List Node) →
    elementsAt rules scope depth (Node.pruneAll rules scope.context (depth + 1) nodes)
      = elementsAt rules scope depth nodes
  | [] => rfl
  | node :: rest => by
    have hrest := elementsAt_pruneAll depth rest
    rw [Node.pruneAll, elementsAt_cons rest, elementAt_prune (depth + 1) node]
    cases node.prune rules scope.context (depth + 1) with
    | none =>
      rw [Option.toList_none, List.nil_append, hrest]
      cases elementsAt rules scope depth rest <;> rfl
    | some left =>
      rw [Option.toList_some, List.singleton_append, elementsAt_cons, hrest]

end

end Pruned

/-! ## What is built for what -/

mutual

/-- An element is built for a node: the factory of its kind makes it of the draft with what is built
for the children. -/
inductive BuiltFor (rules : RenderRules) (scope : Scope) : Node → Element → Prop where
  | mk {node factory elements element} (hf : rules.primitives.get? node.kind = some factory)
      (below : AllBuiltFor rules scope node.children elements)
      (he : factory (node.draft rules.patterns scope elements) = .ok element) :
      BuiltFor rules scope node element

/-- Elements are built for nodes, one for each, in order. -/
inductive AllBuiltFor (rules : RenderRules) (scope : Scope) : List Node → List Element → Prop where
  | nil : AllBuiltFor rules scope [] []
  | cons {node nodes element elements} (first : BuiltFor rules scope node element)
      (others : AllBuiltFor rules scope nodes elements) :
      AllBuiltFor rules scope (node :: nodes) (element :: elements)

end

section Built

variable {rules : RenderRules} {scope : Scope}

theorem AllBuiltFor.append {nodes nodes' : List Node} {elements elements' : List Element} :
    AllBuiltFor rules scope nodes elements → AllBuiltFor rules scope nodes' elements' →
    AllBuiltFor rules scope (nodes ++ nodes') (elements ++ elements')
  | .nil, h' => h'
  | .cons first others, h' => .cons first (others.append h')

mutual

/-- **For each node that is left by pruning an element is built, and for no other.** -/
theorem builtFor_prune {depth : Nat} : (node : Node) → {element : Option Element} →
    elementAt rules scope depth node = .ok element →
    AllBuiltFor rules scope (node.prune rules scope.context depth).toList element.toList
  | ⟨kind, id, props, style, children, actions, guards⟩, element, he => by
    cases h : Node.absent rules scope.context depth
      ⟨kind, id, props, style, children, actions, guards⟩ with
    | true =>
      rw [elementAt_absent h] at he
      cases he
      rw [Node.prune_of_absent h]
      exact .nil
    | false =>
      obtain ⟨hd, hg, factory, hf⟩ := Node.of_present h
      obtain ⟨elements, hall, built, hbuilt, rfl⟩ := (elementAt_open_eq_ok hd hg hf).1 he
      rw [Node.prune_of_present h]
      exact .cons (.mk hf (allBuiltFor_pruneAll children hall) hbuilt) .nil

theorem allBuiltFor_pruneAll {depth : Nat} : (nodes : List Node) → {elements : List Element} →
    elementsAt rules scope depth nodes = .ok elements →
    AllBuiltFor rules scope (Node.pruneAll rules scope.context (depth + 1) nodes) elements
  | [], elements, h => by
    cases h
    exact .nil
  | node :: rest, elements, h => by
    obtain ⟨element, hnode, others, hrest, rfl⟩ := elementsAt_cons_eq_ok.1 h
    exact (builtFor_prune node hnode).append (allBuiltFor_pruneAll rest hrest)

end

end Built

/-! ## The shape of what is built -/

/-- What nodes and elements have in common: a key, a style, and what is below. -/
inductive Shape where
  | mk (key : Option String) (style : Fields) (below : List Shape)

namespace Shape

mutual

/-- How many levels there are in a shape. -/
def height : Shape → Nat
  | mk _ _ below => heightAll below + 1

/-- How many levels there are in shapes side by side. -/
def heightAll : List Shape → Nat
  | [] => 0
  | s :: ss => max (height s) (heightAll ss)

end

theorem heightAll_append (ss ts : List Shape) :
    heightAll (ss ++ ts) = max (heightAll ss) (heightAll ts) := by
  induction ss with
  | nil => simp [heightAll]
  | cons s ss ih => rw [List.cons_append, heightAll, heightAll, ih, Nat.max_assoc]

end Shape

mutual

/-- The shape of a node, its id being its key. -/
def Node.shape : Node → Shape
  | ⟨_, id, _, style, children, _, _⟩ => .mk id style (Node.shapes children)

/-- The shapes of nodes. -/
def Node.shapes : List Node → List Shape
  | [] => []
  | n :: ns => n.shape :: Node.shapes ns

end

mutual

/-- The shape of an element. -/
def Element.shape : Element → Shape
  | ⟨_, key, _, style, children, _, _⟩ => .mk key style (Element.shapes children)

/-- The shapes of elements. -/
def Element.shapes : List Element → List Shape
  | [] => []
  | e :: es => e.shape :: Element.shapes es

end

theorem Node.shape_eq (n : Node) : n.shape = .mk n.id n.style (Node.shapes n.children) := by
  obtain ⟨_, _, _, _, _, _, _⟩ := n
  rw [Node.shape]

theorem Element.shape_eq (e : Element) :
    e.shape = .mk e.key e.style (Element.shapes e.children) := by
  obtain ⟨_, _, _, _, _, _, _⟩ := e
  rw [Element.shape]

theorem Node.shapes_append (ns ms : List Node) :
    Node.shapes (ns ++ ms) = Node.shapes ns ++ Node.shapes ms := by
  induction ns with
  | nil => rfl
  | cons n ns ih => rw [List.cons_append, Node.shapes, Node.shapes, ih, List.cons_append]

section Height

variable {rules : RenderRules} {context : Json}

mutual

/-- Of a node that is not too deep as many levels are left as there are from its depth on. -/
theorem height_prune (depth : Nat) : (node : Node) →
    Shape.heightAll (Node.shapes (node.prune rules context depth).toList)
      ≤ rules.config.maxDepth + 1 - depth
  | ⟨kind, id, props, style, children, actions, guards⟩ => by
    cases h : Node.absent rules context depth
      ⟨kind, id, props, style, children, actions, guards⟩ with
    | true =>
      rw [Node.prune_of_absent h]
      exact Nat.zero_le _
    | false =>
      obtain ⟨hd, -, -⟩ := Node.of_present h
      have hbelow := height_pruneAll (depth + 1) children
      rw [Node.prune_of_present h]
      simp only [Option.toList_some, Node.shapes, Node.shape, Shape.heightAll, Shape.height]
      omega

/-- What is left of the children is no higher than the depth that is left. -/
theorem height_pruneAll (depth : Nat) : (nodes : List Node) →
    Shape.heightAll (Node.shapes (Node.pruneAll rules context depth nodes))
      ≤ rules.config.maxDepth + 1 - depth
  | [] => Nat.zero_le _
  | node :: rest => by
    rw [Node.pruneAll, Node.shapes_append, Shape.heightAll_append]
    exact Nat.max_le.2 ⟨height_prune depth node, height_pruneAll depth rest⟩

end

end Height

section Finishing

variable {rules : RenderRules} {scope : Scope}

mutual

/-- What is built for a node by a factory that finishes drafts has the shape of the node. -/
theorem BuiltFor.shape (hf : AllFinish rules.primitives) {node : Node} {element : Element} :
    BuiltFor rules scope node element → element.shape = node.shape
  | .mk hknown below he => by
    have hfinishes := hf.of_built hknown he
    rw [Element.shape_eq, Node.shape_eq, hfinishes.key, hfinishes.style, hfinishes.children,
      ← below.shapes hf]
    rfl

theorem AllBuiltFor.shapes (hf : AllFinish rules.primitives) {nodes : List Node}
    {elements : List Element} :
    AllBuiltFor rules scope nodes elements → Element.shapes elements = Node.shapes nodes
  | .nil => rfl
  | .cons first others => by rw [Element.shapes, Node.shapes, first.shape hf, others.shapes hf]

end

mutual

/-- Where factories finish drafts, nothing fails. -/
theorem elementAt_isOk (hf : AllFinish rules.primitives) (depth : Nat) : (node : Node) →
    ∃ element, elementAt rules scope depth node = .ok element
  | ⟨kind, id, props, style, children, actions, guards⟩ => by
    cases h : Node.absent rules scope.context depth
      ⟨kind, id, props, style, children, actions, guards⟩ with
    | true => exact ⟨none, elementAt_absent h⟩
    | false =>
      obtain ⟨hd, hg, factory, hknown⟩ := Node.of_present h
      obtain ⟨elements, hall⟩ := elementsAt_isOk hf depth children
      obtain ⟨built, hbuilt, -⟩ := hf _ _ hknown (Node.draft _ rules.patterns scope elements)
      exact ⟨some built, (elementAt_open_eq_ok hd hg hknown).2 ⟨elements, hall, built, hbuilt, rfl⟩⟩

/-- No list of nodes fails to render. -/
theorem elementsAt_isOk (hf : AllFinish rules.primitives) (depth : Nat) : (nodes : List Node) →
    ∃ elements, elementsAt rules scope depth nodes = .ok elements
  | [] => ⟨[], rfl⟩
  | node :: rest => by
    obtain ⟨element, hnode⟩ := elementAt_isOk hf (depth + 1) node
    obtain ⟨others, hrest⟩ := elementsAt_isOk hf depth rest
    exact ⟨_, elementsAt_cons_eq_ok.2 ⟨element, hnode, others, hrest, rfl⟩⟩

end

end Finishing

/-- **What is absent leaves no trace, and all else shows once, in its place.**  With the built-in
primitives and nothing kept, a tree and the pruned tree are rendered to the same elements: these
have the shape of the pruned tree, and no more levels than the limit. -/
theorem renderTree_prune (config : RendererConfig) (patterns : Patterns) (scope : Scope)
    (tree : List Node) (hits : Nat) (built : List (String × Option String)) :
    let rules : RenderRules := ⟨Primitive.builtins, config, patterns⟩
    let pruned := Node.pruneAll rules scope.context 1 tree
    ∃ elements, (renderTree rules scope tree { hits, built }).1 = .ok elements
      ∧ (renderTree rules scope pruned { hits, built }).1 = .ok elements
      ∧ Element.shapes elements = Node.shapes pruned
      ∧ Shape.heightAll (Element.shapes elements) ≤ config.maxDepth := by
  intro rules pruned
  have hf : AllFinish rules.primitives := Primitive.builtins_finish
  obtain ⟨elements, hall⟩ : ∃ elements, elementsAt rules scope 0 tree = .ok elements :=
    elementsAt_isOk hf 0 tree
  have hshapes : Element.shapes elements = Node.shapes pruned :=
    (allBuiltFor_pruneAll tree hall).shapes hf
  refine ⟨elements, ?_, ?_, hshapes, ?_⟩
  · rw [renderTree_of_nil rules scope tree rfl, hall]
  · rw [renderTree_of_nil rules scope pruned rfl, elementsAt_pruneAll 0 tree, hall]
  · rw [hshapes]
    exact height_pruneAll 1 tree

end RemoteScreen
