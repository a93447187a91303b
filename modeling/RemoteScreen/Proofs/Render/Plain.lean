import RemoteScreen.Render.Basic

/-!
# Proofs/Render/Plain — rendering without a memo

The elements of a tree as the nodes, the data and the primitives say them: nothing is kept, nothing
is carried along.
-/

namespace RemoteScreen

mutual

/-- The element of a node at a depth; none if it does not show. -/
def elementAt (rules : RenderRules) (scope : Scope) (depth : Nat) :
    Node → Except BuildFailure (Option Element)
  | node@⟨kind, _, _, _, children, _, guards⟩ =>
    if rules.config.maxDepth < depth then .ok none
    else if !guards.lets rules.patterns scope.context then .ok none
    else
      match rules.primitives.get? kind with
      | none => .ok none
      | some factory =>
        match elementsAt rules scope depth children with
        | .error e => .error e
        | .ok elements => (factory (node.draft rules.patterns scope elements)).map some

/-- The elements of the children of a node at a depth. -/
def elementsAt (rules : RenderRules) (scope : Scope) (depth : Nat) :
    List Node → Except BuildFailure (List Element)
  | [] => .ok []
  | node :: rest =>
    match elementAt rules scope (depth + 1) node with
    | .error e => .error e
    | .ok element =>
      match elementsAt rules scope depth rest with
      | .error e => .error e
      | .ok elements => .ok (element.toList ++ elements)

end

variable {rules : RenderRules} {scope : Scope} {depth : Nat} {node : Node}

theorem elementAt_deep (hd : rules.config.maxDepth < depth) :
    elementAt rules scope depth node = .ok none := by
  obtain ⟨_, _, _, _, _, _, _⟩ := node
  rw [elementAt, if_pos hd]

/-- What its guards hide does not show, and nor does what is of unknown kind. -/
theorem elementAt_closed
    (hc : node.guards.lets rules.patterns scope.context = false
      ∨ rules.primitives.get? node.kind = none) :
    elementAt rules scope depth node = .ok none := by
  obtain ⟨_, _, _, _, _, _, _⟩ := node
  rw [elementAt]
  rcases hc with hg | hf <;> simp_all

/-- What shows is what a factory makes of the draft with what the children show. -/
theorem elementAt_open (hd : ¬ rules.config.maxDepth < depth)
    (hg : node.guards.lets rules.patterns scope.context = true) {factory : Factory}
    (hf : rules.primitives.get? node.kind = some factory) :
    elementAt rules scope depth node = (elementsAt rules scope depth node.children).bind
      fun elements => (factory (node.draft rules.patterns scope elements)).map some := by
  obtain ⟨_, _, _, _, children, _, _⟩ := node
  rw [elementAt, if_neg hd, if_neg (by simpa using hg), hf]
  cases elementsAt rules scope depth children <;> rfl

theorem elementsAt_cons (rest : List Node) :
    elementsAt rules scope depth (node :: rest) = (elementAt rules scope (depth + 1) node).bind
      fun element => (elementsAt rules scope depth rest).map (element.toList ++ ·) := by
  rw [elementsAt]
  cases elementAt rules scope (depth + 1) node with
  | error => rfl
  | ok => cases elementsAt rules scope depth rest <;> rfl

/-- A node that may show comes to an element if its children come to some and the factory does. -/
theorem elementAt_open_eq_ok (hd : ¬ rules.config.maxDepth < depth)
    (hg : node.guards.lets rules.patterns scope.context = true) {factory : Factory}
    (hf : rules.primitives.get? node.kind = some factory) {element : Option Element} :
    elementAt rules scope depth node = .ok element ↔
      ∃ elements, elementsAt rules scope depth node.children = .ok elements
        ∧ ∃ built, factory (node.draft rules.patterns scope elements) = .ok built
          ∧ element = some built := by
  rw [elementAt_open hd hg hf]
  cases elementsAt rules scope depth node.children with
  | error => simp [Except.bind]
  | ok elements =>
    cases hbuilt : factory (node.draft rules.patterns scope elements) <;>
      simp [Except.bind, Except.map, hbuilt, eq_comm]

/-- Nodes come to elements if each of them comes to one, or to none. -/
theorem elementsAt_cons_eq_ok {rest : List Node} {elements : List Element} :
    elementsAt rules scope depth (node :: rest) = .ok elements ↔
      ∃ element, elementAt rules scope (depth + 1) node = .ok element
        ∧ ∃ others, elementsAt rules scope depth rest = .ok others
          ∧ elements = element.toList ++ others := by
  rw [elementsAt_cons]
  cases elementAt rules scope (depth + 1) node with
  | error => simp [Except.bind]
  | ok element =>
    cases elementsAt rules scope depth rest <;> simp [Except.bind, Except.map, eq_comm]

end RemoteScreen
