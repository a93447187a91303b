import RemoteScreen.Render.Basic

/-!
# Proofs/Render/Watch — rendering under watch

Guards are judged condition by condition: those that may hide a node before anything else is done
with it, those that may disable it when it is built.  Under watch every condition that is judged is
noted, where it is judged.  But for the notes **it is rendering** (`watchTrees_fst`).
-/

namespace RemoteScreen

/-- The conditions that have been judged, in order. -/
abbrev Judged := List Condition

/-- Judges a condition, if there is one. -/
def watch (patterns : Patterns) (context : Json) (absent : Bool) (judged : Judged) :
    Option Condition → Bool × Judged
  | none => (absent, judged)
  | some c => (c.holds patterns context, judged ++ [c])

namespace Guards

/-- Tells whether the guards let the node show: a node that is hidden is not asked to show. -/
def watchLets (g : Guards) (patterns : Patterns) (context : Json) (judged : Judged) :
    Bool × Judged :=
  match watch patterns context false judged g.hide with
  | (true, judged) => (false, judged)
  | (false, judged) => watch patterns context true judged g.show

/-- Tells whether the guards keep events from the node: one that is disabled is not asked to be
enabled. -/
def watchDisables (g : Guards) (patterns : Patterns) (context : Json) (judged : Judged) :
    Bool × Judged :=
  match watch patterns context false judged g.disable with
  | (true, judged) => (true, judged)
  | (false, judged) =>
    let (enabled, judged) := watch patterns context true judged g.enable
    (!enabled, judged)

variable (g : Guards) (patterns : Patterns) (context : Json) (judged : Judged)

theorem watchLets_fst :
    (g.watchLets patterns context judged).1 = g.lets patterns context := by
  rw [watchLets, lets]
  cases g.hide with
  | none => cases g.show <;> rfl
  | some c =>
    cases hc : c.holds patterns context <;> cases g.show <;> simp [watch, hc]

theorem watchDisables_fst :
    (g.watchDisables patterns context judged).1 = g.disables patterns context := by
  rw [watchDisables, disables]
  cases g.disable with
  | none => cases g.enable <;> rfl
  | some c =>
    cases hc : c.holds patterns context <;> cases g.enable <;> simp [watch, hc]

end Guards

/-- The draft of a node that is disabled, or not. -/
def Node.draftIf (n : Node) (scope : Scope) (children : List Element) (disabled : Bool) : Element :=
  let props := n.propsIn scope.context
  { kind := n.kind, key := n.id, style := n.style, children
    props := if disabled then props.insert "disabled" (.bool true) else props
    handlers := if disabled then [] else n.handlers props scope.sink
    enabled := !disabled }

theorem Node.draftIf_disables (n : Node) (patterns : Patterns) (scope : Scope)
    (children : List Element) :
    n.draftIf scope children (n.guards.disables patterns scope.context)
      = n.draft patterns scope children := rfl

mutual

/-- Renders a node at a depth and a position, under watch. -/
def watchAt (rules : RenderRules) (scope : Scope) (depth : Nat) (position : Position) :
    Node → RenderState → Judged → Rendering (Option Element) × Judged
  | node@⟨kind, id, _, _, children, _, guards⟩, s, judged =>
    if rules.config.maxDepth < depth then ((.ok none, s), judged)
    else
      match s.memo.kept? position scope.stamp node with
      | some element => ((.ok element, s.hit), judged)
      | none =>
        let kept (element : Option Element) (s : RenderState) : Rendering (Option Element) :=
          (.ok element, s.keep rules.config.memoCapacity position ⟨scope.stamp, node, element⟩)
        let shows := guards.watchLets rules.patterns scope.context judged
        if !shows.1 then (kept none s, shows.2)
        else
          match rules.primitives.get? kind with
          | none => (kept none s, shows.2)
          | some factory =>
            let disabled := guards.watchDisables rules.patterns scope.context shows.2
            let below := watchChildren rules scope depth position 0 children s disabled.2
            match below.1 with
            | (.error e, s) => ((.error e, s), below.2)
            | (.ok elements, s) =>
              let s := s.called kind id
              match factory (node.draftIf scope elements disabled.1) with
              | .error e => ((.error e, s), below.2)
              | .ok element => (kept (some element) s, below.2)

/-- Renders the children of a node from the one of an index on, under watch. -/
def watchChildren (rules : RenderRules) (scope : Scope) (depth : Nat) (position : Position)
    (index : Nat) : List Node → RenderState → Judged → Rendering (List Element) × Judged
  | [], s, judged => ((.ok [], s), judged)
  | node :: rest, s, judged =>
    let first := watchAt rules scope (depth + 1) (position ++ [index]) node s judged
    match first.1 with
    | (.error e, s) => ((.error e, s), first.2)
    | (.ok element, s) =>
      let others := watchChildren rules scope depth position (index + 1) rest s first.2
      match others.1 with
      | (.error e, s) => ((.error e, s), others.2)
      | (.ok elements, s) => ((.ok (element.toList ++ elements), s), others.2)

end

variable (rules : RenderRules) (scope : Scope)

mutual

/-- **Watching changes nothing of what is rendered.** -/
theorem watchAt_fst (depth : Nat) (position : Position) : (node : Node) → (s : RenderState) →
    (judged : Judged) → (watchAt rules scope depth position node s judged).1
      = renderAt rules scope depth position node s
  | ⟨kind, id, props, style, children, actions, guards⟩, s, judged => by
    have hall := watchChildren_fst depth position 0 children s
    rw [watchAt, renderAt]
    by_cases hd : rules.config.maxDepth < depth
    · rw [if_pos hd, if_pos hd]
    · rw [if_neg hd, if_neg hd]
      cases s.memo.kept? position scope.stamp
        ⟨kind, id, props, style, children, actions, guards⟩ with
      | some element => rfl
      | none =>
        simp only [guards.watchLets_fst, guards.watchDisables_fst, hall, ← Node.draftIf_disables]
        cases guards.lets rules.patterns scope.context with
        | false => rfl
        | true =>
          cases rules.primitives.get? kind with
          | none => rfl
          | some factory =>
            rcases renderChildren rules scope depth position 0 children s with ⟨_ | elements, s⟩
            · rfl
            · dsimp only
              cases factory (Node.draftIf _ scope elements
                (guards.disables rules.patterns scope.context)) <;> rfl

/-- Nor of what the children are. -/
theorem watchChildren_fst (depth : Nat) (position : Position) (index : Nat) :
    (nodes : List Node) → (s : RenderState) → (judged : Judged) →
    (watchChildren rules scope depth position index nodes s judged).1
      = renderChildren rules scope depth position index nodes s
  | [], s, judged => rfl
  | node :: rest, s, judged => by
    have hfirst := watchAt_fst (depth + 1) (position ++ [index]) node s judged
    have hrest := watchChildren_fst depth position (index + 1) rest
    rw [watchChildren, renderChildren]
    simp only [hfirst]
    rcases renderAt rules scope (depth + 1) (position ++ [index]) node s with ⟨_ | element, s⟩
    · rfl
    · simp only [hrest]
      rcases renderChildren rules scope depth position (index + 1) rest s with ⟨_ | elements, s⟩ <;>
        rfl

end

/-! ## Trees -/

/-- Renders a tree, under watch. -/
def watchTree (tree : List Node) (s : RenderState) (judged : Judged) :
    Rendering (List Element) × Judged :=
  watchChildren rules scope 0 [] 0 tree s judged

/-- Renders trees one after the other. -/
def renderTrees : List (List Node) → RenderState →
    List (Except BuildFailure (List Element)) × RenderState
  | [], s => ([], s)
  | tree :: trees, s =>
    let first := renderTree rules scope tree s
    let others := renderTrees trees first.2
    (first.1 :: others.1, others.2)

/-- Renders trees one after the other, under watch. -/
def watchTrees : List (List Node) → RenderState → Judged →
    (List (Except BuildFailure (List Element)) × RenderState) × Judged
  | [], s, judged => (([], s), judged)
  | tree :: trees, s, judged =>
    let first := watchTree rules scope tree s judged
    let others := watchTrees trees first.1.2 first.2
    ((first.1.1 :: others.1.1, others.1.2), others.2)

/-- **What comes out under watch is what rendering comes to.** -/
theorem watchTrees_fst (trees : List (List Node)) (s : RenderState) (judged : Judged) :
    (watchTrees rules scope trees s judged).1 = renderTrees rules scope trees s := by
  induction trees generalizing s judged with
  | nil => rfl
  | cons tree trees ih =>
    have hfirst : (watchTree rules scope tree s judged).1 = renderTree rules scope tree s :=
      watchChildren_fst rules scope 0 [] 0 tree s judged
    simp only [watchTrees, renderTrees, ih, hfirst]

end RemoteScreen
