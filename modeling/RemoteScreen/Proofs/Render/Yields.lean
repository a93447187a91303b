import RemoteScreen.Render.Basic

/-!
# Proofs/Render/Yields — what a node yields

    too deep ──▸ nothing          hidden, unknown ──▸ nothing, kept
    kept ──▸ what was kept        worked out ──▸ children ──▸ factory ──▸ element, kept

What rendering comes to, case by case (`Yields`): a node is too deep, has been kept, does not show,
or is worked out by the factory of its kind, after its children, one after the other.  A law of
rendering is an induction on this.
-/

namespace RemoteScreen

/-- A node is worked out by a factory: it is not too deep, nothing is kept of it, its guards let it
show, and its kind is known. -/
structure WorkedOut (rules : RenderRules) (scope : Scope) (depth : Nat) (position : Position)
    (node : Node) (s : RenderState) (factory : Factory) : Prop where
  shallow : ¬ rules.config.maxDepth < depth
  unkept : s.memo.kept? position scope.stamp node = none
  shown : node.guards.lets rules.patterns scope.context = true
  known : rules.primitives.get? node.kind = some factory

mutual

/-- **What rendering a node comes to**, at a depth and a position, from one state to another. -/
inductive Yields (rules : RenderRules) (scope : Scope) :
    Nat → Position → Node → RenderState → Rendering (Option Element) → Prop where
  | deep {depth position node s} (hd : rules.config.maxDepth < depth) :
      Yields rules scope depth position node s (.ok none, s)
  | kept {depth position node s element} (hd : ¬ rules.config.maxDepth < depth)
      (hk : s.memo.kept? position scope.stamp node = some element) :
      Yields rules scope depth position node s (.ok element, s.hit)
  | closed {depth position node s} (hd : ¬ rules.config.maxDepth < depth)
      (hk : s.memo.kept? position scope.stamp node = none)
      (hc : node.guards.lets rules.patterns scope.context = false
        ∨ rules.primitives.get? node.kind = none) :
      Yields rules scope depth position node s
        (.ok none, s.keep rules.config.memoCapacity position ⟨scope.stamp, node, none⟩)
  | lost {depth position node s factory e s'}
      (w : WorkedOut rules scope depth position node s factory)
      (all : AllYield rules scope depth position 0 node.children s (.error e, s')) :
      Yields rules scope depth position node s (.error e, s')
  | failed {depth position node s factory elements s' e}
      (w : WorkedOut rules scope depth position node s factory)
      (all : AllYield rules scope depth position 0 node.children s (.ok elements, s'))
      (he : factory (node.draft rules.patterns scope elements) = .error e) :
      Yields rules scope depth position node s (.error e, s'.called node.kind node.id)
  | built {depth position node s factory elements s' element}
      (w : WorkedOut rules scope depth position node s factory)
      (all : AllYield rules scope depth position 0 node.children s (.ok elements, s'))
      (he : factory (node.draft rules.patterns scope elements) = .ok element) :
      Yields rules scope depth position node s
        (.ok (some element), (s'.called node.kind node.id).keep rules.config.memoCapacity position
          ⟨scope.stamp, node, some element⟩)

/-- **What rendering the children of a node comes to**, from the one of an index on. -/
inductive AllYield (rules : RenderRules) (scope : Scope) :
    Nat → Position → Nat → List Node → RenderState → Rendering (List Element) → Prop where
  | nil {depth position index s} : AllYield rules scope depth position index [] s (.ok [], s)
  | lost {depth position index node rest s e s'}
      (first : Yields rules scope (depth + 1) (position ++ [index]) node s (.error e, s')) :
      AllYield rules scope depth position index (node :: rest) s (.error e, s')
  | cons {depth position index node rest s element s' r}
      (first : Yields rules scope (depth + 1) (position ++ [index]) node s (.ok element, s'))
      (others : AllYield rules scope depth position (index + 1) rest s' r) :
      AllYield rules scope depth position index (node :: rest) s
        (r.1.map (element.toList ++ ·), r.2)

end

variable {rules : RenderRules} {scope : Scope}

mutual

/-- **Whatever is rendered is a yield**, by induction on the node. -/
theorem renderAt_yields (depth : Nat) (position : Position) : (node : Node) → (s : RenderState) →
    Yields rules scope depth position node s (renderAt rules scope depth position node s)
  | ⟨kind, id, props, style, children, actions, guards⟩, s => by
    rw [renderAt]
    split
    · next hd => exact .deep hd
    · next hd =>
      split
      · next element hk => exact .kept hd hk
      · next hk =>
        split
        · next hg => exact .closed hd hk (.inl (by simpa using hg))
        · next hg =>
          split
          · next hf => exact .closed hd hk (.inr hf)
          · next factory hf =>
            have w : WorkedOut rules scope depth position
                ⟨kind, id, props, style, children, actions, guards⟩ s factory :=
              ⟨hd, hk, by simpa using hg, hf⟩
            have all := renderChildren_yields depth position 0 children s
            split
            · next e s' hr => exact .lost w (hr ▸ all)
            · next elements s' hr =>
              simp only []
              split
              · next e he => exact .failed w (hr ▸ all) he
              · next element he => exact .built w (hr ▸ all) he

theorem renderChildren_yields (depth : Nat) (position : Position) (index : Nat) :
    (nodes : List Node) → (s : RenderState) →
    AllYield rules scope depth position index nodes s
      (renderChildren rules scope depth position index nodes s)
  | [], s => .nil
  | node :: rest, s => by
    have first := renderAt_yields (depth + 1) (position ++ [index]) node s
    rw [renderChildren]
    split
    · next e s' hr => exact .lost (hr ▸ first)
    · next element s' hr =>
      have others := renderChildren_yields depth position (index + 1) rest s'
      split
      · next e s'' hr' => exact .cons (hr ▸ first) (hr' ▸ others)
      · next elements s'' hr' => exact .cons (hr ▸ first) (hr' ▸ others)

end

/-- **What rendering a tree comes to.** -/
theorem renderTree_yields (rules : RenderRules) (scope : Scope) (tree : List Node)
    (s : RenderState) : AllYield rules scope 0 [] 0 tree s (renderTree rules scope tree s) :=
  renderChildren_yields 0 [] 0 tree s

end RemoteScreen
