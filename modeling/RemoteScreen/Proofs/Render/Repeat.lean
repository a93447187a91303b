import RemoteScreen.Library.Standard
import RemoteScreen.Proofs.Render.Prune
import RemoteScreen.Proofs.Render.Watch

/-!
# Proofs/Render/Repeat — an unchanged tree is not rendered again

    nothing kept ──rendered──▸ an entry at each position ──rendered again──▸ a hit at each root

Entries go in children first, and each goes to a position of its own.  So while there is room for
all positions that are visited, none of them is ever dropped (`AllYield.fills`): what is kept at the
roots is what they came to.  Rendering an equal tree in the same scope then looks no further than
the roots, **however often** (`renderTrees_repeat`).
-/

namespace RemoteScreen

namespace Node

mutual

/-- How many positions are visited to render a node at a depth, nothing being kept. -/
def visits (rules : RenderRules) (context : Json) (depth : Nat) : Node → Nat
  | node@⟨_, _, _, _, children, _, _⟩ =>
    if rules.config.maxDepth < depth then 0
    else if node.absent rules context depth then 1
    else visitsAll rules context (depth + 1) children + 1

/-- How many positions are visited to render nodes at a depth, nothing being kept. -/
def visitsAll (rules : RenderRules) (context : Json) (depth : Nat) : List Node → Nat
  | [] => 0
  | n :: ns => visits rules context depth n + visitsAll rules context depth ns

end

variable {rules : RenderRules} {context : Json} {depth : Nat} {node : Node}

theorem visits_deep (hd : rules.config.maxDepth < depth) : node.visits rules context depth = 0 := by
  obtain ⟨_, _, _, _, _, _, _⟩ := node
  rw [visits, if_pos hd]

theorem visits_closed (hd : ¬ rules.config.maxDepth < depth)
    (hc : node.guards.lets rules.patterns context = false
      ∨ rules.primitives.get? node.kind = none) :
    node.visits rules context depth = 1 := by
  have habsent : node.absent rules context depth = true := absent_iff.2 (.inr hc)
  obtain ⟨_, _, _, _, _, _, _⟩ := node
  rw [visits, if_neg hd, if_pos habsent]

end Node

/-- A node that is worked out takes a visit more than its children. -/
theorem WorkedOut.visits_eq {rules : RenderRules} {scope : Scope} {depth : Nat}
    {position : Position} {node : Node} {s : RenderState} {factory : Factory}
    (w : WorkedOut rules scope depth position node s factory) :
    node.visits rules scope.context depth
      = Node.visitsAll rules scope.context (depth + 1) node.children + 1 := by
  have hpresent : ¬ node.absent rules scope.context depth = true := by
    rw [Node.absent_iff, w.shown, w.known]
    exact not_or.2 ⟨w.shallow, by simp⟩
  have hd := w.shallow
  obtain ⟨_, _, _, _, _, _, _⟩ := node
  rw [Node.visits, if_neg hd, if_neg hpresent]

/-! ## How a memo is filled -/

namespace Memo

variable {memo memo' : Memo}

theorem Avoids.lookup_eq_none {position : Position} (ha : memo.Avoids position) :
    memo.lookup position = none :=
  List.lookup_eq_none_iff.2 fun kept hk =>
    bne_iff_ne.2 fun heq : position = kept.1 => ha kept hk (heq ▸ List.prefix_refl position)

/-- Where there is room, what is kept at a new position is put in front. -/
theorem keep_new {capacity : Nat} (hroom : memo.length < capacity) {position : Position}
    (hnew : memo.lookup position = none) (entry : MemoEntry) :
    memo.keep capacity position entry = (position, entry) :: memo := by
  have hothers : memo.filter (·.1 ≠ position) = memo := by
    refine List.filter_eq_self.2 fun kept hk => decide_eq_true fun heq => ?_
    exact bne_iff_ne.1 (List.lookup_eq_none_iff.1 hnew kept hk) heq.symm
  rw [keep, if_neg (by omega), hothers]

/-- A memo has so many entries more, all at some positions. -/
structure Fills (place : Position → Prop) (count : Nat) (memo memo' : Memo) : Prop where
  grown : memo'.length = memo.length + count
  elsewhere : ∀ position, ¬ place position → memo'.lookup position = memo.lookup position

theorem Fills.refl (place : Position → Prop) (memo : Memo) : Fills place 0 memo memo :=
  ⟨rfl, fun _ _ => rfl⟩

/-- What is filled at some positions and then at others is filled at all of them. -/
theorem Fills.trans {place place' wide : Position → Prop} {count count' : Nat} {memo'' : Memo}
    (hf : Fills place count memo memo') (hf' : Fills place' count' memo' memo'')
    (hp : ∀ position, place position → wide position)
    (hp' : ∀ position, place' position → wide position) :
    Fills wide (count + count') memo memo'' where
  grown := by rw [hf'.grown, hf.grown, Nat.add_assoc]
  elsewhere position hnot := by
    rw [hf'.elsewhere position fun h => hnot (hp' _ h),
      hf.elsewhere position fun h => hnot (hp _ h)]

end Memo

section Filled

variable {rules : RenderRules} {scope : Scope}

/-- What a node comes to where nothing is kept, and there is room for all that is visited: each
position has a new entry, and the last one tells what the node comes to. -/
structure Filled (rules : RenderRules) (scope : Scope) (depth : Nat) (position : Position)
    (node : Node) (memo : Memo) (element : Option Element) (memo' : Memo) : Prop where
  fills : Memo.Fills (position <+: ·) (node.visits rules scope.context depth) memo memo'
  kept : ¬ rules.config.maxDepth < depth →
    memo'.lookup position = some ⟨scope.stamp, node, element⟩

/-- What has been worked out of a node is kept at its position, behind which so many positions have
been filled. -/
theorem Filled.keep {depth : Nat} {position : Position} {node : Node} {element : Option Element}
    {memo memo' : Memo} {count : Nat} {s : RenderState} (hs : s.memo = memo')
    (hall : Memo.Fills (fun place => ∃ i, 0 ≤ i ∧ position ++ [i] <+: place) count memo memo')
    (hv : node.visits rules scope.context depth = count + 1) (ha : memo.Avoids position)
    (hroom : memo.length + node.visits rules scope.context depth ≤ rules.config.memoCapacity) :
    Filled rules scope depth position node memo element
      (s.keep rules.config.memoCapacity position ⟨scope.stamp, node, element⟩).memo := by
  have hnew : memo'.lookup position = none := by
    rw [hall.elsewhere position, ha.lookup_eq_none]
    rintro ⟨i, -, hi⟩
    have := hi.length_le
    rw [List.length_append, List.length_singleton] at this
    omega
  have hkeep : (s.keep rules.config.memoCapacity position ⟨scope.stamp, node, element⟩).memo
      = (position, ⟨scope.stamp, node, element⟩) :: memo' := by
    rw [RenderState.keep, hs]
    exact Memo.keep_new (by have := hall.grown; omega) hnew _
  rw [hkeep]
  refine ⟨⟨?_, fun place hplace => ?_⟩, fun _ => List.lookup_cons_self⟩
  · rw [List.length_cons, hall.grown, hv]
    omega
  · have hne : place ≠ position := fun heq => hplace (heq ▸ List.prefix_refl _)
    rw [List.lookup_cons, beq_eq_false_iff_ne.2 hne]
    refine hall.elsewhere place fun ⟨i, _, hi⟩ => hplace ?_
    exact (List.prefix_append position [i]).trans hi

/-- What children have come to is kept at their positions, from the one of an index on. -/
inductive AllKept (memo : Memo) (stamp : Stamp) (position : Position) :
    Nat → List Node → List Element → Prop where
  | nil {index} : AllKept memo stamp position index [] []
  | cons {index node rest element elements}
      (first : memo.lookup (position ++ [index]) = some ⟨stamp, node, element⟩)
      (others : AllKept memo stamp position (index + 1) rest elements) :
      AllKept memo stamp position index (node :: rest) (element.toList ++ elements)

/-- The same of the children of a node, from the one of an index on. -/
structure AllFilled (rules : RenderRules) (scope : Scope) (depth : Nat) (position : Position)
    (index : Nat) (nodes : List Node) (memo : Memo) (elements : List Element) (memo' : Memo) :
    Prop where
  fills : Memo.Fills (fun place => ∃ i, index ≤ i ∧ position ++ [i] <+: place)
    (Node.visitsAll rules scope.context (depth + 1) nodes) memo memo'
  kept : ¬ rules.config.maxDepth < depth + 1 →
    AllKept memo' scope.stamp position index nodes elements

mutual

/-- **Where nothing is kept, and there is room for all, nothing is dropped.** -/
theorem Yields.filled {depth position node s r} :
    Yields rules scope depth position node s r → s.memo.Avoids position →
    s.memo.length + node.visits rules scope.context depth ≤ rules.config.memoCapacity →
    ∀ element, r.1 = .ok element →
      Filled rules scope depth position node s.memo element r.2.memo
  | .deep hd, _, _, _, _ =>
    ⟨Node.visits_deep hd ▸ .refl _ _, fun hshallow => absurd hd hshallow⟩
  | .kept _ hk, ha, _, _, _ => by simp [ha.kept?_eq_none] at hk
  | .closed hd _ hc, ha, hroom, _, hr => by
    cases hr
    exact .keep rfl (.refl _ _) (Node.visits_closed hd hc) ha hroom
  | .lost _ _, _, _, _, hr => by cases hr
  | .failed _ _ _, _, _, _, hr => by cases hr
  | .built w all _, ha, hroom, _, hr => by
    cases hr
    have hv := w.visits_eq
    have hall := all.filled (fun i _ => ha.behind i) (by omega) _ rfl
    exact .keep rfl hall.fills hv ha hroom

/-- **Children rendered anew leave one entry for each visit**, if there is room. -/
theorem AllYield.filled {depth position index nodes s r} :
    AllYield rules scope depth position index nodes s r →
    (∀ i, index ≤ i → s.memo.Avoids (position ++ [i])) →
    s.memo.length + Node.visitsAll rules scope.context (depth + 1) nodes
      ≤ rules.config.memoCapacity →
    ∀ elements, r.1 = .ok elements →
      AllFilled rules scope depth position index nodes s.memo elements r.2.memo
  | .nil, _, _, _, hr => by
    cases hr
    exact ⟨.refl _ _, fun _ => .nil⟩
  | .lost _, _, _, _, hr => by cases hr
  | .cons (r := ⟨outcome, _⟩) first others, ha, hroom, _, hr => by
    rw [Node.visitsAll] at hroom
    have hfirst := first.filled (ha index (Nat.le_refl _)) (by omega) _ rfl
    have hgrown := hfirst.fills.grown
    dsimp only at hgrown
    have hothers := others.filled
      (fun i hi kept hk hp => by
        rcases (first.anew (ha index (Nat.le_refl _))).places kept hk with hold | hnew
        · exact ha i (by omega) kept hold hp
        · have := Position.eq_of_behind hnew hp
          omega)
      (by omega)
    cases outcome with
    | error e => cases hr
    | ok elements =>
      cases hr
      have hothers := hothers elements rfl
      refine ⟨hfirst.fills.trans hothers.fills (fun _ hp => ⟨index, Nat.le_refl _, hp⟩)
        fun _ ⟨i, hi, hp⟩ => ⟨i, by omega, hp⟩, fun hd => .cons ?_ (hothers.kept hd)⟩
      rw [hothers.fills.elsewhere, hfirst.kept hd]
      rintro ⟨i, hi, hp⟩
      have := Position.eq_of_behind hp (List.prefix_refl _)
      omega

end

end Filled

/-! ## What is kept is not rendered again -/

section Repeated

variable {rules : RenderRules} {scope : Scope} {depth : Nat} {position : Position}

/-- A node found with its stamp is answered at once, and nothing is judged. -/
theorem watchAt_of_lookup {node node' : Node} {s : RenderState} {element : Option Element}
    (hd : ¬ rules.config.maxDepth < depth)
    (hl : s.memo.lookup position = some ⟨scope.stamp, node, element⟩)
    (hsame : node.same node' = true) (judged : Judged) :
    watchAt rules scope depth position node' s judged = ((.ok element, s.hit), judged) := by
  have hk : s.memo.kept? position scope.stamp node' = some element := by
    rw [Memo.kept?, hl]
    exact if_pos ⟨rfl, hsame⟩
  obtain ⟨_, _, _, _, _, _, _⟩ := node'
  rw [watchAt, if_neg hd, hk]

/-- What is kept of nodes is used for equal ones, with a hit for each. -/
theorem AllKept.watchChildren_eq {memo : Memo} {index : Nat} {nodes : List Node}
    {elements : List Element} (hk : AllKept memo scope.stamp position index nodes elements)
    (hd : ¬ rules.config.maxDepth < depth + 1) {nodes' : List Node}
    (hsame : Node.sameAll nodes nodes' = true) {s : RenderState} (hs : s.memo = memo)
    (judged : Judged) :
    watchChildren rules scope depth position index nodes' s judged
      = ((.ok elements, { s with hits := s.hits + nodes.length }), judged) := by
  induction hk generalizing s nodes' with
  | nil =>
    cases nodes' with
    | nil => rw [watchChildren]; rfl
    | cons => simp [Node.sameAll] at hsame
  | @cons index node rest element elements first others ih =>
    cases nodes' with
    | nil => simp [Node.sameAll] at hsame
    | cons node' rest' =>
      rw [Node.sameAll, Bool.and_eq_true] at hsame
      have hfirst := watchAt_of_lookup hd (hs ▸ first) hsame.1 judged
      have hrest := ih (s := s.hit) hsame.2 hs
      have hcount : s.hit.hits + rest.length = s.hits + (node :: rest).length :=
        Nat.add_right_comm s.hits 1 rest.length
      rw [watchChildren, hfirst]
      dsimp only
      rw [hrest, hcount]
      rfl

variable (rules scope)

/-- What is kept of a tree is used for equal trees, however often. -/
theorem AllKept.watchTrees_eq {tree : List Node} {elements : List Element} {s : RenderState}
    (hk : AllKept s.memo scope.stamp [] 0 tree elements) (hd : 1 ≤ rules.config.maxDepth)
    {trees : List (List Node)} (hsame : ∀ t ∈ trees, Node.sameAll tree t = true) (judged : Judged) :
    watchTrees rules scope trees s judged = ((trees.map fun _ => .ok elements,
      { s with hits := s.hits + trees.length * tree.length }), judged) := by
  induction trees generalizing s with
  | nil => simp [watchTrees]
  | cons t trees ih =>
    obtain ⟨ht, hsame⟩ := List.forall_mem_cons.1 hsame
    have hfirst : watchTree rules scope t s judged
        = ((.ok elements, { s with hits := s.hits + tree.length }), judged) :=
      hk.watchChildren_eq (by omega) ht rfl judged
    have hothers := ih (s := { s with hits := s.hits + tree.length }) hk hsame
    simp only [watchTrees, hfirst, hothers, List.map_cons, List.length_cons]
    rw [Nat.add_assoc, Nat.add_comm tree.length, Nat.add_one_mul]

/-- **An unchanged tree is not rendered again.**  Once a tree has been rendered with nothing kept
before, and with room for all positions that are visited, rendering equal trees in the same scope
calls no factory and judges no condition: there is a hit for each root, and the elements are those
that there were.  The same holds of every further time. -/
theorem renderTrees_repeat {tree : List Node} {elements : List Element} {s s' : RenderState}
    (hs : s.memo = []) (hrender : renderTree rules scope tree s = (.ok elements, s'))
    (hroom : Node.visitsAll rules scope.context 1 tree ≤ rules.config.memoCapacity)
    (hd : 1 ≤ rules.config.maxDepth) {trees : List (List Node)}
    (hsame : ∀ t ∈ trees, Node.sameAll tree t = true) :
    renderTrees rules scope trees s' = (trees.map fun _ => .ok elements,
        { s' with hits := s'.hits + trees.length * tree.length })
      ∧ (watchTrees rules scope trees s' []).2 = [] := by
  have hyields := renderTree_yields rules scope tree s
  rw [hrender] at hyields
  have hfilled := hyields.filled (fun i _ => by rw [hs]; exact .nil _) (by simpa [hs] using hroom)
    elements rfl
  have hkept : AllKept s'.memo scope.stamp [] 0 tree elements := hfilled.kept (by omega)
  have hwatch := hkept.watchTrees_eq rules scope hd hsame []
  exact ⟨by rw [← watchTrees_fst rules scope trees s' [], hwatch], by rw [hwatch]⟩

/-- A greeting that is only shown to someone. -/
def Node.greeting : Node where
  kind := "Container"
  children :=
    [{ kind := "Text", props := [("text", .str "Hello \x7b\x7bname\x7d\x7d")]
       guards := { «show» := some { operator := "exists", field := some "name" } } }]

/-- There is just room for both positions of the tree, and nothing more is done. -/
theorem renderTrees_repeat_greeting :
    let rules : RenderRules := ⟨Primitive.builtins, { memoCapacity := 2 }, Pattern.dialect⟩
    let scope := Scope.ofData (.obj [("name", .str "Ann")]) 0
    ∃ elements s', renderTree rules scope [.greeting] {} = (.ok elements, s')
      ∧ s'.built = [("Text", none), ("Container", none)]
      ∧ renderTrees rules scope [[.greeting], [.greeting]] s'
        = ([.ok elements, .ok elements], { s' with hits := s'.hits + 2 })
      ∧ (watchTrees rules scope [[.greeting], [.greeting]] s' []).2 = [] := by
  intro rules scope
  have hrender : renderTree rules scope [.greeting] {} = (.ok _, _) := rfl
  have hroom : Node.visitsAll rules scope.context 1 [.greeting] ≤ rules.config.memoCapacity := by
    decide +kernel
  have hsame : ∀ t ∈ [[Node.greeting], [Node.greeting]],
      Node.sameAll [.greeting] t = true := by decide +kernel
  exact ⟨_, _, hrender, rfl, renderTrees_repeat rules scope rfl hrender hroom (by decide) hsame⟩

end Repeated

end RemoteScreen
