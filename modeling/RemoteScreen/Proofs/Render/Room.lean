import RemoteScreen.Proofs.Render.Registry
import RemoteScreen.Proofs.Render.Yields

/-!
# Proofs/Render/Room — a memo keeps no more than there is room for

    rendering ──▸ child ──▸ child's child ──▸ kept ──▸ kept ──▸ factory ──▸ kept

What is worked out of a node is kept after what has been worked out below it, and a full memo is
emptied on the way, by any of them.  A memo is **bounded** when there is room for all that it keeps,
each position at most once and none deeper than trees are rendered (`Memo.Bounded`).  Keeping a
result leaves a memo bounded, whatever has been kept or dropped since the node was begun with; so it
is bounded **at every moment**, while a tree is rendered too (`Interpreter.Life.memo_bounded`).
-/

namespace RemoteScreen

/-! ## Keeping one result -/

namespace Memo

variable {config : RendererConfig} {memo : Memo}

/-- **There is room for all that is kept**, each position once, and none that is too deep. -/
structure Bounded (config : RendererConfig) (memo : Memo) : Prop where
  room : memo.length ≤ max 1 config.memoCapacity
  once : (memo.map Prod.fst).Nodup
  shallow : ∀ kept ∈ memo, kept.1.length ≤ config.maxDepth

theorem bounded_nil (config : RendererConfig) : Bounded config [] :=
  ⟨Nat.zero_le _, .nil, fun _ hk => by cases hk⟩

/-- What is kept at a position makes way for what comes there. -/
theorem length_filter_lt_of_holds {position : Position} (hp : memo.holds position = true) :
    (memo.filter (·.1 ≠ position)).length < memo.length := by
  obtain ⟨entry, hl⟩ := Option.isSome_iff_exists.1 hp
  obtain ⟨before, after, hmemo, -⟩ := List.lookup_eq_some_iff.1 hl
  refine List.length_filter_lt_length_iff_exists.2 ⟨(position, entry), ?_, by simp⟩
  rw [hmemo]
  simp

/-- Keeping an entry never makes more of them than the capacity. -/
theorem length_keep_le (capacity : Nat) (position : Position) (entry : MemoEntry)
    (hm : memo.length ≤ max 1 capacity) :
    (memo.keep capacity position entry).length ≤ max 1 capacity := by
  rw [keep, List.length_cons]
  split
  · exact Nat.le_max_left _ _
  · next hroom =>
    rcases Bool.eq_false_or_eq_true (memo.holds position) with hp | hp
    · have := length_filter_lt_of_holds hp
      omega
    · have hfree : memo.length < capacity := by
        simpa [hp] using hroom
      have := List.length_filter_le (·.1 ≠ position) memo
      omega

/-- **A bounded memo stays bounded when a result is kept** at a position that is not too deep. -/
theorem Bounded.keep (hb : Bounded config memo) {position : Position}
    (hd : position.length ≤ config.maxDepth) (entry : MemoEntry) :
    Bounded config (memo.keep config.memoCapacity position entry) where
  room := length_keep_le _ _ _ hb.room
  once := by
    rw [Memo.keep, List.map_cons, List.nodup_cons]
    refine ⟨fun hmem => ?_, ?_⟩
    · obtain ⟨kept, hk, heq⟩ := List.mem_map.1 hmem
      exact of_decide_eq_true (List.mem_filter.1 hk).2 heq
    · refine List.Nodup.sublist (List.filter_sublist.map _) ?_
      split
      · exact .nil
      · exact hb.once
  shallow kept hk := by
    rcases mem_keep hk with rfl | hk
    · exact hd
    · exact hb.shallow kept hk

end Memo

/-! ## On the way -/

section Rendered

variable {rules : RenderRules} {scope : Scope}

mutual

/-- **Within the bounds before a node means within them after.** -/
theorem Yields.bounded {depth position node s r} : Yields rules scope depth position node s r →
    position.length = depth → s.memo.Bounded rules.config → r.2.memo.Bounded rules.config
  | .deep _, _, hb | .kept _ _, _, hb => hb
  | .closed hd _ _, hp, hb => hb.keep (hp ▸ Nat.le_of_not_lt hd) _
  | .lost _ all, hp, hb | .failed _ all _, hp, hb => all.bounded hp hb
  | .built w all _, hp, hb => (all.bounded hp hb).keep (hp ▸ Nat.le_of_not_lt w.shallow) _

theorem AllYield.bounded {depth position index nodes s r} :
    AllYield rules scope depth position index nodes s r → position.length = depth →
    s.memo.Bounded rules.config → r.2.memo.Bounded rules.config
  | .nil, _, hb => hb
  | .lost first, hp, hb => first.bounded (by simp [hp]) hb
  | .cons first others, hp, hb => others.bounded hp (first.bounded (by simp [hp]) hb)

end

mutual

/-- **What rendering a node comes to on the way**: before it, while the children are rendered, when
the factory has been called, and after it. -/
inductive Midway (rules : RenderRules) (scope : Scope) :
    Nat → Position → Node → RenderState → RenderState → Prop where
  | before {depth position node s} : Midway rules scope depth position node s s
  | within {depth position node s factory t}
      (w : WorkedOut rules scope depth position node s factory)
      (m : AllMidway rules scope depth position 0 node.children s t) :
      Midway rules scope depth position node s t
  | called {depth position node s factory elements t}
      (w : WorkedOut rules scope depth position node s factory)
      (hr : renderChildren rules scope depth position 0 node.children s = (.ok elements, t)) :
      Midway rules scope depth position node s (t.called node.kind node.id)
  | after {depth position node s} :
      Midway rules scope depth position node s (renderAt rules scope depth position node s).2

/-- What rendering the children of a node comes to on the way, from the one of an index on. -/
inductive AllMidway (rules : RenderRules) (scope : Scope) :
    Nat → Position → Nat → List Node → RenderState → RenderState → Prop where
  | before {depth position index nodes s} : AllMidway rules scope depth position index nodes s s
  | first {depth position index node rest s t}
      (m : Midway rules scope (depth + 1) (position ++ [index]) node s t) :
      AllMidway rules scope depth position index (node :: rest) s t
  | others {depth position index node rest s element s' t}
      (hr : renderAt rules scope (depth + 1) (position ++ [index]) node s = (.ok element, s'))
      (m : AllMidway rules scope depth position (index + 1) rest s' t) :
      AllMidway rules scope depth position index (node :: rest) s t

end

section Ended

variable {depth : Nat} {position : Position} {s : RenderState}

theorem bounded_of_renderAt {node : Node} {r : Rendering (Option Element)}
    (hr : renderAt rules scope depth position node s = r) (hp : position.length = depth)
    (hb : s.memo.Bounded rules.config) : r.2.memo.Bounded rules.config :=
  hr ▸ (renderAt_yields depth position node s).bounded hp hb

theorem bounded_of_renderChildren {index : Nat} {nodes : List Node} {r : Rendering (List Element)}
    (hr : renderChildren rules scope depth position index nodes s = r)
    (hp : position.length = depth) (hb : s.memo.Bounded rules.config) :
    r.2.memo.Bounded rules.config :=
  hr ▸ (renderChildren_yields depth position index nodes s).bounded hp hb

end Ended

mutual

/-- The memo is bounded all the way. -/
theorem Midway.bounded {depth position node s t} : Midway rules scope depth position node s t →
    position.length = depth → s.memo.Bounded rules.config → t.memo.Bounded rules.config
  | .before, _, hb => hb
  | .within _ m, hp, hb => m.bounded hp hb
  | .called _ hr, hp, hb => bounded_of_renderChildren hr hp hb
  | .after, hp, hb => bounded_of_renderAt rfl hp hb

/-- Nor are the bounds left in between. -/
theorem AllMidway.bounded {depth position index nodes s t} :
    AllMidway rules scope depth position index nodes s t → position.length = depth →
    s.memo.Bounded rules.config → t.memo.Bounded rules.config
  | .before, _, hb => hb
  | .first m, hp, hb => m.bounded (by simp [hp]) hb
  | .others hr m, hp, hb => m.bounded hp (bounded_of_renderAt hr (by simp [hp]) hb)

end

end Rendered

/-! ## One tree after the other -/

namespace Interpreter

/-- Renders a single node. -/
def renderSingle (i : Interpreter) (scope : Scope) (node : Node) :
    Except BuildFailure (Option Element) × Interpreter :=
  let (outcome, s) := renderNode i.rules scope node { memo := i.memo }
  (outcome, { i with memo := s.memo })

/-- **What an interpreter goes through**, whatever is rendered, and however it ends. -/
inductive Life (config : RendererConfig) : Interpreter → Prop where
  | begin (primitives : Keyed Factory) (patterns : Patterns) :
      Life config { rules := ⟨primitives, config, patterns⟩ }
  | render {i} (l : Life config i) (scope : Scope) (tree : List Node) :
      Life config (i.render scope tree).2
  | renderSingle {i} (l : Life config i) (scope : Scope) (node : Node) :
      Life config (i.renderSingle scope node).2
  | register {i} (l : Life config i) (kind : String) (factory : Factory) :
      Life config (i.register kind factory)
  | clear {i} (l : Life config i) : Life config i.clear

/-- **What the memo of an interpreter comes to next**, before anything is rendered or on the way. -/
inductive Moment (i : Interpreter) : Memo → Prop where
  | idle : Moment i i.memo
  | rendering {scope tree t} (m : AllMidway i.rules scope 0 [] 0 tree { memo := i.memo } t) :
      Moment i t.memo
  | renderingSingle {scope node t} (m : Midway i.rules scope 1 [0] node { memo := i.memo } t) :
      Moment i t.memo

variable {config : RendererConfig} {i : Interpreter}

theorem Life.config_eq (l : Life config i) : i.rules.config = config := by
  induction l with
  | begin => rfl
  | render _ _ _ ih | renderSingle _ _ _ ih | register _ _ _ ih | clear _ ih => exact ih

/-- The memo is bounded whenever nothing is being rendered. -/
theorem Life.bounded (l : Life config i) : i.memo.Bounded config := by
  induction l with
  | begin | clear => exact Memo.bounded_nil config
  | register _ _ _ ih => exact ih
  | @render i l scope tree ih =>
    rw [← l.config_eq] at ih ⊢
    exact (renderTree_yields i.rules scope tree { memo := i.memo }).bounded rfl ih
  | @renderSingle i l scope node ih =>
    rw [← l.config_eq] at ih ⊢
    exact bounded_of_renderAt (r := renderNode i.rules scope node { memo := i.memo }) rfl rfl ih

/-- **The memo keeps no more than there is room for.**  Whatever has been rendered, with whatever
outcome, registered and cleared before: at every moment, also while a tree or a node is rendered,
there is room for what is kept (for one result at least), with one result at most for a position,
and none for a position deeper than trees are rendered. -/
theorem Life.memo_bounded (l : Life config i) {memo : Memo} (m : i.Moment memo) :
    memo.Bounded config := by
  have hb := l.bounded
  rw [← l.config_eq] at hb ⊢
  cases m with
  | idle => exact hb
  | rendering m => exact m.bounded rfl hb
  | renderingSingle m => exact m.bounded rfl hb

/-- Room for two results, one above the other. -/
def narrow : RendererConfig := { maxDepth := 2, memoCapacity := 2 }

/-- A page with two lines, the second of which has something in it that is too deep. -/
def page (title : String) : Node where
  kind := "View"
  children :=
    [{ kind := "Text", props := [("text", .str title)] },
     { kind := "Text", children := [.new "Icon"] }]

/-- Two results are kept when the first line of another page has been rendered. -/
theorem memo_bounded_page : ∃ (i : Interpreter) (memo : Memo), Life narrow i ∧ i.Moment memo
    ∧ memo.map Prod.fst = [[0, 0], [0]] ∧ memo.Bounded narrow := by
  let rules : RenderRules := ⟨Primitive.builtins, narrow, Pattern.dialect⟩
  have l : Life narrow (Interpreter.render { rules } blank [page "News"]).2 :=
    .render (.begin Primitive.builtins Pattern.dialect) blank [page "News"]
  let i : Interpreter := (Interpreter.render { rules } blank [page "News"]).2
  have w : WorkedOut i.rules blank 1 [0] (page "More") { memo := i.memo } Primitive.plain :=
    ⟨by decide, by rfl, by rfl, by rfl⟩
  have hr : renderAt i.rules blank 2 [0, 0] { kind := "Text", props := [("text", .str "More")] }
    { memo := i.memo } = (.ok _, _) := rfl
  have m : AllMidway i.rules blank 0 [] 0 [page "More"] { memo := i.memo } _ :=
    .first (.within w (.others hr .before))
  exact ⟨i, _, l, .rendering m, rfl, l.memo_bounded (.rendering m)⟩

end Interpreter

end RemoteScreen
