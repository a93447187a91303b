import RemoteScreen.Proofs.Node.Alike
import RemoteScreen.Proofs.Render.Memo

/-!
# Proofs/Render/Alike — what a memo can change

A kept result is used again for a node that is equal as data to the one it was worked out for, and
that may be another one: equality as data takes the two floating zeros for one.  So rendering with a
memo comes to **what an equal tree shows without one** (`renderTree_alike`), whatever the trees that
have been rendered; a memo can change no more than the sign of a zero.
-/

namespace RemoteScreen

namespace Memo

variable {rules : RenderRules} {scopes : Scopes} {scope : Scope} {memo : Memo}

/-- The entry is what a node equal to its own shows in a scope, at the depth of its position. -/
def ShowsLike (rules : RenderRules) (scope : Scope) (position : Position) (entry : MemoEntry) :
    Prop :=
  ∃ node : Node, node.same entry.node = true
    ∧ elementAt rules scope position.length node = .ok entry.element

/-- **What is kept under the stamp of a scope is what equal nodes show in it.** -/
def LikeIn (rules : RenderRules) (scope : Scope) (memo : Memo) : Prop :=
  ∀ position entry, (position, entry) ∈ memo → entry.stamp = scope.stamp →
    ShowsLike rules scope position entry

/-- What is kept for a node is what an equal one shows. -/
theorem LikeIn.kept? (hm : LikeIn rules scope memo) {position : Position} {node : Node}
    {element : Option Element} (hk : memo.kept? position scope.stamp node = some element) :
    ∃ like : Node, like.same node = true
      ∧ elementAt rules scope position.length like = .ok element := by
  obtain ⟨entry, hmem, hst, hsame, rfl⟩ := mem_of_kept? hk
  obtain ⟨like, hlike, hshows⟩ := hm position entry hmem hst
  exact ⟨like, Node.same_trans _ _ _ hlike hsame, hshows⟩

/-- An entry that shows what it should is kept beside others that do. -/
theorem LikeIn.keep (hm : LikeIn rules scope memo) {position : Position} {entry : MemoEntry}
    (he : ShowsLike rules scope position entry) (capacity : Nat) :
    LikeIn rules scope (memo.keep capacity position entry) := by
  intro position' entry' hmem hst
  rcases mem_keep hmem with heq | hmem
  · obtain ⟨rfl, rfl⟩ := Prod.mk.inj heq
    exact he
  · exact hm position' entry' hmem hst

/-- **Every entry is what an equal node shows**, in a scope of its stamp. -/
def Like (rules : RenderRules) (scopes : Scopes) (memo : Memo) : Prop :=
  ∀ position entry, (position, entry) ∈ memo →
    ∃ scope, scopes.mem scope ∧ scope.stamp = entry.stamp ∧ ShowsLike rules scope position entry

theorem like_nil : Like rules scopes [] := fun _ _ hm => by cases hm

theorem Like.likeIn (hm : Like rules scopes memo) (hs : scopes.mem scope) :
    LikeIn rules scope memo := by
  intro position entry hmem hst
  obtain ⟨scope', hs', hst', hshows⟩ := hm position entry hmem
  rwa [← scopes.told scope' scope hs' hs (hst'.trans hst)]

/-- The scopes may become more. -/
theorem Like.mono {scopes' : Scopes} (hsub : ∀ s, scopes.mem s → scopes'.mem s)
    (hm : Like rules scopes memo) : Like rules scopes' memo := by
  intro position entry hmem
  obtain ⟨scope, hs, he⟩ := hm position entry hmem
  exact ⟨scope, hsub scope hs, he⟩

end Memo

variable {rules : RenderRules} {scopes : Scopes} {scope : Scope}

/-- **What rendering a node comes to with what is kept**: what an equal node shows, and what is
kept is again what equal nodes show. -/
structure LikeNode (rules : RenderRules) (scope : Scope) (depth : Nat) (node : Node)
    (r : Rendering (Option Element)) : Prop where
  outcome : ∃ like : Node, like.same node = true ∧ r.1 = elementAt rules scope depth like
  memo : r.2.memo.LikeIn rules scope

/-- What rendering nodes comes to with what is kept. -/
structure LikeNodes (rules : RenderRules) (scope : Scope) (depth : Nat) (nodes : List Node)
    (r : Rendering (List Element)) : Prop where
  outcome : ∃ likes, Node.sameAll likes nodes = true ∧ r.1 = elementsAt rules scope depth likes
  memo : r.2.memo.LikeIn rules scope

/-- What has been worked out for an equal node is kept. -/
theorem LikeNode.keep {depth : Nat} {position : Position} {node like : Node}
    {element : Option Element} {s : RenderState} (hp : position.length = depth)
    (hm : s.memo.LikeIn rules scope) (hlike : like.same node = true)
    (he : elementAt rules scope depth like = .ok element) :
    LikeNode rules scope depth node
      (.ok element, s.keep rules.config.memoCapacity position ⟨scope.stamp, node, element⟩) :=
  ⟨⟨like, hlike, he.symm⟩, hm.keep ⟨like, hlike, hp ▸ he⟩ _⟩

/-- What fails at its first node fails. -/
theorem LikeNodes.lost {depth : Nat} {node like : Node} {rest : List Node} {e : BuildFailure}
    {s : RenderState} (hm : s.memo.LikeIn rules scope) (hlike : like.same node = true)
    (he : .error e = elementAt rules scope (depth + 1) like) :
    LikeNodes rules scope depth (node :: rest) (.error e, s) := by
  refine ⟨⟨like :: rest, by simp [Node.sameAll, hlike, Node.sameAll_self], ?_⟩, hm⟩
  rw [elementsAt_cons, ← he]
  rfl

/-- What is worked out for a node with other children. -/
theorem WorkedOut.elementAt_eq {depth : Nat} {position : Position} {node : Node} {s : RenderState}
    {factory : Factory} (w : WorkedOut rules scope depth position node s factory)
    (children : List Node) :
    elementAt rules scope depth { node with children }
      = (elementsAt rules scope depth children).bind
          fun elements => (factory (node.draft rules.patterns scope elements)).map some := by
  rw [elementAt_open w.shallow (by exact w.shown) (by exact w.known)]
  rfl

mutual

/-- **What a node yields is what one like it would yield plainly**, and the entries stay so. -/
theorem Yields.like {depth position node s r} : Yields rules scope depth position node s r →
    position.length = depth → s.memo.LikeIn rules scope → LikeNode rules scope depth node r
  | .deep hd, _, hm => ⟨⟨node, node.same_self, (elementAt_deep hd).symm⟩, hm⟩
  | .kept _ hk, hp, hm => by
    obtain ⟨like, hlike, hshows⟩ := hm.kept? hk
    exact ⟨⟨like, hlike, hp ▸ hshows.symm⟩, hm⟩
  | .closed _ _ hc, hp, hm => .keep hp hm node.same_self (elementAt_closed hc)
  | .lost w all, hp, hm => by
    obtain ⟨⟨likes, hlikes, hout⟩, hm'⟩ := all.like hp hm
    refine ⟨⟨_, node.same_withChildren hlikes, ?_⟩, hm'⟩
    rw [w.elementAt_eq, ← hout]
    rfl
  | .failed w all he, hp, hm => by
    obtain ⟨⟨likes, hlikes, hout⟩, hm'⟩ := all.like hp hm
    refine ⟨⟨_, node.same_withChildren hlikes, ?_⟩, hm'⟩
    rw [w.elementAt_eq, ← hout]
    exact (congrArg (Except.map some) he).symm
  | .built w all he, hp, hm => by
    obtain ⟨⟨likes, hlikes, hout⟩, hm'⟩ := all.like hp hm
    refine .keep (s := RenderState.called _ _ _) hp hm' (node.same_withChildren hlikes) ?_
    rw [w.elementAt_eq, ← hout]
    exact congrArg (Except.map some) he

/-- And so it is with the children of a node. -/
theorem AllYield.like {depth position index nodes s r} :
    AllYield rules scope depth position index nodes s r → position.length = depth →
    s.memo.LikeIn rules scope → LikeNodes rules scope depth nodes r
  | .nil, _, hm => ⟨⟨[], rfl, rfl⟩, hm⟩
  | .lost first, hp, hm => by
    obtain ⟨⟨like, hlike, hout⟩, hm'⟩ := first.like (by simp [hp]) hm
    exact .lost hm' hlike hout
  | .cons first others, hp, hm => by
    obtain ⟨⟨like, hlike, hout⟩, hm'⟩ := first.like (by simp [hp]) hm
    obtain ⟨⟨likes, hlikes, hout'⟩, hm''⟩ := others.like hp hm'
    refine ⟨⟨like :: likes, by simp [Node.sameAll, hlike, hlikes], ?_⟩, hm''⟩
    rw [elementsAt_cons, ← hout, ← hout']
    rfl

end

/-- **With a memo a tree shows what an equal tree shows without one**, and what is kept is again
what equal nodes show. -/
theorem renderTree_alike (hs : scopes.mem scope) (tree : List Node) {s : RenderState}
    (hm : s.memo.Like rules scopes) :
    (∃ like, Node.sameAll like tree = true
        ∧ (renderTree rules scope tree s).1 = elementsAt rules scope 0 like)
      ∧ (renderTree rules scope tree s).2.memo.Like rules scopes := by
  obtain ⟨hout, hlike⟩ := (renderTree_yields rules scope tree s).like rfl (hm.likeIn hs)
  refine ⟨hout, fun position entry hmem => ?_⟩
  rcases (renderTree_renders rules scope tree s).stamps _ hmem with hold | hst
  · exact hm position entry hold
  · exact ⟨scope, hs, hst.symm, hlike position entry hmem hst⟩

end RemoteScreen
