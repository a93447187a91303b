import RemoteScreen.Proofs.Node.Same
import RemoteScreen.Proofs.Render.Plain
import RemoteScreen.Proofs.Render.Yields

/-!
# Proofs/Render/Memo — a memo changes nothing

A memo is **true of a scope** when what it keeps under the scope's stamp is what shows in the scope
(`Memo.TrueOf`); it is **sound** when it is true of all scopes there have been, and keeps nothing
under other stamps (`Memo.Sound`).  Stamps of scopes tell them apart, and equality as data tells
nodes apart, so a kept result is what would be worked out anew: with a sound memo **rendering comes
to what it comes to without one, and leaves the memo sound**, also when it fails half way
(`renderTree_agrees`).
-/

namespace RemoteScreen

/-- The scopes there have been, which their stamps tell apart. -/
structure Scopes where
  mem : Scope → Prop
  told : ∀ s t, mem s → mem t → s.stamp = t.stamp → s = t

namespace Memo

variable {rules : RenderRules} {scopes : Scopes} {scope : Scope} {memo : Memo}

/-- What is found was kept, with the stamp, for a node like the one asked for. -/
theorem mem_of_kept? {position : Position} {stamp : Stamp} {node : Node} {element : Option Element}
    (hk : memo.kept? position stamp node = some element) :
    ∃ entry, (position, entry) ∈ memo ∧ entry.stamp = stamp ∧ entry.node.same node = true
      ∧ entry.element = element := by
  rw [kept?] at hk
  split at hk
  · next entry hl =>
    split at hk
    · next heq =>
      obtain ⟨before, after, hmemo, -⟩ := List.lookup_eq_some_iff.1 hl
      exact ⟨entry, by simp [hmemo], heq.1, heq.2, Option.some.inj hk⟩
    · cases hk
  · cases hk

/-- After an entry is kept there is that one, and no other but those before. -/
theorem mem_keep {capacity : Nat} {position : Position} {entry : MemoEntry}
    {kept : Position × MemoEntry} (hm : kept ∈ memo.keep capacity position entry) :
    kept = (position, entry) ∨ kept ∈ memo := by
  rw [keep] at hm
  refine (List.mem_cons.1 hm).imp_right fun hm => ?_
  have hroom := (List.mem_filter.1 hm).1
  split at hroom
  · cases hroom
  · exact hroom

/-- The entry is what its node shows in a scope, at the depth of its position. -/
structure ShowsAs (rules : RenderRules) (scope : Scope) (position : Position) (entry : MemoEntry) :
    Prop where
  clean : Number.negZero ∉ entry.node.numbers
  element : elementAt rules scope position.length entry.node = .ok entry.element

/-- **What is kept under the stamp of a scope is what shows in it.** -/
def TrueOf (rules : RenderRules) (scope : Scope) (memo : Memo) : Prop :=
  ∀ position entry, (position, entry) ∈ memo → entry.stamp = scope.stamp →
    ShowsAs rules scope position entry

/-- **What is kept is what would be worked out.** -/
theorem TrueOf.kept? (hm : TrueOf rules scope memo) {position : Position} {node : Node}
    {element : Option Element} (hn : Number.negZero ∉ node.numbers)
    (hk : memo.kept? position scope.stamp node = some element) :
    elementAt rules scope position.length node = .ok element := by
  obtain ⟨entry, hmem, hst, hsame, rfl⟩ := mem_of_kept? hk
  have hshows := hm position entry hmem hst
  rw [← Node.eq_of_same _ _ hshows.clean hn hsame]
  exact hshows.element

theorem TrueOf.keep (hm : TrueOf rules scope memo) {position : Position} {entry : MemoEntry}
    (he : ShowsAs rules scope position entry) (capacity : Nat) :
    TrueOf rules scope (memo.keep capacity position entry) := by
  intro position' entry' hmem hst
  rcases mem_keep hmem with heq | hmem
  · obtain ⟨rfl, rfl⟩ := Prod.mk.inj heq
    exact he
  · exact hm position' entry' hmem hst

/-- The entry is what its node shows at its position, in a scope of its stamp. -/
def SoundAt (rules : RenderRules) (scopes : Scopes) (position : Position) (entry : MemoEntry) :
    Prop :=
  ∃ scope, scopes.mem scope ∧ scope.stamp = entry.stamp ∧ ShowsAs rules scope position entry

/-- **Every entry is what its node shows.** -/
def Sound (rules : RenderRules) (scopes : Scopes) (memo : Memo) : Prop :=
  ∀ position entry, (position, entry) ∈ memo → SoundAt rules scopes position entry

theorem sound_nil : Sound rules scopes [] := fun _ _ hm => by cases hm

/-- A sound memo is true of each of the scopes. -/
theorem Sound.trueOf (hm : Sound rules scopes memo) (hs : scopes.mem scope) :
    TrueOf rules scope memo := by
  intro position entry hmem hst
  obtain ⟨scope', hs', hst', hshows⟩ := hm position entry hmem
  rwa [← scopes.told scope' scope hs' hs (hst'.trans hst)]

/-- The scopes may become more. -/
theorem Sound.mono {scopes' : Scopes} (hsub : ∀ s, scopes.mem s → scopes'.mem s)
    (hm : Sound rules scopes memo) : Sound rules scopes' memo := by
  intro position entry hmem
  obtain ⟨scope, hs, he⟩ := hm position entry hmem
  exact ⟨scope, hsub scope hs, he⟩

end Memo

variable {rules : RenderRules} {scopes : Scopes} {scope : Scope}

/-- **What rendering does with what is kept**: what is new is kept under the stamp of the scope, and
if the memo is true of the scope, then the outcome is that of rendering without one, and the memo
stays true. -/
structure Renders {α : Type} (rules : RenderRules) (scope : Scope) (clean : Prop)
    (plain : Except BuildFailure α) (memo : Memo) (r : Rendering α) : Prop where
  stamps : ∀ kept ∈ r.2.memo, kept ∈ memo ∨ kept.2.stamp = scope.stamp
  faithful : clean → memo.TrueOf rules scope → r.1 = plain ∧ r.2.memo.TrueOf rules scope

theorem Node.clean_children {node : Node} (hn : Number.negZero ∉ node.numbers) :
    Number.negZero ∉ Node.allNumbers node.children := by
  obtain ⟨_, _, _, _, _, _, _⟩ := node
  exact fun hmem => hn (by simp [Node.numbers, hmem])

namespace Renders

variable {clean : Prop} {memo : Memo} {depth : Nat} {position : Position} {node : Node}
  {element : Option Element} {s : RenderState}

/-- Nothing is kept. -/
theorem skip {plain : Except BuildFailure (Option Element)}
    (he : clean → memo.TrueOf rules scope → plain = .ok element) (hs : s.memo = memo) :
    Renders rules scope clean plain memo (.ok element, s) :=
  ⟨fun _ hk => .inl (hs ▸ hk), fun hc hm => ⟨(he hc hm).symm, hs ▸ hm⟩⟩

/-- What has been worked out is kept, and is what shows. -/
theorem keep (hp : position.length = depth)
    (hst : ∀ kept ∈ s.memo, kept ∈ memo ∨ kept.2.stamp = scope.stamp)
    (he : Number.negZero ∉ node.numbers → memo.TrueOf rules scope →
      elementAt rules scope depth node = .ok element ∧ s.memo.TrueOf rules scope) :
    Renders rules scope (Number.negZero ∉ node.numbers) (elementAt rules scope depth node) memo
      (.ok element, s.keep rules.config.memoCapacity position ⟨scope.stamp, node, element⟩) := by
  refine ⟨fun kept hk => ?_, fun hn hm => ?_⟩
  · rcases Memo.mem_keep hk with rfl | hk
    · exact .inr rfl
    · exact hst kept hk
  · obtain ⟨helement, hm'⟩ := he hn hm
    exact ⟨helement.symm, hm'.keep ⟨hn, hp ▸ helement⟩ _⟩

end Renders

mutual

/-- **What a node yields is what it renders plainly**, on entries that are true. -/
theorem Yields.renders {depth position node s r} :
    Yields rules scope depth position node s r → position.length = depth →
    Renders rules scope (Number.negZero ∉ node.numbers) (elementAt rules scope depth node) s.memo r
  | .deep hd, _ => .skip (fun _ _ => elementAt_deep hd) rfl
  | .kept _ hk, hp => .skip (fun hn hm => hp ▸ hm.kept? hn hk) rfl
  | .closed _ _ hc, hp =>
    .keep hp (fun _ hk => .inl hk) fun _ hm => ⟨elementAt_closed hc, hm⟩
  | .lost w all, hp => by
    have hall := all.renders hp
    refine ⟨hall.stamps, fun hn hm => ?_⟩
    obtain ⟨hout, hm'⟩ := hall.faithful (Node.clean_children hn) hm
    rw [elementAt_open w.shallow w.shown w.known, ← hout]
    exact ⟨rfl, hm'⟩
  | .failed w all he, hp => by
    have hall := all.renders hp
    refine ⟨hall.stamps, fun hn hm => ?_⟩
    obtain ⟨hout, hm'⟩ := hall.faithful (Node.clean_children hn) hm
    rw [elementAt_open w.shallow w.shown w.known, ← hout, Except.bind, he]
    exact ⟨rfl, hm'⟩
  | .built w all he, hp => by
    have hall := all.renders hp
    refine .keep hp hall.stamps fun hn hm => ?_
    obtain ⟨hout, hm'⟩ := hall.faithful (Node.clean_children hn) hm
    rw [elementAt_open w.shallow w.shown w.known, ← hout, Except.bind, he]
    exact ⟨rfl, hm'⟩

theorem AllYield.renders {depth position index nodes s r} :
    AllYield rules scope depth position index nodes s r → position.length = depth →
    Renders rules scope (Number.negZero ∉ Node.allNumbers nodes)
      (elementsAt rules scope depth nodes) s.memo r
  | .nil, _ => ⟨fun _ hk => .inl hk, fun _ hm => ⟨rfl, hm⟩⟩
  | .lost first, hp => by
    have hfirst := first.renders (by simp [hp])
    refine ⟨hfirst.stamps, fun hn hm => ?_⟩
    rw [Node.allNumbers, List.mem_append, not_or] at hn
    obtain ⟨hout, hm'⟩ := hfirst.faithful hn.1 hm
    rw [elementsAt_cons, ← hout]
    exact ⟨rfl, hm'⟩
  | .cons first others, hp => by
    have hfirst := first.renders (by simp [hp])
    have hothers := others.renders hp
    refine ⟨fun kept hk => (hothers.stamps kept hk).elim (hfirst.stamps kept) .inr, fun hn hm => ?_⟩
    rw [Node.allNumbers, List.mem_append, not_or] at hn
    obtain ⟨hout, hm'⟩ := hfirst.faithful hn.1 hm
    obtain ⟨hout', hm''⟩ := hothers.faithful hn.2 hm'
    rw [elementsAt_cons, ← hout, ← hout']
    exact ⟨rfl, hm''⟩

end

/-- What rendering a tree does with what is kept. -/
theorem renderTree_renders (rules : RenderRules) (scope : Scope) (tree : List Node)
    (s : RenderState) :
    Renders rules scope (Number.negZero ∉ Node.allNumbers tree) (elementsAt rules scope 0 tree)
      s.memo (renderTree rules scope tree s) := (renderTree_yields rules scope tree s).renders rfl

/-- The outcome is that of rendering without a memo, and the memo is sound. -/
structure Agrees {α : Type} (rules : RenderRules) (scopes : Scopes) (plain : Except BuildFailure α)
    (r : Rendering α) : Prop where
  outcome : r.1 = plain
  sound : r.2.memo.Sound rules scopes

/-- **With a sound memo a tree shows what it shows without one, and the memo stays sound.** -/
theorem renderTree_agrees (hs : scopes.mem scope) {tree : List Node}
    (ht : Number.negZero ∉ Node.allNumbers tree) {s : RenderState}
    (hm : s.memo.Sound rules scopes) :
    Agrees rules scopes (elementsAt rules scope 0 tree) (renderTree rules scope tree s) := by
  have hr := renderTree_renders rules scope tree s
  obtain ⟨hout, htrue⟩ := hr.faithful ht (hm.trueOf hs)
  refine ⟨hout, fun position entry hmem => ?_⟩
  rcases hr.stamps _ hmem with hold | hst
  · exact hm position entry hold
  · exact ⟨scope, hs, hst.symm, htrue position entry hmem hst⟩

end RemoteScreen
