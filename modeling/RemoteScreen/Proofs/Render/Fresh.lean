import RemoteScreen.Proofs.Render.Memo

/-!
# Proofs/Render/Fresh — rendering with nothing kept

No two nodes of a tree have one position, and what is kept of a node and of those below it is kept
at its position or behind it.  So a rendering that begins with nothing kept never comes upon what it
has kept itself: **it comes to what rendering without a memo comes to** (`renderTree_of_nil`), for
any tree and under any stamp.
-/

namespace RemoteScreen

/-- Nothing is kept at a position or behind it. -/
def Memo.Avoids (memo : Memo) (position : Position) : Prop :=
  ∀ kept ∈ memo, ¬ position <+: kept.1

namespace Memo.Avoids

variable {memo : Memo} {position : Position}

theorem nil (position : Position) : Avoids [] position := fun _ hm => by cases hm

/-- Nothing is kept for a position that the entries avoid. -/
theorem kept?_eq_none (ha : memo.Avoids position) (stamp : Stamp) (node : Node) :
    memo.kept? position stamp node = none := by
  cases hk : memo.kept? position stamp node with
  | none => rfl
  | some element =>
    obtain ⟨entry, hmem, -⟩ := mem_of_kept? hk
    exact absurd (List.prefix_refl position) (ha _ hmem)

/-- What is behind a position is avoided with it. -/
theorem behind (ha : memo.Avoids position) (index : Nat) : memo.Avoids (position ++ [index]) :=
  fun kept hm hp => ha kept hm ((List.prefix_append position [index]).trans hp)

end Memo.Avoids

/-- Two children of one node have nothing behind them in common. -/
theorem Position.eq_of_behind {position place : Position} {i j : Nat}
    (hi : position ++ [i] <+: place) (hj : position ++ [j] <+: place) : i = j := by
  have hij : position ++ [i] = position ++ [j] :=
    (List.prefix_of_prefix_length_le hi hj (by simp)).eq_of_length (by simp)
  simpa using hij

variable {rules : RenderRules} {scope : Scope}

/-- The outcome is that of rendering without a memo, and what is new is kept where it may be. -/
structure Anew {α : Type} (plain : Except BuildFailure α) (place : Position → Prop) (memo : Memo)
    (r : Rendering α) : Prop where
  outcome : r.1 = plain
  places : ∀ kept ∈ r.2.memo, kept ∈ memo ∨ place kept.1

namespace Anew

variable {α : Type} {plain : Except BuildFailure α} {place : Position → Prop} {memo : Memo}
  {r : Rendering α}

/-- What is kept of the children of a node is kept behind its position. -/
theorem places_behind {position : Position} {index : Nat}
    (ha : Anew plain (fun place => ∃ i, index ≤ i ∧ position ++ [i] <+: place) memo r) :
    ∀ kept ∈ r.2.memo, kept ∈ memo ∨ position <+: kept.1 := fun kept hk =>
  (ha.places kept hk).imp_right fun ⟨i, _, hi⟩ => (List.prefix_append position [i]).trans hi

/-- What has been worked out may be kept at its position. -/
theorem places_keep {s : RenderState} (hs : ∀ kept ∈ s.memo, kept ∈ memo ∨ place kept.1)
    {position : Position} (hp : place position) (capacity : Nat) (entry : MemoEntry) :
    ∀ kept ∈ (s.keep capacity position entry).memo, kept ∈ memo ∨ place kept.1 := by
  intro kept hk
  rcases Memo.mem_keep hk with rfl | hk
  · exact .inr hp
  · exact hs kept hk

end Anew

mutual

/-- **Where nothing is kept, a node shows what it shows without a memo**, and what is kept of it is
kept at its position or behind it. -/
theorem Yields.anew {depth position node s r} :
    Yields rules scope depth position node s r → s.memo.Avoids position →
    Anew (elementAt rules scope depth node) (position <+: ·) s.memo r
  | .deep hd, _ => ⟨(elementAt_deep hd).symm, fun _ hk => .inl hk⟩
  | .kept _ hk, hm => by simp [hm.kept?_eq_none] at hk
  | .closed _ _ hc, _ =>
    ⟨(elementAt_closed hc).symm,
      Anew.places_keep (fun _ hk => .inl hk) (List.prefix_refl position) _ _⟩
  | .lost w all, hm => by
    have hall := all.anew fun i _ => hm.behind i
    refine ⟨?_, hall.places_behind⟩
    rw [elementAt_open w.shallow w.shown w.known, ← hall.outcome]
    rfl
  | .failed w all he, hm => by
    have hall := all.anew fun i _ => hm.behind i
    refine ⟨?_, hall.places_behind⟩
    rw [elementAt_open w.shallow w.shown w.known, ← hall.outcome, Except.bind, he]
    rfl
  | .built w all he, hm => by
    have hall := all.anew fun i _ => hm.behind i
    refine ⟨?_, Anew.places_keep hall.places_behind (List.prefix_refl position) _ _⟩
    rw [elementAt_open w.shallow w.shown w.known, ← hall.outcome, Except.bind, he]
    rfl

/-- Children are all worked out anew where nothing is kept below them. -/
theorem AllYield.anew {depth position index nodes s r} :
    AllYield rules scope depth position index nodes s r →
    (∀ i, index ≤ i → s.memo.Avoids (position ++ [i])) →
    Anew (elementsAt rules scope depth nodes)
      (fun place => ∃ i, index ≤ i ∧ position ++ [i] <+: place) s.memo r
  | .nil, _ => ⟨rfl, fun _ hk => .inl hk⟩
  | .lost first, hm => by
    have hfirst := first.anew (hm index (Nat.le_refl _))
    refine ⟨?_, fun kept hk => (hfirst.places kept hk).imp_right fun hp =>
      ⟨index, Nat.le_refl _, hp⟩⟩
    rw [elementsAt_cons, ← hfirst.outcome]
    rfl
  | .cons first others, hm => by
    have hfirst := first.anew (hm index (Nat.le_refl _))
    have hothers := others.anew fun i hi kept hk hp => by
      rcases hfirst.places kept hk with hold | hnew
      · exact hm i (by omega) kept hold hp
      · have := Position.eq_of_behind hnew hp
        omega
    refine ⟨?_, fun kept hk => ?_⟩
    · rw [elementsAt_cons, ← hfirst.outcome, ← hothers.outcome]
      rfl
    · rcases hothers.places kept hk with hold | ⟨i, hi, hp⟩
      · exact (hfirst.places kept hold).imp_right fun hp => ⟨index, Nat.le_refl _, hp⟩
      · exact .inr ⟨i, by omega, hp⟩

end

/-- **A tree shows with nothing kept what it shows without a memo.** -/
theorem renderTree_of_nil (rules : RenderRules) (scope : Scope) (tree : List Node)
    {s : RenderState} (hs : s.memo = []) :
    (renderTree rules scope tree s).1 = elementsAt rules scope 0 tree := by
  refine ((renderTree_yields rules scope tree s).anew fun i _ => ?_).outcome
  rw [hs]
  exact .nil _

end RemoteScreen
