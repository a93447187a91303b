import RemoteScreen.Context

/-!
# Proofs/Context — a revision is a name for the data

A write either changes nothing or counts the revision up (`Write.eq_or_lt`), so among all contexts
that there have been, **a revision tells which data it was** (`Past.identifies`).
-/

namespace RemoteScreen

/-- A write changes no member of the data but the one that its path begins with. -/
theorem Json.members_set {root v : Json} {path key : String} {behind : List String}
    (hp : Path.segments path = key :: behind) {other : String} (ho : other ≠ key) :
    (root.set path v).members.get? other = root.members.get? other := by
  rw [Json.set, hp, Json.setAt]
  exact Keyed.get?_insert_of_ne _ _ (Ne.symm ho)

namespace Context

/-- A write at a path with no segments does nothing. -/
theorem set_of_nil {c : Context} {path : String} (hp : Path.segments path = []) (v : Json) :
    c.set path v = c := by
  rw [set, hp]
  rfl

/-- A write at any other path is one into the data. -/
theorem data_set {c : Context} {path key : String} {behind : List String}
    (hp : Path.segments path = key :: behind) (v : Json) :
    (c.set path v).data = c.data.set path v := by
  rw [set, hp]
  rfl

/-- Without an overlay the snapshot is the data. -/
theorem snapshot_none (c : Context) : c.snapshot none = c.data := by
  rw [snapshot, layer.eq_def]
  split
  · next heq => cases heq
  · rfl

/-- Shared data is written to. -/
inductive Write : Context → Context → Prop where
  | set (path : String) (v : Json) {c} : Write c (c.set path v)
  | remove (path : String) {c} : Write c (c.remove path).2
  | merge (update : Json) {c} : Write c (c.merge update)
  | clear {c} : Write c c.clear

/-- **A write changes nothing, or counts the revision up.** -/
theorem Write.eq_or_lt {c c' : Context} (w : Write c c') :
    c' = c ∨ c.revision < c'.revision := by
  have hnext : c.revision < c.revision + 1 := Nat.lt_succ_self _
  cases w with
  | set path v =>
    rw [Context.set]
    split
    · exact .inl rfl
    · exact .inr hnext
  | remove path =>
    rw [Context.remove]
    split
    · exact .inl rfl
    · split <;> exact .inr hnext
  | merge update =>
    rw [Context.merge.eq_def]
    split
    · split <;> exact .inr hnext
    · exact .inl rfl
  | clear => exact .inr hnext

/-- Shared data is written to any number of times. -/
inductive Writes : Context → Context → Prop where
  | refl {c} : Writes c c
  | tail {c c' c''} (ws : Writes c c') (w : Write c' c'') : Writes c c''

/-- One write is a run of writes. -/
theorem Write.writes {c c' : Context} (w : Write c c') : Writes c c' := .tail .refl w

theorem Writes.trans {c c' c'' : Context} (h : Writes c c') (h' : Writes c' c'') :
    Writes c c'' := by
  induction h' with
  | refl => exact h
  | tail _ w ih => exact .tail ih w

/-- What there has been up to a context: none later than it, and no two of one revision. -/
structure Past (past : List Context) (c : Context) : Prop where
  now : c ∈ past
  le : ∀ p ∈ past, p.revision ≤ c.revision
  identifies : ∀ p ∈ past, ∀ q ∈ past, p.revision = q.revision → p = q

theorem Past.start (c : Context) : Past [c] c where
  now := List.mem_singleton_self c
  le := by simp
  identifies := by simp

theorem Past.write {past : List Context} {c c' : Context} (h : Past past c) (w : Write c c') :
    Past (c' :: past) c' := by
  rcases w.eq_or_lt with rfl | hlt
  · refine ⟨List.mem_cons_self, ?_, ?_⟩
    · intro p hp
      rcases List.mem_cons.1 hp with rfl | hp
      · exact Nat.le_refl _
      · exact h.le p hp
    · have hmem : ∀ p ∈ c' :: past, p ∈ past := by
        intro p hp
        rcases List.mem_cons.1 hp with rfl | hp
        · exact h.now
        · exact hp
      exact fun p hp q hq => h.identifies p (hmem p hp) q (hmem q hq)
  · have hpast : ∀ p ∈ past, p.revision < c'.revision := fun p hp =>
      Nat.lt_of_le_of_lt (h.le p hp) hlt
    refine ⟨List.mem_cons_self, ?_, ?_⟩
    · intro p hp
      rcases List.mem_cons.1 hp with rfl | hp
      · exact Nat.le_refl _
      · exact Nat.le_of_lt (hpast p hp)
    · intro p hp q hq heq
      rcases List.mem_cons.1 hp with hp | hp <;> rcases List.mem_cons.1 hq with hq | hq
      · rw [hp, hq]
      · have := hpast q hq
        rw [hp] at heq
        omega
      · have := hpast p hp
        rw [hq] at heq
        omega
      · exact h.identifies p hp q hq heq

/-- However much is written, the past goes on as one. -/
theorem Past.writes {past : List Context} {c c' : Context} (h : Past past c) (ws : Writes c c') :
    ∃ past', (∀ p ∈ past, p ∈ past') ∧ Past past' c' := by
  induction ws with
  | refl => exact ⟨past, fun _ hp => hp, h⟩
  | tail _ w ih =>
    obtain ⟨past', hsub, h'⟩ := ih
    exact ⟨_, fun p hp => List.mem_cons_of_mem _ (hsub p hp), h'.write w⟩

end Context

end RemoteScreen
