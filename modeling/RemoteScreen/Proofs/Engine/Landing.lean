import RemoteScreen.Proofs.Engine.Told

/-!
# Proofs/Engine/Landing — whatever goes on between its waits, a flight lands

While a flight waits, the rest of the world goes on: when the flight is polled again, time has
passed and the engine is another one, of which only an **environment** may be known.
`Flight.Lands` says that the flight lands all the same after finitely many polls, and what then
holds of all its deeds and its result; `Stage.Settles` says it of a stage between two moves.

`Flight.Flown` tells the polls of a flight that nothing else goes on beside.

* `Lands.run` — where a flight that lands goes on, it lands;
* `Lands.flown` — **so a flight that is polled whenever it can go on is over in the end**.
-/

namespace RemoteScreen

variable {σ : Type}

/-- **Whatever goes on between the waits, the flight lands**: it has done these deeds, and of all
its deeds and the result `post` will hold.  A flight that waits goes on when it is polled at its
wake or later, by a run of moves, and lands from where the poll has taken it. -/
inductive Flight.Lands (h : Host σ) (env : Engine σ → Prop)
    (post : List Deed → Except ActionError Unit → Prop) : Flight → List Deed → Prop where
  | landed {result deeds} (hp : post deeds result) : Lands h env post (.landed result) deeds
  | waits {f : Flight} {wake deeds} (hw : f.wake? = some wake)
      (hr : ∀ now e, wake ≤ now → env e → Runs h now (.resting f) e (f.poll h now e))
      (hl : ∀ now e ds, wake ≤ now → env e →
        Run h now (.resting f) e ds (f.poll h now e).1 (f.poll h now e).2 →
        Lands h env post (f.poll h now e).1 (deeds ++ ds)) : Lands h env post f deeds

/-- The same of a flight on its way: once it waits, or has ended, it lands. -/
def Stage.Settles (h : Host σ) (env : Engine σ → Prop)
    (post : List Deed → Except ActionError Unit → Prop) (s : Stage) (deeds : List Deed) : Prop :=
  ∀ now e ds f e', env e → Run h now s e ds f e' → f.Lands h env post (deeds ++ ds)

/-- What is known of the engine is not undone by a move. -/
def Kept (h : Host σ) (env : Engine σ → Prop) : Prop :=
  ∀ now s e ds s' e', Move h now s e ds s' e' → env e → env e'

/-- **A flight with nothing beside it**: polled as soon as it can go on, on the engine as it has
left it, until it has landed; with all its deeds, its result and the engine in the end. -/
inductive Flight.Flown (h : Host σ) : Nat → Flight → Engine σ → List Deed →
    Except ActionError Unit → Engine σ → Prop where
  | landed {now result e} : Flown h now (.landed result) e [] result e
  | poll {now f wake e ds ds' result e'} (hw : f.wake? = some wake)
      (r : Run h (max now wake) (.resting f) e ds (f.poll h (max now wake) e).1
        (f.poll h (max now wake) e).2)
      (hf : Flown h (max now wake) (f.poll h (max now wake) e).1 (f.poll h (max now wake) e).2 ds'
        result e') : Flown h now f e (ds ++ ds') result e'

variable {h : Host σ} {env : Engine σ → Prop} {post : List Deed → Except ActionError Unit → Prop}

/-- What moves do not undo, runs do not undo. -/
theorem Kept.run (kept : Kept h env) {now s e ds f e'} (r : Run h now s e ds f e') (he : env e) :
    env e' := by
  induction r with
  | rest _ => exact he
  | move m _ ih => exact ih (kept _ _ _ _ _ _ m he)

namespace Flight

/-- What follows from the postcondition holds of a landing too. -/
theorem Lands.imp {post' : List Deed → Except ActionError Unit → Prop} {f : Flight} {deeds}
    (hp : ∀ deeds result, post deeds result → post' deeds result) (l : f.Lands h env post deeds) :
    f.Lands h env post' deeds := by
  induction l with
  | landed hr => exact .landed (hp _ _ hr)
  | waits hw hr _ ih => exact .waits hw hr ih

/-- A flight that goes on at its wake lands if it does after every run. -/
theorem Lands.of_runs {f : Flight} {wake deeds} (hw : f.wake? = some wake)
    (hl : ∀ now e ds f' e', wake ≤ now → env e → Run h now (.resting f) e ds f' e' →
      f'.Lands h env post (deeds ++ ds)) : f.Lands h env post deeds :=
  .waits hw (fun now e _ _ => Runs.poll h now f e) fun now e ds hn he r => hl now e ds _ _ hn he r

/-- **Where a flight that lands goes on, it lands.** -/
theorem Lands.run {f f' : Flight} {wake now deeds e ds e'} (l : f.Lands h env post deeds)
    (hw : f.wake? = some wake) (hn : wake ≤ now) (he : env e)
    (r : Run h now (.resting f) e ds f' e') : f'.Lands h env post (deeds ++ ds) := by
  cases l with
  | landed => cases hw
  | waits hw' _ hl =>
    obtain rfl := Option.some.inj (hw.symm.trans hw')
    have hp : f.poll h now e = (f', e') := r.poll_eq
    have hl := hl now e ds hn he
    rw [hp] at hl
    exact hl r

/-- Where a flight that lands waits, it settles. -/
theorem Lands.settles {f : Flight} {deeds} (l : f.Lands h env post deeds) :
    (Stage.resting f).Settles h env post deeds := by
  intro now e ds f' e' he r
  by_cases hf : f.waits now
  · cases r with
    | rest _ => rwa [List.append_nil]
    | move m _ => exact absurd hf m.not_waits
  · obtain ⟨wake, hw, hn⟩ : ∃ wake, f.wake? = some wake ∧ wake ≤ now := by
      simpa [Flight.waits] using hf
    exact l.run hw hn he r

/-- A flight that waits lands if it settles after every move. -/
theorem lands_of_moves (kept : Kept h env) {f : Flight} {wake deeds} (hw : f.wake? = some wake)
    (hm : ∀ now e ds s' e', Move h now (.resting f) e ds s' e' → env e →
      s'.Settles h env post (deeds ++ ds)) : f.Lands h env post deeds := by
  refine .of_runs hw fun now e ds f' e' hn he r => ?_
  cases r with
  | rest hf => exact absurd (hf wake hw) (Nat.not_lt.2 hn)
  | move m r =>
    rw [← List.append_assoc]
    exact hm _ _ _ _ _ m he _ _ _ _ _ (kept _ _ _ _ _ _ m he) r

end Flight

namespace Stage

/-- A flight at its end settles if its deeds and its result are as they should be. -/
theorem settles_ended {result deeds} (hp : post deeds result) :
    (ended result).Settles h env post deeds :=
  (Flight.Lands.landed hp).settles

/-- A stage on the way settles if it does after every move. -/
theorem settles_of_moves (kept : Kept h env) {s : Stage} {deeds} (hs : ∀ f, s ≠ .resting f)
    (hm : ∀ now e ds s' e', Move h now s e ds s' e' → env e →
      s'.Settles h env post (deeds ++ ds)) : s.Settles h env post deeds := by
  intro now e ds f e' he r
  cases r with
  | rest _ => exact absurd rfl (hs f)
  | move m r =>
    rw [← List.append_assoc]
    exact hm _ _ _ _ _ m he _ _ _ _ _ (kept _ _ _ _ _ _ m he) r

end Stage

/-! ## With nothing beside it -/

namespace Flight

/-- **A flight that lands, polled whenever it can go on, is over in the end.** -/
theorem Lands.flown (kept : Kept h env) {f : Flight} {deeds} (l : f.Lands h env post deeds)
    (now : Nat) {e : Engine σ} (he : env e) :
    ∃ ds result e', f.Flown h now e ds result e' ∧ post (deeds ++ ds) result := by
  induction l generalizing now e with
  | @landed result deeds hp => exact ⟨[], result, e, .landed, by rwa [List.append_nil]⟩
  | @waits f wake deeds hw hr _ ih =>
    have hn : wake ≤ max now wake := Nat.le_max_right now wake
    obtain ⟨ds, r⟩ := hr _ e hn he
    obtain ⟨ds', result, e', hf, hp⟩ := ih _ e ds hn he r (max now wake) (kept.run r he)
    exact ⟨ds ++ ds', result, e', .poll hw r hf, by rwa [← List.append_assoc]⟩

/-- A run from where a flight waits is the next of its polls. -/
theorem Flown.of_run {now wake : Nat} {f f' : Flight} {e e' e'' : Engine σ} {ds ds' result}
    (hw : f.wake? = some wake) (r : Run h (max now wake) (.resting f) e ds f' e')
    (hf : f'.Flown h (max now wake) e' ds' result e'') :
    f.Flown h now e (ds ++ ds') result e'' := by
  have hp : f.poll h (max now wake) e = (f', e') := r.poll_eq
  refine .poll hw ?_ ?_
  · rwa [hp]
  · rwa [hp]

/-- **The deeds of a flight with nothing beside it, its result and what it leaves behind are
determined.** -/
theorem Flown.unique {now : Nat} {f : Flight} {e e₁ e₂ : Engine σ} {ds₁ ds₂ result₁ result₂}
    (hf₁ : f.Flown h now e ds₁ result₁ e₁) (hf₂ : f.Flown h now e ds₂ result₂ e₂) :
    ds₁ = ds₂ ∧ result₁ = result₂ ∧ e₁ = e₂ := by
  induction hf₁ generalizing ds₂ with
  | landed =>
    cases hf₂ with
    | landed => exact ⟨rfl, rfl, rfl⟩
    | poll hw => cases hw
  | poll hw₁ r₁ _ ih =>
    cases hf₂ with
    | landed => cases hw₁
    | poll hw₂ r₂ hf₂ =>
      obtain rfl := Option.some.inj (hw₁.symm.trans hw₂)
      obtain ⟨rfl, -, -⟩ := r₁.unique r₂
      obtain ⟨rfl, hresult, he⟩ := ih hf₂
      exact ⟨rfl, hresult, he⟩

end Flight

/-! ## What is kept -/

/-- A move registers no verb. -/
theorem kept_verbs (verbs : Keyed Verb) : Kept h fun e => e.verbs = verbs :=
  fun _ _ _ _ _ _ m he => m.acts.verbs.trans he

/-- Nothing has to be known. -/
theorem kept_true : Kept h fun _ => True := fun _ _ _ _ _ _ _ _ => trivial

end RemoteScreen
