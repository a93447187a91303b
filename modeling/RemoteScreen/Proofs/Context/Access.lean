import RemoteScreen.Proofs.Context
import RemoteScreen.Proofs.Path.Take

/-!
# Proofs/Context/Access — shared data in use

Shared data is read and written in any order, through any of its handles; a handle has no state of
its own, so an access does not name one.  Of every run that begins with new data,
`revisions_identify` says that

* **versioned snapshots of one revision hold one data**, however far apart they are taken;
* the revision never falls, and whatever changes the data counts it up;
* the data stays an object, so that **no merge is lost**;
* there are no more revisions than there are writes.
-/

namespace RemoteScreen

/-! ## What becomes of an object -/

/-- What is put in has the keys it names, and leaves the others as they were. -/
theorem Keyed.get?_insertAll {α : Type} (base extra : Keyed α) (key : String) :
    (base.insertAll extra).get? key = ((Keyed.ofList extra).get? key).or (base.get? key) := by
  induction extra generalizing base with
  | nil => rfl
  | cons m extra ih =>
    have hstep : ∀ base : Keyed α,
        (base.insertAll (m :: extra)).get? key = ((base.insert m.1 m.2).insertAll extra).get? key :=
      fun _ => rfl
    rw [ofList, hstep, hstep, ih, ih, get?_insert, get?_insert, get?_nil, Option.or_assoc]
    split
    · rfl
    · rw [Option.none_or]

namespace Context

/-- A write counts once at most, and leaves an object an object. -/
theorem Write.keeps {c c' : Context} (w : Write c c') :
    c'.revision ≤ c.revision + 1
      ∧ ((∃ fields, c.data = .obj fields) → ∃ fields, c'.data = .obj fields) := by
  cases w with
  | set path v =>
    cases hp : Path.segments path with
    | nil => exact set_of_nil hp v ▸ ⟨Nat.le_succ _, id⟩
    | cons key behind =>
      have hset : c.set path v = ⟨c.revision + 1, c.data.set path v⟩ := by rw [Context.set, hp]; rfl
      rw [hset, Json.set, hp, Json.setAt]
      exact ⟨Nat.le_refl _, fun _ => ⟨_, rfl⟩⟩
  | remove path =>
    rw [Context.remove]
    split
    · exact ⟨Nat.le_succ _, id⟩
    · split
      · next htake => exact ⟨Nat.le_refl _, fun _ => (Json.takeAt?_eq_some_iff.1 htake).exists_obj⟩
      · exact ⟨Nat.le_refl _, id⟩
  | merge update =>
    rw [Context.merge.eq_def]
    split
    · split
      · exact ⟨Nat.le_refl _, fun _ => ⟨_, rfl⟩⟩
      · exact ⟨Nat.le_refl _, id⟩
    · exact ⟨Nat.le_succ _, id⟩
  | clear => exact ⟨Nat.le_refl _, fun _ => ⟨_, rfl⟩⟩

/-- A root that is an object stays one under writes. -/
theorem Writes.exists_obj {c c' : Context} (ws : Writes c c')
    (hc : ∃ fields, c.data = .obj fields) : ∃ fields, c'.data = .obj fields := by
  induction ws with
  | refl => exact hc
  | tail _ w ih => exact w.keeps.2 ih

/-- Putting an object over an object loses none of its members. -/
theorem merge_get? {c : Context} {fields : Fields} (hc : c.data = .obj fields) (extra : Fields)
    (key : String) :
    (c.merge (.obj extra)).data.members.get? key
      = ((Keyed.ofList extra).get? key).or (c.data.members.get? key) := by
  rw [merge, hc]
  exact Keyed.get?_insertAll fields extra key

/-! ## Runs -/

/-- What is asked of shared data, or told to it. -/
inductive Access where
  | get (path : String)
  | snapshot
  | versioned
  | layered (overlay : Option Json)
  | set (path : String) (v : Json)
  | remove (path : String)
  | merge (update : Json)
  | clear

/-- What an access answers. -/
inductive Answer where
  | done
  | found (v : Option Json)
  | snapshot (data : Json)
  | versioned (revision : Nat) (data : Json)
  deriving DecidableEq

/-- The access is a write. -/
def Access.writes : Access → Bool
  | get _ | snapshot | versioned | layered _ => false
  | set _ _ | remove _ | merge _ | clear => true

/-- What an access answers, and what it leaves. -/
def access (c : Context) : Access → Answer × Context
  | .get path => (.found (c.get? path), c)
  | .snapshot => (.snapshot (c.snapshot none), c)
  | .versioned => (.versioned c.revision c.data, c)
  | .layered overlay => (.snapshot (c.snapshot overlay), c)
  | .set path v => (.done, c.set path v)
  | .remove path => (.found (c.remove path).1, (c.remove path).2)
  | .merge update => (.done, c.merge update)
  | .clear => (.done, c.clear)

/-- What a run of accesses leaves. -/
def after (c : Context) (run : List Access) : Context := run.foldl (fun c a => (c.access a).2) c

/-- What the accesses of a run answer. -/
def answers (c : Context) : List Access → List Answer
  | [] => []
  | a :: run => (c.access a).1 :: answers (c.access a).2 run

theorem after_cons (c : Context) (a : Access) (run : List Access) :
    c.after (a :: run) = (c.access a).2.after run := rfl

/-- **An access is a write, or changes nothing.** -/
theorem access_cases (c : Context) (a : Access) :
    (a.writes = true ∧ Write c (c.access a).2) ∨ (a.writes = false ∧ (c.access a).2 = c) := by
  cases a with
  | get | snapshot | versioned | layered => exact .inr ⟨rfl, rfl⟩
  | set path v => exact .inl ⟨rfl, .set path v⟩
  | remove path => exact .inl ⟨rfl, .remove path⟩
  | merge update => exact .inl ⟨rfl, .merge update⟩
  | clear => exact .inl ⟨rfl, .clear⟩

/-- An access does nothing but write. -/
theorem access_writes (c : Context) (a : Access) : Writes c (c.access a).2 := by
  rcases c.access_cases a with ⟨-, w⟩ | ⟨-, heq⟩
  · exact w.writes
  · rw [heq]
    exact .refl

/-- An access leaves the context as it is, or counts its revision up. -/
theorem access_eq_or_lt (c : Context) (a : Access) :
    (c.access a).2 = c ∨ c.revision < (c.access a).2.revision := by
  rcases c.access_cases a with ⟨-, w⟩ | ⟨-, heq⟩
  · exact w.eq_or_lt
  · exact .inl heq

/-- Nor does a run of accesses make the root anything but an object. -/
theorem exists_obj_after {c : Context} (hc : ∃ fields, c.data = .obj fields) (run : List Access) :
    ∃ fields, (c.after run).data = .obj fields := by
  induction run generalizing c with
  | nil => exact hc
  | cons a run ih =>
    rw [after_cons]
    rcases c.access_cases a with ⟨-, w⟩ | ⟨-, heq⟩
    · exact ih (w.keeps.2 hc)
    · exact ih (heq.symm ▸ hc)

/-- The revision rises by no more than the number of writes. -/
theorem revision_after_le (c : Context) (run : List Access) :
    (c.after run).revision ≤ c.revision + run.countP Access.writes := by
  induction run generalizing c with
  | nil => exact Nat.le_refl _
  | cons a run ih =>
    rw [after_cons, List.countP_cons]
    have hrun := ih (c.access a).2
    rcases c.access_cases a with ⟨ha, w⟩ | ⟨ha, heq⟩
    · have := w.keeps.1
      rw [if_pos ha]
      omega
    · rw [heq] at hrun ⊢
      omega

/-- What a run answers with a revision has been there. -/
theorem answers_past {past : List Context} {c : Context} (h : Past past c) (run : List Access) :
    ∃ past' now, (∀ p ∈ past, p ∈ past') ∧ Past past' now
      ∧ ∀ r d, .versioned r d ∈ c.answers run → ⟨r, d⟩ ∈ past' := by
  induction run generalizing c past with
  | nil => exact ⟨past, c, fun _ hp => hp, h, fun _ _ hm => absurd hm List.not_mem_nil⟩
  | cons a run ih =>
    obtain ⟨past₁, hsub₁, h₁⟩ := h.writes (c.access_writes a)
    obtain ⟨past', now, hsub, h', hans⟩ := ih h₁
    refine ⟨past', now, fun p hp => hsub p (hsub₁ p hp), h', fun r d hm => ?_⟩
    rcases List.mem_cons.1 hm with heq | hm
    · have hc : c = ⟨r, d⟩ := by
        cases a <;> cases heq
        rfl
      exact hc ▸ hsub c (hsub₁ c h.now)
    · exact hans r d hm

/-- Whatever the data given, the root is an object. -/
theorem exists_obj_ofJson (data : Json) : ∃ fields, (ofJson data).data = .obj fields := by
  have hempty : ∃ fields, empty.data = .obj fields := ⟨_, rfl⟩
  exact (Write.merge data (c := empty)).keeps.2 hempty

/-- **A revision identifies the data.**  Of data that begins with any value, and of every run of
accesses to it: versioned snapshots of one revision hold one data; whatever is done next, the
revision does not fall, and it is counted up if the data changes; the data is an object, so that
of an object put over it every member is there; and no more revisions have passed than writes, the
first data counting as one. -/
theorem revisions_identify (start : Json) (run : List Access) :
    let now := (ofJson start).after run
    (∀ r d d', .versioned r d ∈ (ofJson start).answers run →
        .versioned r d' ∈ (ofJson start).answers run → d = d')
      ∧ (∀ a, now.revision ≤ (now.access a).2.revision)
      ∧ (∀ a, (now.access a).2.data ≠ now.data → now.revision < (now.access a).2.revision)
      ∧ (∃ fields, now.data = .obj fields)
      ∧ (∀ extra key, (now.access (.merge (.obj extra))).2.data.members.get? key
          = ((Keyed.ofList extra).get? key).or (now.data.members.get? key))
      ∧ now.revision ≤ run.countP Access.writes + 1 := by
  intro now
  obtain ⟨fields, hobj⟩ : ∃ fields, now.data = .obj fields :=
    exists_obj_after (exists_obj_ofJson start) run
  refine ⟨?_, ?_, ?_, ⟨fields, hobj⟩, ?_, ?_⟩
  · intro r d d' hd hd'
    obtain ⟨past, _, -, hpast, hans⟩ := answers_past (.start (ofJson start)) run
    exact congrArg data (hpast.identifies _ (hans r d hd) _ (hans r d' hd') rfl)
  · intro a
    rcases now.access_eq_or_lt a with heq | hlt
    · exact Nat.le_of_eq (congrArg revision heq).symm
    · exact Nat.le_of_lt hlt
  · intro a hne
    exact (now.access_eq_or_lt a).resolve_left fun heq => hne (congrArg data heq)
  · exact merge_get? hobj
  · have hfirst : (ofJson start).revision ≤ 1 := (Write.merge start (c := empty)).keeps.1
    have hrun : now.revision ≤ (ofJson start).revision + run.countP Access.writes :=
      revision_after_le _ run
    omega

/-- Someone with some tags. -/
def tagged : Json := .obj [("name", .str "Ann"), ("tags", .arr [.str "beta"])]

/-- Writes that change something and writes that do not, between versioned snapshots. -/
def edits : List Access :=
  [.versioned, .set " . " .null, .versioned, .remove "tags.0", .versioned, .set "name" (.str "Bob"),
   .versioned, .get "name", .versioned]

/-- A write to no path counts nothing, a removal through a list counts and changes nothing. -/
theorem revisions_identify_edits :
    (ofJson tagged).answers edits
        = [.versioned 1 tagged, .done, .versioned 1 tagged, .found none, .versioned 2 tagged, .done,
           .versioned 3 ((ofJson tagged).after edits).data, .found (some (.str "Bob")),
           .versioned 3 ((ofJson tagged).after edits).data]
      ∧ (∀ d, .versioned 3 d ∈ (ofJson tagged).answers edits →
          d = ((ofJson tagged).after edits).data)
      ∧ ((ofJson tagged).after edits).revision = 3 := by
  have hthird : Answer.versioned 3 ((ofJson tagged).after edits).data
      ∈ (ofJson tagged).answers edits := by decide +kernel
  refine ⟨by decide +kernel, fun d hd => ?_, by decide +kernel⟩
  exact (revisions_identify tagged edits).1 3 d _ hd hthird

end Context

end RemoteScreen
