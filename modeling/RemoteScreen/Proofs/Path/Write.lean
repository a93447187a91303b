import RemoteScreen.Path

/-!
# Proofs/Path/Write — what is read after a write

    set p v        q above p         an object
       │           q at p            v
       ▾           q below p         what v has there
    ○──○──○──v     q to the side     what was there before

A write makes every value above its path an object, so what is read at a path after it is decided by
where the path parts from the one written to (`resolve_set`).  Only a list above the path is a loss:
it is replaced, and with it the items that its numbers led to.  Two writes whose paths part do not
get into each other's way, whatever stands there (`setAt_comm`).
-/

namespace RemoteScreen

/-- Neither of two paths leads on from the other. -/
def Path.Diverge (p q : String) : Prop :=
  ¬ Path.segments p <+: Path.segments q ∧ ¬ Path.segments q <+: Path.segments p

theorem Path.Diverge.symm {p q : String} (h : Path.Diverge p q) : Path.Diverge q p := ⟨h.2, h.1⟩

theorem Path.Diverge.ne_nil {p q : String} (h : Path.Diverge p q) : Path.segments p ≠ [] :=
  fun hnil => h.1 (hnil ▸ List.nil_prefix)

instance (p q : String) : Decidable (Path.Diverge p q) :=
  inferInstanceAs (Decidable (_ ∧ _))

namespace Json

variable {p q : List String} {v root : Json}

/-- The value is a list. -/
def isList : Json → Bool
  | arr _ => true
  | _ => false

/-- No value above a path, the whole one included, is a list. -/
def NoListAbove (root : Json) (p : List String) : Prop :=
  ∀ n < p.length, (root.at? (p.take n)).any isList = false

instance : Decidable (root.NoListAbove p) :=
  inferInstanceAs (Decidable (∀ n < p.length, (root.at? (p.take n)).any isList = false))

/-! ## Reading -/

/-- **What holds of a value, and is handed down to its items and its members, holds of all that its
paths lead to.** -/
theorem at?_keeps {P : Json → Prop} (hobj : ∀ fields m, m ∈ fields → P (obj fields) → P m.2)
    (harr : ∀ items x, x ∈ items → P (arr items) → P x) (hv : P v) {r : Json}
    (h : v.at? p = some r) : P r := by
  induction p generalizing v with
  | nil =>
    cases h
    exact hv
  | cons s p ih =>
    cases v with
    | obj fields =>
      rw [at?] at h
      split at h
      · next child hchild => exact ih (hobj fields _ (Keyed.mem_of_get? hchild) hv) h
      · cases h
    | arr items =>
      rw [at?] at h
      split at h
      · next child hchild =>
        obtain ⟨n, -, hn⟩ := Option.bind_eq_some_iff.1 hchild
        exact ih (harr items child (List.mem_of_getElem? hn) hv) h
      · cases h
    | null | bool | num | str => cases h

theorem at?_obj_cons (fields : Fields) (s : String) (q : List String) :
    (obj fields).at? (s :: q) = (fields.get? s).bind (·.at? q) := by
  rw [at?]
  cases fields.get? s <;> rfl

/-- What is no list is read like the object of its members. -/
theorem at?_cons_of_no_list (h : root.isList = false) (s : String) (q : List String) :
    root.at? (s :: q) = (root.members.get? s).bind (·.at? q) := by
  cases root with
  | obj fields => exact at?_obj_cons fields s q
  | arr items => cases h
  | null | bool | num | str => rfl

/-- A write is read like the object that it makes. -/
theorem at?_setAt_cons (s t : String) (p q : List String) :
    (setAt (s :: p) v root).at? (t :: q)
      = if s = t then (setAt p v ((root.members.get? s).getD (obj []))).at? q
        else (root.members.get? t).bind (·.at? q) := by
  rw [setAt, at?_obj_cons, Keyed.get?_insert]
  split <;> rfl

/-! ## Along the path -/

/-- **At a path and below it, what is written is read.** -/
theorem at?_setAt_append (p r : List String) (v root : Json) :
    (setAt p v root).at? (p ++ r) = v.at? r := by
  induction p generalizing root with
  | nil => rfl
  | cons s p ih => rw [List.cons_append, at?_setAt_cons, if_pos rfl, ih]

/-- **Above a path that is written to stands an object.** -/
theorem exists_at?_setAt_of_prefix (hq : q <+: p) (hne : q ≠ p) :
    ∃ fields, (setAt p v root).at? q = some (obj fields) := by
  induction p generalizing q root with
  | nil => exact absurd (List.prefix_nil.1 hq) hne
  | cons s p ih =>
    cases q with
    | nil => exact ⟨_, rfl⟩
    | cons t q =>
      obtain ⟨rfl, htail⟩ := List.cons_prefix_cons.1 hq
      rw [at?_setAt_cons, if_pos rfl]
      exact ih htail fun heq => hne (heq ▸ rfl)

/-! ## To the side -/

namespace NoListAbove

variable {s : String}

theorem no_list (h : root.NoListAbove (s :: p)) : root.isList = false := h 0 (Nat.zero_lt_succ _)

theorem child (h : root.NoListAbove (s :: p)) :
    ((root.members.get? s).getD (obj [])).NoListAbove p := by
  intro n hn
  have hat := h (n + 1) (Nat.succ_lt_succ hn)
  rw [List.take_succ_cons, at?_cons_of_no_list h.no_list] at hat
  cases hget : root.members.get? s with
  | some child => rwa [hget] at hat
  | none =>
    rw [Option.getD_none]
    cases p.take n <;> rfl

end NoListAbove

/-- **To the side of a path, a write changes nothing**, if no list is lost. -/
theorem at?_setAt_of_diverge (h : root.NoListAbove p) (hpq : ¬ p <+: q) (hqp : ¬ q <+: p) :
    (setAt p v root).at? q = root.at? q := by
  induction p generalizing q root with
  | nil => exact absurd List.nil_prefix hpq
  | cons s p ih =>
    cases q with
    | nil => exact absurd List.nil_prefix hqp
    | cons t q =>
      rw [at?_setAt_cons, at?_cons_of_no_list h.no_list]
      split
      · next heq =>
        subst heq
        rw [List.cons_prefix_cons, not_and] at hpq hqp
        rw [ih h.child (hpq rfl) (hqp rfl)]
        cases root.members.get? s with
        | some child => rfl
        | none =>
          cases q with
          | nil => exact absurd List.nil_prefix (hqp rfl)
          | cons => rfl
      · rfl

/-! ## Two writes -/

/-- The last of two writes at one path is the one that counts. -/
theorem setAt_setAt_self (p : List String) (v w root : Json) :
    setAt p w (setAt p v root) = setAt p w root := by
  induction p generalizing root with
  | nil => rfl
  | cons s p ih =>
    rw [setAt, setAt, setAt, members, Keyed.get?_insert_self, Option.getD_some, ih,
      Keyed.insert_insert_self]

/-- **Writes at paths that part may be made in either order.** -/
theorem setAt_comm (hpq : ¬ p <+: q) (hqp : ¬ q <+: p) (v w root : Json) :
    setAt q w (setAt p v root) = setAt p v (setAt q w root) := by
  induction p generalizing q root with
  | nil => exact absurd List.nil_prefix hpq
  | cons s p ih =>
    cases q with
    | nil => exact absurd List.nil_prefix hqp
    | cons t q =>
      rw [setAt, setAt, setAt, setAt, members, members]
      by_cases hst : s = t
      · subst hst
        rw [List.cons_prefix_cons, not_and] at hpq hqp
        rw [Keyed.get?_insert_self, Keyed.get?_insert_self, Option.getD_some, Option.getD_some,
          Keyed.insert_insert_self, Keyed.insert_insert_self, ih (hpq rfl) (hqp rfl)]
      · rw [Keyed.get?_insert_of_ne _ _ hst, Keyed.get?_insert_of_ne _ _ (Ne.symm hst),
          Keyed.insert_comm _ _ _ hst]

/-! ## By paths -/

/-- What passes from a value to its parts holds of whatever it resolves to. -/
theorem resolve_keeps {P : Json → Prop} (hobj : ∀ fields m, m ∈ fields → P (obj fields) → P m.2)
    (harr : ∀ items x, x ∈ items → P (arr items) → P x) (hv : P v) {p : String} {r : Json}
    (h : v.resolve p = some r) : P r := by
  rw [resolve] at h
  split at h
  · cases h
  · exact at?_keeps hobj harr hv h

/-- At a path with segments a value resolves to what stands there. -/
theorem resolve_eq_at? {p : String} (hp : Path.segments p ≠ []) (root : Json) :
    root.resolve p = root.at? (Path.segments p) := by
  rw [resolve]
  split
  · next hnil => exact absurd hnil hp
  · rfl

/-- Of two writes at one path the second counts. -/
theorem set_set_self (root v w : Json) (p : String) : (root.set p v).set p w = root.set p w :=
  setAt_setAt_self _ v w root

/-- **Writes at diverging paths commute.** -/
theorem set_comm {p q : String} (h : Path.Diverge p q) (root v w : Json) :
    (root.set p v).set q w = (root.set q w).set p v := setAt_comm h.1 h.2 v w root

/-- **What a path leads to after a write at another one.**  At the path written to it is the value,
below it what the value has there, and above it an object, whatever was there before.  To the side
it is what it was, unless a list stood above the path written to. -/
theorem resolve_set (root v : Json) {p : String} (hp : Path.segments p ≠ []) :
    (∀ q, Path.segments q = Path.segments p → (root.set p v).resolve q = some v)
      ∧ (∀ q r, Path.segments q = Path.segments p ++ r → r ≠ [] →
        (root.set p v).resolve q = v.at? r)
      ∧ (∀ q, Path.segments q ≠ [] → Path.segments q <+: Path.segments p →
        Path.segments q ≠ Path.segments p →
        ∃ fields, (root.set p v).resolve q = some (obj fields))
      ∧ (root.NoListAbove (Path.segments p) → ∀ q, ¬ Path.segments p <+: Path.segments q →
        ¬ Path.segments q <+: Path.segments p →
        (root.set p v).resolve q = root.resolve q) := by
  refine ⟨fun q hq => ?_, fun q r hq hr => ?_, fun q hq hqp hne => ?_, fun h q hpq hqp => ?_⟩
  · rw [resolve_eq_at? (hq ▸ hp), hq, set]
    simpa [at?] using at?_setAt_append (Path.segments p) [] v root
  · rw [resolve_eq_at? (by simp [hq, hr]), hq, set, at?_setAt_append]
  · rw [resolve_eq_at? hq, set]
    exact exists_at?_setAt_of_prefix hqp hne
  · have hq : Path.segments q ≠ [] := fun hnil => hqp (hnil ▸ List.nil_prefix)
    rw [resolve_eq_at? hq, resolve_eq_at? hq, set, at?_setAt_of_diverge h hpq hqp]

/-- A name that was all there was to know of a user becomes a part of their profile. -/
theorem resolve_set_profile :
    let root := obj [("app", obj [("tags", arr [str "new"])]), ("user", str "Sam")]
    let name := obj [("parts", arr [str "Sam"])]
    let root' := root.set "user.profile.name" name
    root'.resolve " user . profile..name" = some name
      ∧ root'.resolve "user.profile.name.parts.0" = some (str "Sam")
      ∧ (∃ fields, root'.resolve "user" = some (obj fields))
      ∧ root'.resolve "app.tags.0" = root.resolve "app.tags.0" := by
  intro root name root'
  obtain ⟨hat, hbelow, habove, haside⟩ := resolve_set root name (p := "user.profile.name")
    (by decide +kernel)
  refine ⟨hat _ ?_, hbelow _ ["parts", "0"] ?_ ?_, habove _ ?_ ?_ ?_, haside ?_ _ ?_ ?_⟩
  all_goals decide +kernel

/-- A list above the path is lost. -/
example : ((obj [("tags", arr [str "new"])]).set "tags.size" (ofNat 1)).resolve "tags.0"
    = none := by
  decide +kernel

end Json

end RemoteScreen
