import RemoteScreen.Proofs.Path.Write

/-!
# Proofs/Path/Take — what is left when a value is taken out

    ○──▸○──▸[s]──▸ v        ○──▸○           and v beside it

A value is taken out of the object that has it as a member, which then goes back into each of the
objects above (`Taken`).  What is taken is what reading finds, and reading goes on as before to the
side of it; **only a list above keeps a value from being taken that can be read** (`exists_taken`,
`Taken.noListAbove`).
-/

namespace RemoteScreen

namespace Json

/-- **A value is taken out** at a path, and something is left of the whole. -/
inductive Taken : List String → Json → Json → Json → Prop where
  | member {s fields v} (h : Keyed.get? fields s = some v) :
      Taken [s] (obj fields) v (obj (Keyed.erase s fields))
  | inside {s p fields child v left} (h : Keyed.get? fields s = some child)
      (t : Taken p child v left) :
      Taken (s :: p) (obj fields) v (obj (Keyed.insert s left fields))

variable {p q : List String} {s : String} {root v left : Json} {fields : Fields}

theorem takeAt?_single : (obj fields).takeAt? [s]
    = (Keyed.get? fields s).map fun v => (v, obj (Keyed.erase s fields)) := by
  rw [takeAt?]

theorem takeAt?_cons (hp : p ≠ []) : (obj fields).takeAt? (s :: p)
    = (Keyed.get? fields s).bind fun child =>
        (child.takeAt? p).map fun (v, left) => (v, obj (Keyed.insert s left fields)) := by
  rw [takeAt?]
  · cases Keyed.get? fields s <;> rfl
  · exact fun hnil => absurd hnil hp

theorem Taken.ne_nil (t : Taken p root v left) : p ≠ [] := by
  cases t <;> exact List.cons_ne_nil _ _

/-- What can be taken is taken, and nothing else. -/
theorem takeAt?_eq_some_iff : root.takeAt? p = some (v, left) ↔ Taken p root v left := by
  constructor
  · intro h
    induction p generalizing root v left with
    | nil => cases h
    | cons s p ih =>
      obtain ⟨fields, rfl⟩ : ∃ fields, root = obj fields := by
        cases root <;> cases p <;> simp [takeAt?] at h ⊢
      by_cases hp : p = []
      · subst hp
        rw [takeAt?_single] at h
        obtain ⟨w, hw, heq⟩ := Option.map_eq_some_iff.1 h
        obtain ⟨rfl, rfl⟩ := Prod.mk.inj heq
        exact .member hw
      · rw [takeAt?_cons hp] at h
        obtain ⟨child, hchild, h⟩ := Option.bind_eq_some_iff.1 h
        obtain ⟨⟨w, rest⟩, htake, heq⟩ := Option.map_eq_some_iff.1 h
        obtain ⟨rfl, rfl⟩ := Prod.mk.inj heq
        exact .inside hchild (ih htake)
  · intro t
    induction t with
    | member h => rw [takeAt?_single, h]; rfl
    | inside h t ih => rw [takeAt?_cons t.ne_nil, h, Option.bind_some, ih]; rfl

namespace Taken

/-- **What is taken is what was there to be read.** -/
theorem at?_eq (t : Taken p root v left) : root.at? p = some v := by
  induction t with
  | member h => rw [at?_obj_cons, h]; rfl
  | inside h _ ih => rw [at?_obj_cons, h, Option.bind_some, ih]

/-- **Nothing is read there any more.** -/
theorem at?_left (t : Taken p root v left) : left.at? p = none := by
  induction t with
  | member h => rw [at?_obj_cons, Keyed.get?_erase_self]; rfl
  | inside h _ ih => rw [at?_obj_cons, Keyed.get?_insert_self, Option.bind_some, ih]

/-- **To the side, what is left is read like the whole.** -/
theorem at?_aside (t : Taken p root v left) (hpq : ¬ p <+: q) (hqp : ¬ q <+: p) :
    left.at? q = root.at? q := by
  induction t generalizing q with
  | @member s fields v h =>
    cases q with
    | nil => exact absurd List.nil_prefix hqp
    | cons r q =>
      have hne : s ≠ r := fun heq => hpq (heq ▸ List.cons_prefix_cons.2 ⟨rfl, List.nil_prefix⟩)
      rw [at?_obj_cons, at?_obj_cons, Keyed.get?_erase_of_ne fields hne]
  | @inside s p fields child v left h t ih =>
    cases q with
    | nil => exact absurd List.nil_prefix hqp
    | cons r q =>
      rw [at?_obj_cons, at?_obj_cons, Keyed.get?_insert]
      split
      · next heq =>
        subst heq
        rw [List.cons_prefix_cons, not_and] at hpq hqp
        rw [h, Option.bind_some, Option.bind_some, ih (hpq rfl) (hqp rfl)]
      · rfl

/-- What is left is an object. -/
theorem exists_obj (t : Taken p root v left) : ∃ fields, left = obj fields := by
  cases t <;> exact ⟨_, rfl⟩

end Taken

/-! ## Lists above -/

/-- There is no list above a path if there is none above the rest of it, in the member that it
begins with. -/
theorem NoListAbove.of_child (h : ∀ child, Keyed.get? fields s = some child → child.NoListAbove p) :
    (obj fields).NoListAbove (s :: p) := by
  intro n hn
  cases n with
  | zero => rfl
  | succ n =>
    rw [List.take_succ_cons, at?_obj_cons]
    cases hget : Keyed.get? fields s with
    | none => rfl
    | some child => exact h child hget n (Nat.lt_of_succ_lt_succ hn)

/-- No list stands above a value that is taken. -/
theorem Taken.noListAbove (t : Taken p root v left) : root.NoListAbove p := by
  induction t with
  | member => exact .of_child fun _ _ n hn => absurd hn (Nat.not_lt_zero n)
  | inside h _ ih =>
    refine .of_child fun child hchild => ?_
    obtain rfl := Option.some.inj (h.symm.trans hchild)
    exact ih

/-- **What can be read can be taken, if no list stands above it.** -/
theorem exists_taken (hp : p ≠ []) (h : root.NoListAbove p) (hv : root.at? p = some v) :
    ∃ left, Taken p root v left := by
  induction p generalizing root with
  | nil => exact absurd rfl hp
  | cons s p ih =>
    obtain ⟨fields, rfl⟩ : ∃ fields, root = obj fields := by
      have hlist := h.no_list
      cases root with
      | obj fields => exact ⟨fields, rfl⟩
      | arr items => cases hlist
      | null | bool | num | str => cases hv
    rw [at?_obj_cons] at hv
    obtain ⟨child, hchild, hv⟩ := Option.bind_eq_some_iff.1 hv
    by_cases hnil : p = []
    · subst hnil
      cases hv
      exact ⟨_, .member hchild⟩
    · have hbelow := h.child
      rw [members, hchild, Option.getD_some] at hbelow
      obtain ⟨left, t⟩ := ih hnil hbelow hv
      exact ⟨_, .inside hchild t⟩

end Json

end RemoteScreen
