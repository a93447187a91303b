import RemoteScreen.Node.Basic

/-!
# Proofs/Node/Same — equal as data, but for the sign of a zero

Equality as data takes the two floating zeros for one, and is equality in all else: **nodes without
a negative zero that are equal as data are equal** (`Node.eq_of_same`).
-/

namespace RemoteScreen

/-! ## Numbers -/

/-- The number that is equal as data to another one. -/
def Number.negZero : Number := .real (.zero true)

/-- Binary numbers of the same value are equal, but for the negative zero. -/
theorem Binary64.eq_of_sameValue {x y : Binary64} (hx : x ≠ zero true) (hy : y ≠ zero true)
    (h : x.sameValue y = true) : x = y := by
  obtain ⟨s, m, hm⟩ := x
  obtain ⟨t, n, hn⟩ := y
  have hkey := eq_of_beq h
  have hm0 : s = true → m ≠ 0 := by
    rintro rfl rfl
    exact hx rfl
  have hn0 : t = true → n ≠ 0 := by
    rintro rfl rfl
    exact hy rfl
  cases s <;> cases t <;> simp only [key, Bool.false_eq_true, if_false, if_true] at hkey
  · obtain rfl : m = n := by omega
    rfl
  · have := hn0 rfl
    omega
  · have := hm0 rfl
    omega
  · obtain rfl : m = n := by omega
    rfl

theorem Number.eq_of_same {m n : Number} (hm : m ≠ negZero) (hn : n ≠ negZero)
    (h : m.same n = true) : m = n := by
  match m, n with
  | int i, int j => rw [eq_of_beq h]
  | real x, real y =>
    have hx : x ≠ .zero true := fun hx => hm (congrArg real hx)
    have hy : y ≠ .zero true := fun hy => hn (congrArg real hy)
    rw [Binary64.eq_of_sameValue hx hy h]

/-! ## Values -/

namespace Json

mutual

/-- The numbers in a value. -/
def numbers : Json → List Number
  | num n => [n]
  | arr items => itemNumbers items
  | obj fields => fieldNumbers fields
  | _ => []

/-- The numbers in the items of a list. -/
def itemNumbers : List Json → List Number
  | [] => []
  | x :: xs => numbers x ++ itemNumbers xs

/-- The numbers in the members of an object. -/
def fieldNumbers : List (String × Json) → List Number
  | [] => []
  | (_, x) :: xs => numbers x ++ fieldNumbers xs

end

mutual

/-- **The same values are equal where no number is a negative zero.** -/
theorem eq_of_same : (a b : Json) → Number.negZero ∉ a.numbers → Number.negZero ∉ b.numbers →
    a.same b = true → a = b
  | a, b, ha, hb, h => by
    match a, b with
    | null, null => rfl
    | bool x, bool y => rw [eq_of_beq h]
    | num m, num n =>
      have hm : m ≠ Number.negZero := fun heq => ha (by simp [numbers, heq])
      have hn : n ≠ Number.negZero := fun heq => hb (by simp [numbers, heq])
      rw [Number.eq_of_same hm hn h]
    | str s, str t => rw [eq_of_beq h]
    | arr xs, arr ys => rw [eq_of_sameItems xs ys ha hb h]
    | obj xs, obj ys => rw [eq_of_sameFields xs ys ha hb h]

/-- So are the same items. -/
theorem eq_of_sameItems : (xs ys : List Json) → Number.negZero ∉ itemNumbers xs →
    Number.negZero ∉ itemNumbers ys → sameItems xs ys = true → xs = ys
  | [], [], _, _, _ => rfl
  | x :: xs, y :: ys, hx, hy, h => by
    simp only [itemNumbers, List.mem_append, not_or] at hx hy
    simp only [sameItems, Bool.and_eq_true] at h
    rw [eq_of_same x y hx.1 hy.1 h.1, eq_of_sameItems xs ys hx.2 hy.2 h.2]

theorem eq_of_sameFields : (xs ys : List (String × Json)) → Number.negZero ∉ fieldNumbers xs →
    Number.negZero ∉ fieldNumbers ys → sameFields xs ys = true → xs = ys
  | [], [], _, _, _ => rfl
  | (k, x) :: xs, (l, y) :: ys, hx, hy, h => by
    simp only [fieldNumbers, List.mem_append, not_or] at hx hy
    simp only [sameFields, Bool.and_eq_true, beq_iff_eq] at h
    rw [h.1.1, eq_of_same x y hx.1 hy.1 h.1.2, eq_of_sameFields xs ys hx.2 hy.2 h.2]

end

end Json

/-- The numbers in what may be absent. -/
def optionNumbers {α : Type} (numbers : α → List Number) (a : Option α) : List Number :=
  a.toList.flatMap numbers

theorem eq_of_sameOption {α : Type} {same : α → α → Bool} {numbers : α → List Number}
    (heq : ∀ a b, Number.negZero ∉ numbers a → Number.negZero ∉ numbers b → same a b = true → a = b)
    {a b : Option α} (ha : Number.negZero ∉ optionNumbers numbers a)
    (hb : Number.negZero ∉ optionNumbers numbers b) (h : sameOption same a b = true) : a = b := by
  match a, b with
  | none, none => rfl
  | some a, some b =>
    rw [heq a b (by simpa [optionNumbers] using ha) (by simpa [optionNumbers] using hb) h]

/-! ## Conditions and actions -/

namespace Condition

mutual

/-- The numbers in a condition. -/
def numbers : Condition → List Number
  | ⟨_, _, value, conditions⟩ => optionNumbers Json.numbers value ++ allNumbers conditions

/-- The numbers in some conditions. -/
def allNumbers : List Condition → List Number
  | [] => []
  | c :: cs => numbers c ++ allNumbers cs

end

mutual

theorem eq_of_same : (a b : Condition) → Number.negZero ∉ a.numbers →
    Number.negZero ∉ b.numbers → a.same b = true → a = b
  | ⟨o, f, v, cs⟩, ⟨o', f', v', cs'⟩, ha, hb, h => by
    simp only [numbers, List.mem_append, not_or] at ha hb
    simp only [same, Bool.and_eq_true, beq_iff_eq] at h
    obtain ⟨⟨⟨rfl, rfl⟩, hv⟩, hcs⟩ := h
    rw [eq_of_sameOption Json.eq_of_same ha.1 hb.1 hv, eq_of_sameAll cs cs' ha.2 hb.2 hcs]

theorem eq_of_sameAll : (as bs : List Condition) → Number.negZero ∉ allNumbers as →
    Number.negZero ∉ allNumbers bs → sameAll as bs = true → as = bs
  | [], [], _, _, _ => rfl
  | a :: as, b :: bs, ha, hb, h => by
    simp only [allNumbers, List.mem_append, not_or] at ha hb
    simp only [sameAll, Bool.and_eq_true] at h
    rw [eq_of_same a b ha.1 hb.1 h.1, eq_of_sameAll as bs ha.2 hb.2 h.2]

end

end Condition

theorem Analytics.eq_of_same (a b : Analytics)
    (ha : Number.negZero ∉ Json.fieldNumbers a.properties)
    (hb : Number.negZero ∉ Json.fieldNumbers b.properties) (h : a.same b = true) : a = b := by
  obtain ⟨e, p, t⟩ := a
  obtain ⟨e', p', t'⟩ := b
  simp only [same, Bool.and_eq_true, beq_iff_eq] at h
  obtain ⟨⟨rfl, hp⟩, rfl⟩ := h
  rw [show p = p' from Json.eq_of_sameFields p p' ha hb hp]

namespace Action

/-- The numbers in an action and in those that stand in for it. -/
def numbers : Action → List Number
  | ⟨_, payload, condition, _, _, _, fallback, analytics, _⟩ =>
    Json.fieldNumbers payload ++ optionNumbers Condition.numbers condition
      ++ (match fallback with
        | none => []
        | some next => numbers next)
      ++ optionNumbers (Json.fieldNumbers ·.properties) analytics

/-- The same actions are equal where neither has a negative zero. -/
theorem eq_of_same : (a b : Action) → Number.negZero ∉ a.numbers →
    Number.negZero ∉ b.numbers → a.same b = true → a = b
  | ⟨t, p, c, th, d, r, f, an, i⟩, ⟨t', p', c', th', d', r', f', an', i'⟩, ha, hb, h => by
    rw [numbers.eq_def] at ha hb
    rw [same.eq_def] at h
    simp only [List.mem_append, not_or] at ha hb
    simp only [Bool.and_eq_true, beq_iff_eq] at h
    obtain ⟨⟨⟨⟨⟨⟨⟨⟨rfl, hp⟩, hc⟩, rfl⟩, rfl⟩, rfl⟩, hf⟩, han⟩, rfl⟩ := h
    have hf' : f = f' := by
      match f, f' with
      | none, none => rfl
      | some a, some b => rw [eq_of_same a b ha.1.2 hb.1.2 hf]
    rw [Json.eq_of_sameFields p p' ha.1.1.1 hb.1.1.1 hp,
      eq_of_sameOption Condition.eq_of_same ha.1.1.2 hb.1.1.2 hc, hf',
      eq_of_sameOption Analytics.eq_of_same ha.2 hb.2 han]

end Action

/-! ## Nodes -/

/-- The numbers in the guards of a node. -/
def Guards.numbers (g : Guards) : List Number :=
  [g.show, g.hide, g.enable, g.disable].flatMap (optionNumbers Condition.numbers)

theorem Guards.eq_of_same (a b : Guards) (ha : Number.negZero ∉ a.numbers)
    (hb : Number.negZero ∉ b.numbers) (h : a.same b = true) : a = b := by
  obtain ⟨s, hi, e, d⟩ := a
  obtain ⟨s', hi', e', d'⟩ := b
  simp only [numbers, List.flatMap_cons, List.flatMap_nil, List.append_nil, List.mem_append,
    not_or] at ha hb
  simp only [same, Bool.and_eq_true] at h
  rw [eq_of_sameOption Condition.eq_of_same ha.1 hb.1 h.1.1.1,
    eq_of_sameOption Condition.eq_of_same ha.2.1 hb.2.1 h.1.1.2,
    eq_of_sameOption Condition.eq_of_same ha.2.2.1 hb.2.2.1 h.1.2,
    eq_of_sameOption Condition.eq_of_same ha.2.2.2 hb.2.2.2 h.2]

/-- The numbers in values by key. -/
def entryNumbers {α : Type} (numbers : α → List Number) (as : Keyed α) : List Number :=
  as.flatMap fun a => numbers a.2

theorem eq_of_sameEntries {α : Type} {same : α → α → Bool} {numbers : α → List Number}
    (heq : ∀ a b, Number.negZero ∉ numbers a → Number.negZero ∉ numbers b → same a b = true → a = b)
    (as bs : Keyed α) (ha : Number.negZero ∉ entryNumbers numbers as)
    (hb : Number.negZero ∉ entryNumbers numbers bs) (h : sameEntries same as bs = true) :
    as = bs := by
  induction as generalizing bs with
  | nil =>
    cases bs with
    | nil => rfl
    | cons b bs => cases h
  | cons a as ih =>
    cases bs with
    | nil => cases h
    | cons b bs =>
      obtain ⟨k, a⟩ := a
      obtain ⟨l, b⟩ := b
      simp only [entryNumbers, List.flatMap_cons, List.mem_append, not_or] at ha hb
      simp only [sameEntries, Bool.and_eq_true, beq_iff_eq] at h
      rw [h.1.1, heq a b ha.1 hb.1 h.1.2, ih bs ha.2 hb.2 h.2]

namespace Node

mutual

/-- The numbers in a node and all below it. -/
def numbers : Node → List Number
  | ⟨_, _, props, style, children, actions, guards⟩ =>
    Json.fieldNumbers props ++ Json.fieldNumbers style ++ allNumbers children
      ++ entryNumbers Action.numbers actions ++ guards.numbers

/-- The numbers in some nodes and all below them. -/
def allNumbers : List Node → List Number
  | [] => []
  | n :: ns => numbers n ++ allNumbers ns

end

mutual

/-- **Nodes without a negative zero that are equal as data are equal.** -/
theorem eq_of_same : (a b : Node) → Number.negZero ∉ a.numbers → Number.negZero ∉ b.numbers →
    a.same b = true → a = b
  | ⟨k, i, p, s, cs, as, g⟩, ⟨k', i', p', s', cs', as', g'⟩, ha, hb, h => by
    simp only [numbers, List.mem_append, not_or] at ha hb
    simp only [same, Bool.and_eq_true, beq_iff_eq] at h
    obtain ⟨⟨⟨⟨⟨⟨rfl, rfl⟩, hp⟩, hs⟩, hcs⟩, has⟩, hg⟩ := h
    rw [Json.eq_of_sameFields p p' ha.1.1.1.1 hb.1.1.1.1 hp,
      Json.eq_of_sameFields s s' ha.1.1.1.2 hb.1.1.1.2 hs,
      eq_of_sameAll cs cs' ha.1.1.2 hb.1.1.2 hcs,
      eq_of_sameEntries Action.eq_of_same as as' ha.1.2 hb.1.2 has,
      Guards.eq_of_same g g' ha.2 hb.2 hg]

/-- Nodes that are the same one by one are equal where there is no negative zero. -/
theorem eq_of_sameAll : (as bs : List Node) → Number.negZero ∉ allNumbers as →
    Number.negZero ∉ allNumbers bs → sameAll as bs = true → as = bs
  | [], [], _, _, _ => rfl
  | a :: as, b :: bs, ha, hb, h => by
    simp only [allNumbers, List.mem_append, not_or] at ha hb
    simp only [sameAll, Bool.and_eq_true] at h
    rw [eq_of_same a b ha.1 hb.1 h.1, eq_of_sameAll as bs ha.2 hb.2 h.2]

end

end Node

end RemoteScreen
