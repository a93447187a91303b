import RemoteScreen.Node.Basic

/-!
# Proofs/Node/Alike — equality as data is an equality

What is equal as data to itself, and to what another one is equal to: the laws of `same` for values,
conditions, actions and nodes, each from those of its parts.  So what has been kept by way of equal
nodes has been kept for an equal node (`Node.same_trans`), and a node stays equal to itself when its
children are replaced by equal ones (`Node.same_withChildren`).
-/

namespace RemoteScreen

/-! ## Parts that may be absent, and parts by key -/

section Parts

variable {α : Type} {same : α → α → Bool}

/-- An optional value is the same as itself if every value is. -/
theorem sameOption_self (h : ∀ a, same a a = true) (a : Option α) :
    sameOption same a a = true := by
  cases a with
  | none => rfl
  | some a => exact h a

theorem sameOption_trans (h : ∀ a b c, same a b = true → same b c = true → same a c = true)
    {a b c : Option α} (hab : sameOption same a b = true) (hbc : sameOption same b c = true) :
    sameOption same a c = true := by
  match a, b, c with
  | none, none, none => rfl
  | some a, some b, some c => exact h a b c hab hbc

/-- Entries are the same as themselves if values are. -/
theorem sameEntries_self (h : ∀ a, same a a = true) (as : Keyed α) :
    sameEntries same as as = true := by
  induction as with
  | nil => rfl
  | cons a as ih => simp [sameEntries, h, ih]

theorem sameEntries_trans (h : ∀ a b c, same a b = true → same b c = true → same a c = true)
    {as bs cs : Keyed α} (hab : sameEntries same as bs = true)
    (hbc : sameEntries same bs cs = true) : sameEntries same as cs = true := by
  induction as generalizing bs cs with
  | nil =>
    match bs, cs with
    | [], [] => rfl
  | cons a as ih =>
    match bs, cs with
    | b :: bs, c :: cs =>
      simp only [sameEntries, Bool.and_eq_true, beq_iff_eq] at hab hbc ⊢
      exact ⟨⟨hab.1.1.trans hbc.1.1, h _ _ _ hab.1.2 hbc.1.2⟩, ih hab.2 hbc.2⟩

theorem sameOption_none_iff {a : Option α} : sameOption same a none = true ↔ a = none := by
  cases a <;> simp [sameOption]

theorem sameEntries_nil_iff {as : Keyed α} : sameEntries same as [] = true ↔ as = [] := by
  cases as <;> simp [sameEntries]

end Parts

/-! ## Values -/

/-- Sameness of numbers is transitive. -/
theorem Number.same_trans {l m n : Number} (hlm : l.same m = true) (hmn : m.same n = true) :
    l.same n = true := by
  match l, m, n with
  | int i, int j, int k => exact beq_iff_eq.2 ((eq_of_beq hlm).trans (eq_of_beq hmn))
  | real x, real y, real z => exact beq_iff_eq.2 ((eq_of_beq hlm).trans (eq_of_beq hmn))

theorem Number.same_symm {m n : Number} (h : m.same n = true) : n.same m = true := by
  match m, n with
  | int i, int j => exact beq_iff_eq.2 (eq_of_beq h).symm
  | real x, real y => exact beq_iff_eq.2 (eq_of_beq h).symm

namespace Json

mutual

/-- **Sameness of values is transitive.** -/
theorem same_trans : (a b c : Json) → a.same b = true → b.same c = true → a.same c = true
  | a, b, c, hab, hbc => by
    match a, b, c with
    | null, null, null => rfl
    | bool x, bool y, bool z => exact beq_iff_eq.2 ((eq_of_beq hab).trans (eq_of_beq hbc))
    | num l, num m, num n => exact Number.same_trans hab hbc
    | str s, str t, str u => exact beq_iff_eq.2 ((eq_of_beq hab).trans (eq_of_beq hbc))
    | arr xs, arr ys, arr zs => exact sameItems_trans xs ys zs hab hbc
    | obj xs, obj ys, obj zs => exact sameFields_trans xs ys zs hab hbc

theorem sameItems_trans : (xs ys zs : List Json) → sameItems xs ys = true →
    sameItems ys zs = true → sameItems xs zs = true
  | [], [], [], _, _ => rfl
  | x :: xs, y :: ys, z :: zs, hxy, hyz => by
    simp only [sameItems, Bool.and_eq_true] at hxy hyz ⊢
    exact ⟨same_trans x y z hxy.1 hyz.1, sameItems_trans xs ys zs hxy.2 hyz.2⟩

theorem sameFields_trans : (xs ys zs : List (String × Json)) → sameFields xs ys = true →
    sameFields ys zs = true → sameFields xs zs = true
  | [], [], [], _, _ => rfl
  | (_, x) :: xs, (_, y) :: ys, (_, z) :: zs, hxy, hyz => by
    simp only [sameFields, Bool.and_eq_true, beq_iff_eq] at hxy hyz ⊢
    exact ⟨⟨hxy.1.1.trans hyz.1.1, same_trans x y z hxy.1.2 hyz.1.2⟩,
      sameFields_trans xs ys zs hxy.2 hyz.2⟩

end

mutual

theorem same_symm : (a b : Json) → a.same b = true → b.same a = true
  | a, b, h => by
    match a, b with
    | null, null => rfl
    | bool x, bool y => exact beq_iff_eq.2 (eq_of_beq h).symm
    | num m, num n => exact Number.same_symm h
    | str s, str t => exact beq_iff_eq.2 (eq_of_beq h).symm
    | arr xs, arr ys => exact sameItems_symm xs ys h
    | obj xs, obj ys => exact sameFields_symm xs ys h

theorem sameItems_symm : (xs ys : List Json) → sameItems xs ys = true → sameItems ys xs = true
  | [], [], _ => rfl
  | x :: xs, y :: ys, h => by
    simp only [sameItems, Bool.and_eq_true] at h ⊢
    exact ⟨same_symm x y h.1, sameItems_symm xs ys h.2⟩

theorem sameFields_symm : (xs ys : List (String × Json)) → sameFields xs ys = true →
    sameFields ys xs = true
  | [], [], _ => rfl
  | (_, x) :: xs, (_, y) :: ys, h => by
    simp only [sameFields, Bool.and_eq_true, beq_iff_eq] at h ⊢
    exact ⟨⟨h.1.1.symm, same_symm x y h.1.2⟩, sameFields_symm xs ys h.2⟩

end

/-- Equal values are equal to the same values. -/
theorem same_congr {v w : Json} (h : v.same w = true) (x : Json) : x.same v = x.same w :=
  Bool.eq_iff_iff.2
    ⟨fun hv => same_trans x v w hv h, fun hw => same_trans x w v hw (same_symm v w h)⟩

/-- Only a string is the same as that string. -/
theorem same_str_iff {v : Json} {t : String} : v.same (.str t) = true ↔ v = .str t := by
  cases v <;> simp [same]

theorem sameFields_nil_iff {xs : Fields} : sameFields xs [] = true ↔ xs = [] := by
  cases xs <;> simp [sameFields]

/-- Nothing else is equal as data to one text under one key. -/
theorem sameFields_str_iff {xs : Fields} {key text : String} :
    sameFields xs [(key, .str text)] = true ↔ xs = [(key, .str text)] := by
  cases xs <;> simp [sameFields, same_str_iff, sameFields_nil_iff, Prod.ext_iff, and_assoc]

end Json

/-! ## Conditions and actions -/

namespace Condition

mutual

theorem same_self : (a : Condition) → a.same a = true
  | ⟨_, _, _, cs⟩ => by
    simp [same, sameOption_self Json.same_self, sameAll_self cs]

theorem sameAll_self : (as : List Condition) → sameAll as as = true
  | [] => rfl
  | a :: as => by simp [sameAll, same_self a, sameAll_self as]

end

mutual

/-- Sameness of conditions is transitive. -/
theorem same_trans : (a b c : Condition) → a.same b = true → b.same c = true → a.same c = true
  | ⟨_, _, _, as⟩, ⟨_, _, _, bs⟩, ⟨_, _, _, cs⟩, hab, hbc => by
    simp only [same, Bool.and_eq_true, beq_iff_eq] at hab hbc ⊢
    exact ⟨⟨⟨hab.1.1.1.trans hbc.1.1.1, hab.1.1.2.trans hbc.1.1.2⟩,
      sameOption_trans Json.same_trans hab.1.2 hbc.1.2⟩, sameAll_trans as bs cs hab.2 hbc.2⟩

theorem sameAll_trans : (as bs cs : List Condition) → sameAll as bs = true →
    sameAll bs cs = true → sameAll as cs = true
  | [], [], [], _, _ => rfl
  | a :: as, b :: bs, c :: cs, hab, hbc => by
    simp only [sameAll, Bool.and_eq_true] at hab hbc ⊢
    exact ⟨same_trans a b c hab.1 hbc.1, sameAll_trans as bs cs hab.2 hbc.2⟩

end

end Condition

theorem Analytics.same_self (a : Analytics) : a.same a = true := by
  simp [same, Json.sameFields_self]

theorem Analytics.same_trans (a b c : Analytics) (hab : a.same b = true) (hbc : b.same c = true) :
    a.same c = true := by
  simp only [same, Bool.and_eq_true, beq_iff_eq] at hab hbc ⊢
  exact ⟨⟨hab.1.1.trans hbc.1.1, Json.sameFields_trans _ _ _ hab.1.2 hbc.1.2⟩,
    hab.2.trans hbc.2⟩

namespace Action

theorem same_self : (a : Action) → a.same a = true
  | ⟨_, payload, condition, _, _, _, fallback, analytics, _⟩ => by
    rw [same.eq_def]
    simp only [beq_self_eq_true, Json.sameFields_self, sameOption_self Condition.same_self,
      sameOption_self Analytics.same_self, Bool.true_and, Bool.and_true]
    match fallback with
    | none => rfl
    | some next => exact same_self next

theorem same_trans : (a b c : Action) → a.same b = true → b.same c = true → a.same c = true
  | ⟨_, _, _, _, _, _, f, _, _⟩, ⟨_, _, _, _, _, _, f', _, _⟩, ⟨_, _, _, _, _, _, f'', _, _⟩,
      hab, hbc => by
    rw [same.eq_def] at hab hbc ⊢
    simp only [Bool.and_eq_true, beq_iff_eq] at hab hbc ⊢
    obtain ⟨⟨⟨⟨⟨⟨⟨⟨ht, hp⟩, hc⟩, hth⟩, hd⟩, hr⟩, hf⟩, han⟩, hi⟩ := hab
    obtain ⟨⟨⟨⟨⟨⟨⟨⟨ht', hp'⟩, hc'⟩, hth'⟩, hd'⟩, hr'⟩, hf'⟩, han'⟩, hi'⟩ := hbc
    refine ⟨⟨⟨⟨⟨⟨⟨⟨ht.trans ht', Json.sameFields_trans _ _ _ hp hp'⟩,
      sameOption_trans Condition.same_trans hc hc'⟩, hth.trans hth'⟩, hd.trans hd'⟩,
      hr.trans hr'⟩, ?_⟩, sameOption_trans Analytics.same_trans han han'⟩, hi.trans hi'⟩
    match f, f', f'' with
    | none, none, none => rfl
    | some a, some b, some c => exact same_trans a b c hf hf'

end Action

/-! ## Nodes -/

theorem Guards.same_self (a : Guards) : a.same a = true := by
  simp [same, sameOption_self Condition.same_self]

theorem Guards.same_trans {a b c : Guards} (hab : a.same b = true) (hbc : b.same c = true) :
    a.same c = true := by
  have htrans {p q r : Option Condition} := sameOption_trans Condition.same_trans (a := p) (b := q)
    (c := r)
  simp only [same, Bool.and_eq_true] at hab hbc ⊢
  exact ⟨⟨⟨htrans hab.1.1.1 hbc.1.1.1, htrans hab.1.1.2 hbc.1.1.2⟩, htrans hab.1.2 hbc.1.2⟩,
    htrans hab.2 hbc.2⟩

namespace Node

mutual

theorem same_self : (a : Node) → a.same a = true
  | ⟨_, _, _, _, cs, _, g⟩ => by
    simp [same, Json.sameFields_self, sameAll_self cs, sameEntries_self Action.same_self,
      g.same_self]

theorem sameAll_self : (as : List Node) → sameAll as as = true
  | [] => rfl
  | a :: as => by simp [sameAll, same_self a, sameAll_self as]

end

mutual

/-- **Sameness of nodes is transitive.** -/
theorem same_trans : (a b c : Node) → a.same b = true → b.same c = true → a.same c = true
  | ⟨_, _, _, _, as, _, _⟩, ⟨_, _, _, _, bs, _, _⟩, ⟨_, _, _, _, cs, _, _⟩, hab, hbc => by
    simp only [same, Bool.and_eq_true, beq_iff_eq] at hab hbc ⊢
    obtain ⟨⟨⟨⟨⟨⟨hk, hi⟩, hp⟩, hs⟩, hcs⟩, has⟩, hg⟩ := hab
    obtain ⟨⟨⟨⟨⟨⟨hk', hi'⟩, hp'⟩, hs'⟩, hcs'⟩, has'⟩, hg'⟩ := hbc
    exact ⟨⟨⟨⟨⟨⟨hk.trans hk', hi.trans hi'⟩, Json.sameFields_trans _ _ _ hp hp'⟩,
      Json.sameFields_trans _ _ _ hs hs'⟩, sameAll_trans as bs cs hcs hcs'⟩,
      sameEntries_trans Action.same_trans has has'⟩, Guards.same_trans hg hg'⟩

theorem sameAll_trans : (as bs cs : List Node) → sameAll as bs = true →
    sameAll bs cs = true → sameAll as cs = true
  | [], [], [], _, _ => rfl
  | a :: as, b :: bs, c :: cs, hab, hbc => by
    simp only [sameAll, Bool.and_eq_true] at hab hbc ⊢
    exact ⟨same_trans a b c hab.1 hbc.1, sameAll_trans as bs cs hab.2 hbc.2⟩

end

/-- Only no nodes are the same as none. -/
theorem sameAll_nil_iff {ns : List Node} : sameAll ns [] = true ↔ ns = [] := by
  cases ns <;> simp [sameAll]

/-- Equal children make equal nodes. -/
theorem same_withChildren (n : Node) {children : List Node}
    (h : sameAll children n.children = true) : same { n with children } n = true := by
  obtain ⟨_, _, _, _, _, _, g⟩ := n
  simp [same, Json.sameFields_self, h, sameEntries_self Action.same_self, g.same_self]

end Node

end RemoteScreen
