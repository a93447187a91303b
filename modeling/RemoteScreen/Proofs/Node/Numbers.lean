import Mathlib.Data.List.Forall2
import RemoteScreen.Proofs.Node.Same

/-!
# Proofs/Node/Numbers — equal as data, number by number

What is equal as data has numbers in the same places, each equal as data to the one in its place:
they can differ in the sign of a zero and in nothing else.  **It is equal if its numbers are**
(`Json.eq_of_numbers`), with its negative zeros where they are.
-/

namespace RemoteScreen

/-- Numbers that are equal as data, one by one. -/
def Number.Alike (ms ns : List Number) : Prop := List.Forall₂ (fun m n => m.same n = true) ms ns

namespace Number.Alike

variable {ms ns ms' ns' : List Number}

theorem append (h : Alike ms ns) (h' : Alike ms' ns') : Alike (ms ++ ms') (ns ++ ns') :=
  List.rel_append h h'

/-- Equal numbers in a row are equal part by part. -/
theorem append_inj (h : Alike ms ns) (heq : ms ++ ms' = ns ++ ns') : ms = ns ∧ ms' = ns' :=
  List.append_inj heq h.length_eq

end Number.Alike

open Number (Alike)

/-! ## Values -/

namespace Json

mutual

/-- **The same values have alike numbers.** -/
theorem numbers_alike : (a b : Json) → a.same b = true → Alike a.numbers b.numbers
  | a, b, h => by
    match a, b with
    | null, null | bool _, bool _ | str _, str _ => exact .nil
    | num m, num n => exact .cons h .nil
    | arr xs, arr ys => exact itemNumbers_alike xs ys h
    | obj xs, obj ys => exact fieldNumbers_alike xs ys h

/-- So have the same items. -/
theorem itemNumbers_alike : (xs ys : List Json) → sameItems xs ys = true →
    Alike (itemNumbers xs) (itemNumbers ys)
  | [], [], _ => .nil
  | x :: xs, y :: ys, h => by
    simp only [sameItems, Bool.and_eq_true] at h
    exact (numbers_alike x y h.1).append (itemNumbers_alike xs ys h.2)

theorem fieldNumbers_alike : (xs ys : List (String × Json)) → sameFields xs ys = true →
    Alike (fieldNumbers xs) (fieldNumbers ys)
  | [], [], _ => .nil
  | (_, x) :: xs, (_, y) :: ys, h => by
    simp only [sameFields, Bool.and_eq_true] at h
    exact (numbers_alike x y h.1.2).append (fieldNumbers_alike xs ys h.2)

end

mutual

/-- **Values that are equal as data are equal if their numbers are.** -/
theorem eq_of_numbers : (a b : Json) → a.same b = true → a.numbers = b.numbers → a = b
  | a, b, h, heq => by
    match a, b with
    | null, null => rfl
    | bool x, bool y => rw [eq_of_beq h]
    | num m, num n => rw [show m = n by simpa [numbers] using heq]
    | str s, str t => rw [eq_of_beq h]
    | arr xs, arr ys => rw [eq_of_itemNumbers xs ys h heq]
    | obj xs, obj ys => rw [eq_of_fieldNumbers xs ys h heq]

/-- The same items with equal numbers are equal. -/
theorem eq_of_itemNumbers : (xs ys : List Json) → sameItems xs ys = true →
    itemNumbers xs = itemNumbers ys → xs = ys
  | [], [], _, _ => rfl
  | x :: xs, y :: ys, h, heq => by
    simp only [sameItems, Bool.and_eq_true] at h
    obtain ⟨hx, hxs⟩ := (numbers_alike x y h.1).append_inj heq
    rw [eq_of_numbers x y h.1 hx, eq_of_itemNumbers xs ys h.2 hxs]

theorem eq_of_fieldNumbers : (xs ys : List (String × Json)) → sameFields xs ys = true →
    fieldNumbers xs = fieldNumbers ys → xs = ys
  | [], [], _, _ => rfl
  | (k, x) :: xs, (l, y) :: ys, h, heq => by
    simp only [sameFields, Bool.and_eq_true, beq_iff_eq] at h
    obtain ⟨hx, hxs⟩ := (numbers_alike x y h.1.2).append_inj heq
    rw [h.1.1, eq_of_numbers x y h.1.2 hx, eq_of_fieldNumbers xs ys h.2 hxs]

end

end Json

/-! ## Parts that may be absent, and parts by key -/

section Parts

variable {α : Type} {same : α → α → Bool} {numbers : α → List Number}
  (halike : ∀ a b, same a b = true → Alike (numbers a) (numbers b))

include halike

/-- Optional values that are the same have alike numbers. -/
theorem optionNumbers_alike {a b : Option α} (h : sameOption same a b = true) :
    Alike (optionNumbers numbers a) (optionNumbers numbers b) := by
  match a, b with
  | none, none => exact .nil
  | some a, some b => simpa [optionNumbers] using halike a b h

theorem entryNumbers_alike {as bs : Keyed α} (h : sameEntries same as bs = true) :
    Alike (entryNumbers numbers as) (entryNumbers numbers bs) := by
  induction as generalizing bs with
  | nil =>
    cases bs with
    | nil => exact .nil
    | cons b bs => cases h
  | cons a as ih =>
    cases bs with
    | nil => cases h
    | cons b bs =>
      simp only [sameEntries, Bool.and_eq_true] at h
      exact (halike _ _ h.1.2).append (ih h.2)

/-- Entries come to the same, number by number, where values do. -/
theorem map_eq_of_entryNumbers {β : Type} {f : α → β}
    (hf : ∀ a b, same a b = true → numbers a = numbers b → f a = f b) {as bs : Keyed α}
    (h : sameEntries same as bs = true)
    (heq : entryNumbers numbers as = entryNumbers numbers bs) :
    as.map (fun a => (a.1, f a.2)) = bs.map fun b => (b.1, f b.2) := by
  induction as generalizing bs with
  | nil =>
    cases bs with
    | nil => rfl
    | cons b bs => cases h
  | cons a as ih =>
    cases bs with
    | nil => cases h
    | cons b bs =>
      simp only [sameEntries, Bool.and_eq_true, beq_iff_eq] at h
      obtain ⟨ha, has⟩ := (halike a.2 b.2 h.1.2).append_inj heq
      rw [List.map_cons, List.map_cons, h.1.1, hf _ _ h.1.2 ha, ih h.2 has]

end Parts

end RemoteScreen
