import Mathlib.Data.Finset.Card
import RemoteScreen.Pattern.Regex

/-!
# Proofs/Pattern/Matches — the matcher finds what expressions say

`Regex.Matches` reads an expression as a relation: where a part that matches begins, and where it
ends.  `Regex.ends` works on sets of positions instead, and stops a repetition as soon as nothing
new is reached, or after as many times as there are positions.

* `Steps.short` — **no way through a text needs more steps than there are positions**: a longer one
  visits a position twice;
* `Follows` — a step on sets of positions follows a relation, one lemma for each way of putting
  steps together;
* `ends_follows`, `isMatch_iff` — **the matcher follows the relation**.
-/

namespace RemoteScreen

/-! ## Ways of many steps -/

/-- So many steps lead from one position to another. -/
def Steps (R : Nat → Nat → Prop) : Nat → Nat → Nat → Prop
  | 0, i, j => i = j
  | n + 1, i, j => ∃ k, Steps R n i k ∧ R k j

namespace Steps

variable {R : Nat → Nat → Prop} {m n i j : Nat}

/-- So many steps and so many more are a way with a place in between. -/
theorem add_iff : Steps R (m + n) i j ↔ ∃ k, Steps R m i k ∧ Steps R n k j := by
  induction n generalizing j with
  | zero => exact ⟨fun h => ⟨j, h, rfl⟩, fun ⟨_, h, heq⟩ => heq ▸ h⟩
  | succ n ih =>
    constructor
    · rintro ⟨l, h, hl⟩
      obtain ⟨k, hk, hkl⟩ := ih.1 h
      exact ⟨k, hk, l, hkl, hl⟩
    · rintro ⟨k, hk, l, hkl, hl⟩
      exact ⟨l, ih.2 ⟨k, hk, hkl⟩, hl⟩

theorem le {N : Nat} (hR : ∀ i j, i ≤ N → R i j → j ≤ N) (hi : i ≤ N) (h : Steps R n i j) :
    j ≤ N := by
  induction n generalizing j with
  | zero => exact h ▸ hi
  | succ n ih =>
    obtain ⟨k, hk, hkj⟩ := h
    exact hR k j (ih hk) hkj

/-- Steps that may stay where they are lead where fewer steps do. -/
theorem or_eq_iff : Steps (fun i j => i = j ∨ R i j) n i j ↔ ∃ m ≤ n, Steps R m i j := by
  induction n generalizing j with
  | zero =>
    refine ⟨fun h => ⟨0, Nat.le_refl 0, h⟩, fun ⟨m, hm, h⟩ => ?_⟩
    obtain rfl := Nat.le_zero.1 hm
    exact h
  | succ n ih =>
    constructor
    · rintro ⟨k, hk, rfl | hkj⟩
      · obtain ⟨m, hm, h⟩ := ih.1 hk
        exact ⟨m, Nat.le_succ_of_le hm, h⟩
      · obtain ⟨m, hm, h⟩ := ih.1 hk
        exact ⟨m + 1, Nat.succ_le_succ hm, k, h, hkj⟩
    · rintro ⟨m, hm, h⟩
      rcases Nat.lt_or_eq_of_le hm with hlt | rfl
      · exact ⟨j, ih.2 ⟨m, Nat.lt_succ_iff.1 hlt, h⟩, .inl rfl⟩
      · obtain ⟨k, hk, hkj⟩ := h
        exact ⟨k, ih.2 ⟨n, Nat.le_refl n, hk⟩, .inr hkj⟩

/-- **Where there are few positions, few steps lead anywhere.** -/
theorem short {N : Nat} (hR : ∀ i j, i ≤ N → R i j → j ≤ N) (hi : i ≤ N) (h : Steps R n i j) :
    ∃ m ≤ n, m ≤ N ∧ Steps R m i j := by
  induction n using Nat.strong_induction_on with
  | _ n ih =>
    by_cases hn : n ≤ N
    · exact ⟨n, Nat.le_refl n, hn, h⟩
    · have hvisit : ∀ k, ∃ x, k ≤ n → Steps R k i x ∧ Steps R (n - k) x j := by
        intro k
        by_cases hk : k ≤ n
        · obtain ⟨x, hx⟩ := add_iff.1 (Nat.add_sub_cancel' hk ▸ h)
          exact ⟨x, fun _ => hx⟩
        · exact ⟨0, fun hk' => absurd hk' hk⟩
      choose visit hvisit using hvisit
      have hmaps : ∀ k ∈ Finset.range (n + 1), visit k ∈ Finset.range (N + 1) := by
        intro k hk
        have hk : k ≤ n := Nat.lt_succ_iff.1 (Finset.mem_range.1 hk)
        exact Finset.mem_range.2 (Nat.lt_succ_iff.2 ((hvisit k hk).1.le hR hi))
      obtain ⟨a, ha, b, hb, hab, heq⟩ :=
        Finset.exists_ne_map_eq_of_card_lt_of_maps_to (by simpa using hn) hmaps
      have hcut {a b : Nat} (ha : a ≤ n) (hb : b ≤ n) (hab : a < b) (heq : visit a = visit b) :
          ∃ m ≤ n, m ≤ N ∧ Steps R m i j := by
        have hless : a + (n - b) < n := by omega
        obtain ⟨m, hm, hmN, hs⟩ := ih _ hless
          (add_iff.2 ⟨visit a, (hvisit a ha).1, heq ▸ (hvisit b hb).2⟩)
        exact ⟨m, hm.trans hless.le, hmN, hs⟩
      have ha : a ≤ n := Nat.lt_succ_iff.1 (Finset.mem_range.1 ha)
      have hb : b ≤ n := Nat.lt_succ_iff.1 (Finset.mem_range.1 hb)
      rcases Nat.lt_or_gt_of_ne hab with hlt | hlt
      · exact hcut ha hb hlt heq
      · exact hcut hb ha hlt heq.symm

end Steps

/-! ## What an expression says -/

namespace Regex

/-- The character before a position. -/
def before? (text : List Char) : Nat → Option Char
  | 0 => none
  | i + 1 => text[i]?

/-- **The part of a text between two positions matches an expression.** -/
def Matches (text : List Char) : Regex → Nat → Nat → Prop
  | empty, i, j => i = j
  | look l, i, j => i = j ∧ l.holds (before? text i) text[i]? = true
  | set s, i, j => j = i + 1 ∧ ∃ c, text[i]? = some c ∧ s.mem c = true
  | cat a b, i, k => ∃ j, Matches text a i j ∧ Matches text b j k
  | alt a b, i, j => Matches text a i j ∨ Matches text b i j
  | rep a least most, i, j =>
    ∃ n, Steps (Matches text a) n i j ∧ least ≤ n ∧ ∀ m ∈ most, n ≤ max least m

/-- A match ends no later than the text. -/
theorem Matches.le_length {text : List Char} {r : Regex} {i j : Nat} (hi : i ≤ text.length)
    (h : Matches text r i j) : j ≤ text.length := by
  induction r generalizing i j with
  | empty => exact h ▸ hi
  | look l => exact h.1 ▸ hi
  | set s =>
    obtain ⟨rfl, c, hc, -⟩ := h
    exact (List.getElem?_eq_some_iff.1 hc).1
  | cat a b iha ihb =>
    obtain ⟨k, hk, hkj⟩ := h
    exact ihb (iha hi hk) hkj
  | alt a b iha ihb => exact h.elim (iha hi) (ihb hi)
  | rep a least most ih =>
    obtain ⟨n, hn, -⟩ := h
    exact hn.le (fun _ _ => ih) hi

end Regex

/-! ## Steps on sets of positions -/

namespace Positions

/-- A position is in the set. -/
def Has (s : Positions) (i : Nat) : Prop := s[i]? = some true

variable {s t : Positions} {j : Nat}

/-- The union of two sets has what either has. -/
theorem has_union (h : s.length = t.length) : (s.union t).Has j ↔ s.Has j ∨ t.Has j := by
  rw [Has, union, List.getElem?_zipWith]
  by_cases hj : j < s.length
  · have hj' : j < t.length := h ▸ hj
    simp [Has, hj, hj']
  · have hj' : ¬ j < t.length := h ▸ hj
    simp [Has, List.getElem?_eq_none (Nat.not_lt.1 hj), List.getElem?_eq_none (Nat.not_lt.1 hj')]

theorem length_union (h : s.length = t.length) : (s.union t).length = s.length := by
  rw [union, List.length_zipWith, h, Nat.min_self]

/-- The set is one of the positions in a text. -/
def Fits (text : List Char) (s : Positions) : Prop := s.length = text.length + 1

/-- A step on the sets of positions in a text goes where a relation leads. -/
structure Follows (text : List Char) (f : Positions → Positions) (R : Nat → Nat → Prop) : Prop where
  fits : ∀ s, Fits text s → Fits text (f s)
  has : ∀ s, Fits text s → ∀ j, (f s).Has j ↔ ∃ i, s.Has i ∧ R i j

theorem Has.le_length {text : List Char} {i : Nat} (hs : Fits text s) (h : s.Has i) :
    i ≤ text.length := by
  obtain ⟨hi, -⟩ := List.getElem?_eq_some_iff.1 h
  exact Nat.lt_succ_iff.1 (hi.trans_eq hs)

namespace Follows

variable {text : List Char} {f g : Positions → Positions} {R S : Nat → Nat → Prop}

theorem stay : Follows text id Eq where
  fits _ hs := hs
  has _ _ j := ⟨fun h => ⟨j, h, rfl⟩, fun ⟨_, h, heq⟩ => heq ▸ h⟩

theorem comp (hg : Follows text g S) (hf : Follows text f R) :
    Follows text (fun s => g (f s)) fun i k => ∃ j, R i j ∧ S j k where
  fits s hs := hg.fits _ (hf.fits s hs)
  has s hs k := by
    rw [hg.has _ (hf.fits s hs)]
    constructor
    · rintro ⟨j, hj, hjk⟩
      obtain ⟨i, hi, hij⟩ := (hf.has s hs j).1 hj
      exact ⟨i, hi, j, hij, hjk⟩
    · rintro ⟨i, hi, j, hij, hjk⟩
      exact ⟨j, (hf.has s hs j).2 ⟨i, hi, hij⟩, hjk⟩

theorem union (hf : Follows text f R) (hg : Follows text g S) :
    Follows text (fun s => (f s).union (g s)) fun i j => R i j ∨ S i j where
  fits s hs := by
    have hlength : (f s).length = (g s).length := (hf.fits s hs).trans (hg.fits s hs).symm
    exact (length_union hlength).trans (hf.fits s hs)
  has s hs j := by
    have hlength : (f s).length = (g s).length := (hf.fits s hs).trans (hg.fits s hs).symm
    rw [has_union hlength, hf.has s hs, hg.has s hs, ← exists_or]
    exact exists_congr fun i => and_or_left.symm

theorem congr (hf : Follows text f R) (hR : ∀ i j, i ≤ text.length → (R i j ↔ S i j)) :
    Follows text f S where
  fits := hf.fits
  has s hs j := by
    rw [hf.has s hs]
    exact exists_congr fun i => and_congr_right fun hi => hR i j (hi.le_length hs)

/-- A function that follows a relation, iterated, follows its steps. -/
theorem iterate (hf : Follows text f R) (n : Nat) : Follows text (f^[n]) (Steps R n) := by
  induction n with
  | zero => exact stay
  | succ n ih =>
    rw [Function.iterate_succ']
    exact hf.comp ih

end Follows

/-- A step that changes nothing changes nothing any more. -/
theorem times_eq_iterate (step : Positions → Positions) (n : Nat) (s : Positions) :
    times step n s = step^[n] s := by
  induction n generalizing s with
  | zero => rfl
  | succ n ih =>
    rw [times, Function.iterate_succ_apply]
    split
    · next heq => rw [heq, Function.iterate_fixed heq]
    · exact ih (step s)

theorem has_filterLook (l : Look) (first : Option Char) (text : List Char) (hs : Fits text s)
    (j : Nat) : (filterLook l first text s).Has j
      ↔ s.Has j ∧ l.holds (if j = 0 then first else text[j - 1]?) text[j]? = true := by
  induction text generalizing first s j with
  | nil =>
    obtain ⟨b, rfl⟩ := List.length_eq_one_iff.1 hs
    cases j <;> simp [filterLook, Has]
  | cons c text ih =>
    cases s with
    | nil => cases hs
    | cons b s =>
      cases j with
      | zero => simp [filterLook, Has]
      | succ j =>
        have hrest := ih (some c) (Nat.succ.inj hs) j
        rw [Has] at hrest
        rw [filterLook, Has, List.getElem?_cons_succ, hrest]
        cases j <;> simp [Has]

theorem length_filterLook (l : Look) (first : Option Char) (text : List Char)
    (hs : Fits text s) : Fits text (filterLook l first text s) := by
  induction text generalizing first s with
  | nil => simpa [filterLook, Fits] using hs
  | cons c text ih =>
    cases s with
    | nil => cases hs
    | cons b s => exact congrArg Nat.succ (ih (some c) (Nat.succ.inj hs))

end Positions

namespace Regex

open Positions

variable {text : List Char}

/-- Looking around follows the matches of an assertion. -/
theorem follows_look (l : Look) :
    Follows text (filterLook l none text) (Matches text (.look l)) where
  fits s hs := length_filterLook l none text hs
  has s hs j := by
    rw [has_filterLook l none text hs]
    have hbefore : (if j = 0 then none else text[j - 1]?) = before? text j := by
      cases j <;> rfl
    rw [hbefore]
    exact ⟨fun h => ⟨j, h.1, rfl, h.2⟩, fun ⟨i, h, heq, hl⟩ => heq ▸ ⟨h, heq ▸ hl⟩⟩

theorem follows_set (set : CharSet) :
    Follows text (advance set text) (Matches text (.set set)) where
  fits s hs := by
    rw [Fits] at hs
    simp [Fits, advance, hs]
  has s hs j := by
    cases j with
    | zero => simp [advance, Has, Matches]
    | succ j =>
      rw [advance, Has, List.getElem?_cons_succ, List.getElem?_zipWith]
      cases hc : text[j]? <;> cases hb : s[j]? <;> simp [Has, Matches, hc, hb]

/-- A repetition goes where its steps lead: no more of them are needed than there are positions. -/
theorem follows_rep {a : Regex} (ha : Follows text (ends text a) (Matches text a)) (least : Nat)
    (most : Option Nat) :
    Follows text (ends text (.rep a least most)) (Matches text (.rep a least most)) := by
  have hbound : ∀ i j, i ≤ text.length → Matches text a i j → j ≤ text.length :=
    fun _ _ => Matches.le_length
  have hends : ends text (.rep a least most) = fun s =>
      (fun t => (id t).union (ends text a t))^[most.elim (text.length + 1)
        fun m => min (m - least) (text.length + 1)] ((ends text a)^[least] s) := by
    funext s
    simp only [ends, times_eq_iterate]
    cases most <;> rfl
  rw [hends]
  refine (((Follows.stay.union ha).iterate _).comp (ha.iterate least)).congr fun i j hi => ?_
  constructor
  · rintro ⟨k, hk, hkj⟩
    obtain ⟨m, hm, hkj⟩ := Steps.or_eq_iff.1 hkj
    refine ⟨least + m, Steps.add_iff.2 ⟨k, hk, hkj⟩, Nat.le_add_right _ _, ?_⟩
    rintro bound rfl
    rw [Option.elim_some] at hm
    omega
  · rintro ⟨n, hn, hleast, hmost⟩
    rw [← Nat.add_sub_cancel' hleast] at hn
    obtain ⟨k, hk, hkj⟩ := Steps.add_iff.1 hn
    obtain ⟨m, hm, hmN, hkj⟩ := hkj.short hbound (hk.le hbound hi)
    refine ⟨k, hk, Steps.or_eq_iff.2 ⟨m, ?_, hkj⟩⟩
    cases most with
    | none => exact Nat.le_succ_of_le hmN
    | some bound =>
      have := hmost bound rfl
      rw [Option.elim_some]
      omega

/-- **The matcher follows what expressions say.** -/
theorem ends_follows (r : Regex) : Follows text (ends text r) (Matches text r) := by
  induction r with
  | empty => exact .stay
  | look l => exact follows_look l
  | set s => exact follows_set s
  | cat a b iha ihb => exact ihb.comp iha
  | alt a b iha ihb => exact iha.union ihb
  | rep a least most ih => exact follows_rep ih least most

/-- **A text has a match if some part of it matches.** -/
theorem isMatch_iff (r : Regex) :
    r.isMatch text = true ↔ ∃ i j, i ≤ text.length ∧ Matches text r i j := by
  have hs : Fits text (List.replicate (text.length + 1) true) := List.length_replicate
  have hall (i : Nat) :
      Has (List.replicate (text.length + 1) true) i ↔ i ≤ text.length := by
    rw [← Nat.lt_succ_iff]
    simp [Has, List.getElem?_replicate]
  rw [isMatch, List.any_eq_true]
  constructor
  · rintro ⟨b, hb, rfl⟩
    obtain ⟨j, hj⟩ := List.getElem?_of_mem hb
    obtain ⟨i, hi, hij⟩ := ((ends_follows r).has _ hs j).1 hj
    exact ⟨i, j, (hall i).1 hi, hij⟩
  · rintro ⟨i, j, hi, hij⟩
    have hj := ((ends_follows r).has _ hs j).2 ⟨i, (hall i).2 hi, hij⟩
    exact ⟨true, List.mem_of_getElem? hj, rfl⟩

end Regex

end RemoteScreen
