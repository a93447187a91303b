import Mathlib.Algebra.Group.Nat.Defs
import RemoteScreen.Number.Binary64

/-!
# Proofs/Number/Rounding — what a quotient is rounded to

The magnitude that a quotient is rounded to is worked out at a **scale**: the least one at which the
quotient has no more bits than a significand (`IsScale`).  Both the scale and the rounding depend on
the value of the quotient alone.

* `magnitudeOfRatio_congr` — **equal quotients are rounded alike**, however they are written;
* `magnitudeOfRatio_ratio` — **a number is its own rounding**.
-/

namespace RemoteScreen.Binary64

/-! ## The nearest integer -/

/-- Rounding a quotient does not depend on how it is reduced. -/
theorem roundDiv_mul_right (n d : Nat) {k : Nat} (hk : 0 < k) :
    roundDiv (n * k) (d * k) = roundDiv n d := by
  have htwice : 2 * (n % d * k) = 2 * (n % d) * k := by rw [Nat.mul_assoc]
  rw [roundDiv, roundDiv, Nat.mul_div_mul_right n d hk, Nat.mul_mod_mul_right]
  simp only [htwice, Nat.mul_lt_mul_right hk]

/-- A whole number is rounded to itself. -/
theorem roundDiv_mul_self (q : Nat) {d : Nat} (hd : 0 < d) : roundDiv (q * d) d = q := by
  rw [roundDiv, Nat.mul_mod_left, Nat.mul_div_cancel q hd]
  simp [hd]

theorem roundDiv_eq_zero {n d : Nat} (h : 2 * n < d) : roundDiv n d = 0 := by
  rw [roundDiv, Nat.div_eq_of_lt (by omega), Nat.mod_eq_of_lt (by omega)]
  simp [h]

theorem le_roundDiv {q n d : Nat} (hd : 0 < d) (h : q * d ≤ n) : q ≤ roundDiv n d := by
  have hq : q ≤ n / d := (Nat.le_div_iff_mul_le hd).2 h
  rw [roundDiv]
  split
  · exact hq
  · split <;> omega

/-! ## The scale -/

/-- How many of the least positive number make one. -/
@[irreducible] def grains : Nat := 2 ^ 1074

theorem grains_eq : grains = 2 ^ 1074 := by
  delta grains
  exact Eq.refl _

theorem grains_pos : 0 < grains := by
  rw [grains_eq]
  exact Nat.two_pow_pos 1074

theorem mul_grains (n k : Nat) : n * 2 ^ k * grains = n * 2 ^ (k + 1074) := by
  rw [grains_eq, Nat.mul_assoc, ← Nat.pow_add 2 k 1074]

theorem grains_of_le {s : Nat} (hs : s ≤ 1074) : grains = 2 ^ (1074 - s) * 2 ^ s := by
  rw [grains_eq, ← Nat.pow_add 2 (1074 - s) s, Nat.sub_add_cancel hs]

/-- The scale of a quotient: the least at which it has at most 53 significant bits. -/
structure IsScale (n d s : Nat) : Prop where
  lt : n * grains < d * 2 ^ (53 + s)
  least : s = 0 ∨ d * 2 ^ (52 + s) ≤ n * grains

theorem IsScale.le {n d s t : Nat} (hs : IsScale n d s)
    (ht : n * grains < d * 2 ^ (53 + t)) : s ≤ t := by
  rcases hs.least with rfl | hle
  · exact Nat.zero_le t
  · have hpow : 2 ^ (52 + s) < 2 ^ (53 + t) :=
      Nat.lt_of_mul_lt_mul_left (Nat.lt_of_le_of_lt hle ht)
    have := (Nat.pow_lt_pow_iff_right (by decide : 1 < 2)).1 hpow
    omega

/-- A quotient has only one scale. -/
theorem IsScale.unique {n d s t : Nat} (hs : IsScale n d s) (ht : IsScale n d t) : s = t :=
  Nat.le_antisymm (hs.le ht.lt) (ht.le hs.lt)

theorem IsScale.mul_right {n d s k : Nat} (hs : IsScale n d s) (hk : 0 < k) :
    IsScale (n * k) (d * k) s := by
  refine ⟨?_, hs.least.imp_right fun hle => ?_⟩
  · rw [Nat.mul_right_comm n, Nat.mul_right_comm d]
    exact Nat.mul_lt_mul_of_pos_right hs.lt hk
  · rw [Nat.mul_right_comm n, Nat.mul_right_comm d]
    exact Nat.mul_le_mul_right k hle

theorem fits_iff (n d s : Nat) : fits n d s = true ↔ n * grains < d * 2 ^ (53 + s) := by
  rw [fits]
  split
  · next hs =>
    rw [decide_eq_true_iff, Nat.shiftLeft_eq, Nat.shiftLeft_eq, grains_of_le hs, Nat.pow_add,
      ← Nat.mul_assoc, ← Nat.mul_assoc]
    exact (Nat.mul_lt_mul_right (Nat.two_pow_pos s)).symm
  · next hs =>
    have hd : d * 2 ^ (53 + s) = d * 2 ^ (s - 1074) * 2 ^ 53 * grains := by
      rw [Nat.mul_right_comm, mul_grains, Nat.sub_add_cancel (by omega), Nat.mul_assoc,
        ← Nat.pow_add, Nat.add_comm s 53]
    rw [decide_eq_true_iff, Nat.shiftLeft_eq, Nat.shiftLeft_eq, hd]
    exact (Nat.mul_lt_mul_right grains_pos).symm

/-- **The scale that rounding looks for.** -/
theorem scaleOf_isScale {n d : Nat} (hn : 0 < n) (hd : 0 < d) : IsScale n d (scaleOf n d) := by
  have hn₁ : 2 ^ n.log2 ≤ n := Nat.log2_self_le (Nat.ne_of_gt hn)
  have hn₂ : n < 2 ^ (n.log2 + 1) := Nat.lt_log2_self
  have hd₁ : 2 ^ d.log2 ≤ d := Nat.log2_self_le (Nat.ne_of_gt hd)
  have hd₂ : d < 2 ^ (d.log2 + 1) := Nat.lt_log2_self
  have hfits : ∀ t, n.log2 + 1022 ≤ d.log2 + t → n * grains < d * 2 ^ (53 + t) := by
    intro t ht
    calc n * grains < 2 ^ (n.log2 + 1) * grains :=
          Nat.mul_lt_mul_of_pos_right hn₂ grains_pos
      _ = 2 ^ (n.log2 + 1 + 1074) := by
          rw [← Nat.one_mul (2 ^ (n.log2 + 1)), mul_grains, Nat.one_mul]
      _ ≤ 2 ^ (d.log2 + (53 + t)) := Nat.pow_le_pow_right (by decide) (by omega)
      _ = 2 ^ d.log2 * 2 ^ (53 + t) := Nat.pow_add ..
      _ ≤ d * 2 ^ (53 + t) := Nat.mul_le_mul_right _ hd₁
  have hleast : ∀ t, d.log2 + t ≤ n.log2 + 1021 → d * 2 ^ (52 + t) ≤ n * grains := by
    intro t ht
    calc d * 2 ^ (52 + t) ≤ 2 ^ (d.log2 + 1) * 2 ^ (52 + t) :=
          Nat.mul_le_mul_right _ (Nat.le_of_lt hd₂)
      _ = 2 ^ (d.log2 + 1 + (52 + t)) := (Nat.pow_add ..).symm
      _ ≤ 2 ^ (n.log2 + 1074) := Nat.pow_le_pow_right (by decide) (by omega)
      _ = 2 ^ n.log2 * grains := by
          rw [← Nat.one_mul (2 ^ n.log2), mul_grains, Nat.one_mul]
      _ ≤ n * grains := Nat.mul_le_mul_right _ hn₁
  rw [scaleOf]
  generalize hlow : ((n.log2 : Int) - d.log2 + 1022 - 1).toNat = low
  simp only [fits_iff]
  split
  · next hfit =>
    refine ⟨hfit, ?_⟩
    by_cases h0 : low = 0
    · exact .inl h0
    · exact .inr (hleast low (by omega))
  · next hfit =>
    have hstep : ∀ t, ¬ n * grains < d * 2 ^ (53 + t) → d * 2 ^ (52 + (t + 1)) ≤ n * grains := by
      intro t ht
      rw [show 52 + (t + 1) = 53 + t by omega]
      exact Nat.le_of_not_lt ht
    split
    · next hfit' => exact ⟨hfit', .inr (hstep low hfit)⟩
    · next hfit' => exact ⟨hfits _ (by omega), .inr (hstep (low + 1) hfit')⟩

/-! ## The magnitude -/

/-- The magnitude at a scale: its binade, and the quotient rounded within. -/
theorem magnitudeAt_eq (n d s : Nat) :
    magnitudeAt n d s = s * 2 ^ 52 + roundDiv (n * grains) (d * 2 ^ s) := by
  rw [magnitudeAt, Nat.shiftLeft_eq, Nat.shiftLeft_eq]
  split
  · next hs =>
    rw [grains_of_le hs, ← Nat.mul_assoc, roundDiv_mul_right _ _ (Nat.two_pow_pos s)]
    rfl
  · next hs =>
    have hd : d * 2 ^ s = d * 2 ^ (s - 1074) * grains := by
      rw [mul_grains, Nat.sub_add_cancel (by omega)]
    rw [hd, roundDiv_mul_right _ _ grains_pos]
    rfl

@[simp] theorem magnitudeOfRatio_zero (d : Nat) : magnitudeOfRatio 0 d = 0 := by
  simp [magnitudeOfRatio]

/-- **At its scale a quotient rounds to the magnitude there.** -/
theorem magnitudeOfRatio_eq {n d s : Nat} (hn : 0 < n) (hd : 0 < d) (hs : IsScale n d s) :
    magnitudeOfRatio n d = s * 2 ^ 52 + roundDiv (n * grains) (d * 2 ^ s) := by
  rw [magnitudeOfRatio, if_neg (Nat.ne_of_gt hn), (scaleOf_isScale hn hd).unique hs,
    magnitudeAt_eq]

/-- The magnitude of a quotient does not depend on how it is reduced. -/
theorem magnitudeOfRatio_mul_right (n : Nat) {d k : Nat} (hd : 0 < d) (hk : 0 < k) :
    magnitudeOfRatio (n * k) (d * k) = magnitudeOfRatio n d := by
  rcases Nat.eq_zero_or_pos n with rfl | hn
  · rw [Nat.zero_mul, magnitudeOfRatio_zero, magnitudeOfRatio_zero]
  · have hs := scaleOf_isScale hn hd
    rw [magnitudeOfRatio_eq hn hd hs,
      magnitudeOfRatio_eq (Nat.mul_pos hn hk) (Nat.mul_pos hd hk) (hs.mul_right hk),
      Nat.mul_right_comm n, Nat.mul_right_comm d, roundDiv_mul_right _ _ hk]

/-- **Equal quotients are rounded alike.** -/
theorem magnitudeOfRatio_congr {n d n' d' : Nat} (hd : 0 < d) (hd' : 0 < d')
    (h : n * d' = n' * d) : magnitudeOfRatio n d = magnitudeOfRatio n' d' := by
  rw [← magnitudeOfRatio_mul_right n hd hd', h, Nat.mul_comm d,
    magnitudeOfRatio_mul_right n' hd' hd]

/-- What is less than half the least number is rounded to zero. -/
theorem magnitudeOfRatio_eq_zero {n d : Nat} (h : 2 * (n * grains) < d) :
    magnitudeOfRatio n d = 0 := by
  rcases Nat.eq_zero_or_pos n with rfl | hn
  · exact magnitudeOfRatio_zero d
  · have hs : IsScale n d 0 := by
      refine ⟨?_, .inl rfl⟩
      have := Nat.le_mul_of_pos_right d (Nat.two_pow_pos (53 + 0))
      omega
    rw [magnitudeOfRatio_eq hn (by omega) hs, Nat.pow_zero, Nat.mul_one, roundDiv_eq_zero h,
      Nat.zero_mul]

/-- What is too large is rounded past all numbers. -/
theorem infinite_le_magnitudeOfRatio {n d : Nat} (hd : 0 < d) (h : d * 2 ^ 1024 ≤ n) :
    infinite ≤ magnitudeOfRatio n d := by
  have hn : 0 < n := Nat.lt_of_lt_of_le (Nat.mul_pos hd (Nat.two_pow_pos 1024)) h
  have hs := scaleOf_isScale hn hd
  have hbig : d * 2 ^ 2098 ≤ n * grains := by
    rw [show 2098 = 1024 + 1074 from rfl, ← mul_grains]
    exact Nat.mul_le_mul_right grains h
  have hle : 2046 ≤ scaleOf n d := by
    have hpow : 2 ^ 2098 < 2 ^ (53 + scaleOf n d) :=
      Nat.lt_of_mul_lt_mul_left (Nat.lt_of_le_of_lt hbig hs.lt)
    have := (Nat.pow_lt_pow_iff_right (by decide : 1 < 2)).1 hpow
    omega
  have hround : 2 ^ 52 ≤ roundDiv (n * grains) (d * 2 ^ scaleOf n d) := by
    refine le_roundDiv (Nat.mul_pos hd (Nat.two_pow_pos _)) ?_
    rcases hs.least with h0 | hle'
    · omega
    · calc 2 ^ 52 * (d * 2 ^ scaleOf n d) = d * 2 ^ (52 + scaleOf n d) := by
            rw [Nat.mul_left_comm, ← Nat.pow_add]
        _ ≤ n * grains := hle'
  rw [magnitudeOfRatio_eq hn hd hs, infinite]
  have : 2046 * 2 ^ 52 ≤ scaleOf n d * 2 ^ 52 := Nat.mul_le_mul_right _ hle
  omega

/-! ## The numbers themselves -/

theorem significand_lt (x : Binary64) : x.significand < 2 ^ 53 := by
  rw [significand]
  split <;> omega

theorem ratio_pos (x : Binary64) : 0 < x.ratio.2 := by
  rw [ratio]
  split
  · exact Nat.one_pos
  · rw [Nat.one_shiftLeft]
    exact Nat.two_pow_pos _

/-- The quotient of a number is its significand at its scale. -/
theorem ratio_eq (x : Binary64) :
    x.ratio.1 * grains = x.significand * (x.ratio.2 * 2 ^ x.scale) := by
  rw [ratio]
  split
  · next hs =>
    simp only [Nat.shiftLeft_eq]
    rw [Nat.one_mul, mul_grains, Nat.sub_add_cancel hs]
  · next hs =>
    simp only [Nat.one_shiftLeft]
    rw [← grains_of_le (by omega)]

theorem magnitude_eq (x : Binary64) : x.scale * 2 ^ 52 + x.significand = x.magnitude := by
  rw [scale, significand]
  split <;> omega

/-- A binary number stands at its own scale. -/
theorem isScale_ratio (x : Binary64) : IsScale x.ratio.1 x.ratio.2 x.scale := by
  have hpos := Nat.mul_pos x.ratio_pos (Nat.two_pow_pos x.scale)
  have hmul (k : Nat) : x.ratio.2 * 2 ^ (k + x.scale) = 2 ^ k * (x.ratio.2 * 2 ^ x.scale) := by
    rw [Nat.pow_add, Nat.mul_left_comm]
  refine ⟨?_, ?_⟩
  · rw [ratio_eq, hmul]
    exact Nat.mul_lt_mul_of_pos_right x.significand_lt hpos
  · by_cases hm : x.magnitude < 0x10000000000000
    · exact .inl (by rw [scale, if_pos hm])
    · right
      rw [ratio_eq, hmul]
      refine Nat.mul_le_mul_right _ ?_
      rw [significand, if_neg hm]
      omega

/-- **A number is its own rounding.** -/
theorem magnitudeOfRatio_ratio (x : Binary64) :
    magnitudeOfRatio x.ratio.1 x.ratio.2 = x.magnitude := by
  have hpos := Nat.mul_pos x.ratio_pos (Nat.two_pow_pos x.scale)
  have heq := x.ratio_eq
  rcases Nat.eq_zero_or_pos x.ratio.1 with h0 | hn
  · rw [h0, Nat.zero_mul] at heq
    have hsig : x.significand = 0 := (Nat.mul_eq_zero.1 heq.symm).resolve_right (by omega)
    rw [h0, magnitudeOfRatio_zero]
    rw [significand] at hsig
    split at hsig <;> omega
  · rw [magnitudeOfRatio_eq hn x.ratio_pos x.isScale_ratio, heq, roundDiv_mul_self _ hpos,
      magnitude_eq]

end RemoteScreen.Binary64
