import RemoteScreen.Number.Decimal
import RemoteScreen.Proofs.Number.Rounding

/-!
# Proofs/Number/Shortest — the fewest digits that read back

What `shortest` finds is a decimal that rounds to the number, on whichever grid it is found; the
finest grid has the number itself (`shortest_sound`).  And **a decimal that rounds to a number is
read as that number** (`ofDecimal?_eq`): none is so small or so large that reading it stops short.
-/

namespace RemoteScreen

/-! ## Decimals that round to a number -/

namespace Binary64

variable {m c n d : Nat}

theorem ten_pow_pos (k : Nat) : 0 < 10 ^ k := Nat.pow_pos (by decide)

theorem readsBack_of_nonneg {e : Int} (he : 0 ≤ e) :
    readsBack m c e = (magnitudeOfRatio (c * 10 ^ e.toNat) 1 == m) := if_pos he

theorem readsBack_of_neg {e : Int} (he : ¬0 ≤ e) :
    readsBack m c e = (magnitudeOfRatio c (10 ^ (-e).toNat) == m) := if_neg he

/-- Zeros at the end of the coefficient can go into the exponent. -/
theorem readsBack_mul_pow (z : Nat) (e : Int) :
    readsBack m (c * 10 ^ z) e = readsBack m c (e + z) := by
  have hc (i j k l : Nat) (h : z + i + l = k + j) :
      magnitudeOfRatio (c * 10 ^ z * 10 ^ i) (10 ^ j) = magnitudeOfRatio (c * 10 ^ k) (10 ^ l) := by
    refine magnitudeOfRatio_congr (ten_pow_pos j) (ten_pow_pos l) ?_
    rw [Nat.mul_assoc, Nat.mul_assoc, ← Nat.pow_add, ← Nat.pow_add, Nat.mul_assoc, ← Nat.pow_add]
    rw [show z + (i + l) = k + j by omega]
  by_cases h₁ : 0 ≤ e
  · have h₂ : 0 ≤ e + z := by omega
    have := hc e.toNat 0 (e + z).toNat 0 (by omega)
    rw [Nat.pow_zero] at this
    rw [readsBack_of_nonneg h₁, readsBack_of_nonneg h₂, this]
  · by_cases h₂ : 0 ≤ e + z
    · have := hc 0 (-e).toNat (e + z).toNat 0 (by omega)
      rw [Nat.pow_zero, Nat.mul_one] at this
      rw [readsBack_of_neg h₁, readsBack_of_nonneg h₂, this]
    · have := hc 0 (-e).toNat 0 (-(e + z)).toNat (by omega)
      rw [Nat.pow_zero, Nat.mul_one, Nat.mul_one] at this
      rw [readsBack_of_neg h₁, readsBack_of_neg h₂, this]

theorem grains_dvd_ten_pow {t : Nat} (ht : 1074 ≤ t) : grains ∣ 10 ^ t := by
  rw [grains_eq, show 10 = 2 * 5 from rfl, Nat.mul_pow]
  exact Nat.dvd_trans (Nat.pow_dvd_pow 2 ht) (Nat.dvd_mul_right _ _)

/-- On a grid as fine as the finest, every number stands. -/
theorem readsBack_roundDiv (x : Binary64) {e : Int} (he : e ≤ finestExponent) :
    readsBack x.magnitude
      (roundDiv (unscale x.ratio.1 x.ratio.2 e).1 (unscale x.ratio.1 x.ratio.2 e).2) e = true := by
  rw [finestExponent] at he
  obtain ⟨q, hq⟩ := grains_dvd_ten_pow (t := (-e).toNat) (by omega)
  have hwhole : x.ratio.1 * 10 ^ (-e).toNat = x.significand * 2 ^ x.scale * q * x.ratio.2 := by
    rw [hq, ← Nat.mul_assoc, x.ratio_eq, Nat.mul_comm x.ratio.2, ← Nat.mul_assoc]
    exact Nat.mul_right_comm ..
  rw [readsBack_of_neg (by omega), unscale, if_neg (by omega)]
  simp only [Nat.pow_eq]
  rw [hwhole, roundDiv_mul_self _ x.ratio_pos, beq_iff_eq, ← x.magnitudeOfRatio_ratio]
  exact magnitudeOfRatio_congr (ten_pow_pos _) x.ratio_pos hwhole.symm

theorem ne_zero_of_readsBack {e : Int} (hm : m ≠ 0) (hr : readsBack m c e = true) : c ≠ 0 := by
  rintro rfl
  rw [readsBack] at hr
  simp [hm.symm] at hr

/-- Digits found on a grid are read back. -/
theorem onGrid?_readsBack {e : Int} (h : onGrid? m n d e = some c) : readsBack m c e = true := by
  rw [onGrid?] at h
  grind

/-- **What is found on the first grid that has it reads back.** -/
theorem firstGrid_readsBack (x : Binary64) (grids : Nat) {e : Int}
    (he : e - grids ≤ finestExponent) :
    let found := firstGrid x.magnitude x.ratio.1 x.ratio.2 e grids
    readsBack x.magnitude found.1 found.2 = true := by
  induction grids generalizing e with
  | zero => exact x.readsBack_roundDiv (by omega)
  | succ grids ih =>
    simp only [firstGrid]
    split
    · next hc => exact onGrid?_readsBack hc
    · exact ih (by omega)

/-! ## The fewest digits -/

/-- A character is a decimal digit, in a list of which all are. -/
def AllDigits (cs : List Char) : Prop := ∀ c ∈ cs, c.isDigit = true

theorem AllDigits.append {cs ds : List Char} (hc : AllDigits cs) (hd : AllDigits ds) :
    AllDigits (cs ++ ds) := fun c h => (List.mem_append.1 h).elim (hc c) (hd c)

theorem AllDigits.replicate_zero (n : Nat) : AllDigits (List.replicate n '0') := by
  intro c hc
  rw [List.eq_of_mem_replicate hc]
  rfl

theorem allDigits_toDigits (n : Nat) : AllDigits (Nat.toDigits 10 n) :=
  fun _ => Nat.isDigit_of_mem_toDigits (by decide) (by decide)

/-- The decimal digits of a number have its value. -/
theorem digitsValue_toDigits (n : Nat) : Numeral.digitsValue (Nat.toDigits 10 n) = n :=
  Nat.ofDigitChars_ten_toDigits

theorem digitsValue_append_zeros (ds : List Char) (n : Nat) :
    Numeral.digitsValue (ds ++ List.replicate n '0') = Numeral.digitsValue ds * 10 ^ n := by
  have h := Nat.ofDigitChars_append (b := 10) (l := ds) (m := List.replicate n '0') 0
  rw [Nat.ofDigitChars_replicate_zero, Nat.mul_comm] at h
  exact h

theorem digitsValue_zeros_append (n : Nat) (ds : List Char) :
    Numeral.digitsValue (List.replicate n '0' ++ ds) = Numeral.digitsValue ds := by
  have h := Nat.ofDigitChars_append (b := 10) (l := List.replicate n '0') (m := ds) 0
  rw [Nat.ofDigitChars_replicate_zero] at h
  exact h

/-- Without the zeros at its end, and with as many zeros again. -/
theorem strip_append_zeros (cs : List Char) :
    (cs.reverse.dropWhile (· == '0')).reverse
      ++ List.replicate (cs.reverse.takeWhile (· == '0')).length '0' = cs := by
  have hz : cs.reverse.takeWhile (· == '0')
      = List.replicate (cs.reverse.takeWhile (· == '0')).length '0' := by
    refine List.eq_replicate_of_mem fun c hc => ?_
    simpa using List.all_eq_true.1 List.all_takeWhile c hc
  rw [← List.reverse_inj, List.reverse_append, List.reverse_reverse, List.reverse_replicate, ← hz]
  exact List.takeWhile_append_dropWhile

/-- **The fewest digits**: digits, and as a decimal they round to the number. -/
structure Digits.Sound (m : Nat) (ds : Digits) : Prop where
  digits : AllDigits ds.digits
  readsBack : readsBack m (Numeral.digitsValue ds.digits)
    (ds.exponent + 1 - ds.digits.length) = true

/-- **The shortest digits of a number are sound for it.** -/
theorem shortest_sound (x : Binary64) : x.shortest.Sound x.magnitude := by
  rw [shortest]
  simp only []
  generalize hfound : firstGrid x.magnitude x.ratio.1 x.ratio.2 _ _ = found
  have hread : readsBack x.magnitude found.1 found.2 = true := by
    rw [← hfound]
    exact x.firstGrid_readsBack _ (by rw [finestExponent]; omega)
  obtain ⟨c, e⟩ := found
  generalize hds : ((Nat.toDigits 10 c).reverse.dropWhile (· == '0')).reverse = ds
  generalize hz : ((Nat.toDigits 10 c).reverse.takeWhile (· == '0')).length = z
  have hall : ds ++ List.replicate z '0' = Nat.toDigits 10 c := by
    rw [← hds, ← hz]
    exact strip_append_zeros _
  refine ⟨fun a ha => allDigits_toDigits c a ?_, ?_⟩
  · rw [← hall]
    exact List.mem_append_left _ ha
  · have hc : c = Numeral.digitsValue ds * 10 ^ z := by
      rw [← digitsValue_append_zeros, hall, digitsValue_toDigits]
    have hlen : ((Nat.toDigits 10 c).length : Int) = ds.length + z := by
      rw [← hall]
      simp
    simp only [hc, readsBack_mul_pow] at hread
    rw [← hread]
    simp only [hlen]
    congr 1
    omega

theorem Digits.Sound.digits_ne_nil {ds : Digits} (hs : ds.Sound m) (hm : m ≠ 0) :
    ds.digits ≠ [] := by
  intro hnil
  refine ne_zero_of_readsBack hm hs.readsBack ?_
  rw [hnil]
  rfl

/-! ## Decimals that are read -/

theorem lt_ten_pow_digitCount (hc : c ≠ 0) : c < 10 ^ digitCount c := by
  rw [digitCount, if_neg hc]
  exact (Nat.length_toDigits_le_iff (by decide) Nat.length_toDigits_pos).1 (Nat.le_refl _)

theorem ten_pow_le_of_digitCount {k : Nat} (hc : c ≠ 0) (hk : k < digitCount c) : 10 ^ k ≤ c := by
  rw [digitCount, if_neg hc] at hk
  rcases Nat.eq_zero_or_pos k with rfl | hpos
  · exact Nat.pos_of_ne_zero hc
  · refine Nat.le_of_not_lt fun hlt => ?_
    exact Nat.not_le.2 hk ((Nat.length_toDigits_le_iff (by decide) hpos).2 hlt)

/-- A decimal that reads back is not so small that reading takes it for zero. -/
theorem neg_le_top {e : Int} (hm : m ≠ 0) (hc : c ≠ 0) (hr : readsBack m c e = true) :
    -330 ≤ e + digitCount c := by
  refine Int.not_lt.1 fun htop => hm ?_
  have hlt := lt_ten_pow_digitCount hc
  rw [readsBack, if_neg (by omega), beq_iff_eq] at hr
  rw [← hr]
  refine magnitudeOfRatio_eq_zero ?_
  calc 2 * (c * grains) = c * (2 * grains) := Nat.mul_left_comm ..
    _ ≤ c * 10 ^ 330 := Nat.mul_le_mul_left c (by decide +kernel)
    _ < 10 ^ digitCount c * 10 ^ 330 := Nat.mul_lt_mul_of_pos_right hlt (ten_pow_pos 330)
    _ = 10 ^ (digitCount c + 330) := (Nat.pow_add ..).symm
    _ ≤ 10 ^ (-e).toNat := Nat.pow_le_pow_right (by decide) (by omega)

/-- A decimal that reads back is not so large that reading takes it for an infinity. -/
theorem top_le {e : Int} (hm : m < infinite) (hc : c ≠ 0) (hr : readsBack m c e = true) :
    e + digitCount c ≤ 310 := by
  refine Int.not_lt.1 fun htop => Nat.not_le.2 hm ?_
  have htwo : 2 ^ 1024 ≤ 10 ^ 310 := by decide +kernel
  rw [readsBack] at hr
  split at hr
  · next he =>
    rw [← beq_iff_eq.1 hr]
    refine infinite_le_magnitudeOfRatio Nat.one_pos ?_
    rw [Nat.one_mul]
    have hle : 10 ^ (digitCount c - 1) ≤ c := ten_pow_le_of_digitCount hc (by
      rw [digitCount, if_neg hc]
      have : 0 < (Nat.toDigits 10 c).length := Nat.length_toDigits_pos
      omega)
    calc 2 ^ 1024 ≤ 10 ^ 310 := htwo
      _ ≤ 10 ^ (digitCount c - 1 + e.toNat) := Nat.pow_le_pow_right (by decide) (by omega)
      _ = 10 ^ (digitCount c - 1) * 10 ^ e.toNat := Nat.pow_add ..
      _ ≤ c * 10 ^ e.toNat := Nat.mul_le_mul_right _ hle
  · next he =>
    rw [← beq_iff_eq.1 hr]
    refine infinite_le_magnitudeOfRatio (ten_pow_pos _) ?_
    calc 10 ^ (-e).toNat * 2 ^ 1024 ≤ 10 ^ (-e).toNat * 10 ^ 310 := Nat.mul_le_mul_left _ htwo
      _ = 10 ^ ((-e).toNat + 310) := (Nat.pow_add ..).symm
      _ ≤ c := ten_pow_le_of_digitCount hc (by omega)

/-- A quotient of a finite magnitude is the number of that magnitude. -/
theorem ofRatio?_eq (negative : Bool) (hm : m < infinite) (h : magnitudeOfRatio n d = m) :
    ofRatio? negative n d = some ⟨negative, m, hm⟩ := by
  subst h
  exact dif_pos hm

/-- **A decimal that reads back is read as the number.** -/
theorem ofDecimal?_eq {e : Int} (negative : Bool) (hm : m < infinite) (hm0 : m ≠ 0)
    (hr : readsBack m c e = true) : ofDecimal? negative c e = some ⟨negative, m, hm⟩ := by
  have hc := ne_zero_of_readsBack hm0 hr
  have hlow := neg_le_top hm0 hc hr
  have hhigh := top_le hm hc hr
  rw [ofDecimal?]
  simp only [hc, false_or, if_neg (Int.not_lt.2 hlow), if_neg (Int.not_lt.2 hhigh)]
  split
  · next he =>
    rw [readsBack_of_nonneg he, beq_iff_eq] at hr
    exact ofRatio?_eq negative hm hr
  · next he =>
    rw [readsBack_of_neg he, beq_iff_eq] at hr
    exact ofRatio?_eq negative hm hr

end Binary64

end RemoteScreen
