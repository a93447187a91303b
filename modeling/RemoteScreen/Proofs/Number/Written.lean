import RemoteScreen.Proofs.Number.Shortest

/-!
# Proofs/Number/Written — a number is read back from what is written of it

Digits are written in one of three ways, and each says the same decimal (`Digits.say_chars`).  The
fewest digits round to the number, and so **a number is read back** (`read?_toChars`), and its text
tells it from all others (`toChars_injective`).
-/

namespace RemoteScreen

/-! ## Reading -/

namespace Numeral

open Binary64

theorem toLower_of_isDigit {c : Char} (hc : c.isDigit = true) : c.toLower = c := by
  refine dif_neg ?_
  rintro ⟨hA, -⟩
  simp only [Char.isDigit, Bool.and_eq_true, decide_eq_true_iff] at hc
  exact absurd (UInt32.le_trans hA hc.2) (by decide)

/-- What begins with a digit is not a word. -/
theorem word_ne {c : Char} (cs : List Char) (hc : c.isDigit = true) (first : Char)
    (others : List Char) (hf : first.isDigit = false) :
    (String.ofList ((c :: cs).map Char.toLower) == String.ofList (first :: others)) = false := by
  refine beq_eq_false_iff_ne.2 fun heq => ?_
  have hhead := (List.cons.inj (String.ofList_inj.1 heq)).1
  rw [toLower_of_isDigit hc] at hhead
  rw [hhead, hf] at hc
  exact Bool.false_ne_true hc

/-- What begins with a digit is a decimal. -/
theorem unsigned?_of_isDigit (negative : Bool) {c : Char} {cs : List Char}
    (hc : c.isDigit = true) : unsigned? negative (c :: cs) = decimal? negative (c :: cs) := by
  have hinf := word_ne cs hc 'i' ['n', 'f'] rfl
  have hinfty := word_ne cs hc 'i' ['n', 'f', 'i', 'n', 'i', 't', 'y'] rfl
  have hnan := word_ne cs hc 'n' ['a', 'n'] rfl
  rw [unsigned?, show "inf" = String.ofList ['i', 'n', 'f'] from rfl, hinf,
    show "infinity" = String.ofList ['i', 'n', 'f', 'i', 'n', 'i', 't', 'y'] from rfl, hinfty,
    show "nan" = String.ofList ['n', 'a', 'n'] from rfl, hnan]
  rfl

/-- Does not go on with a digit. -/
def Ends (rest : List Char) : Prop := ∀ c ∈ rest.head?, c.isDigit = false

theorem takeWhile_digits {cs rest : List Char} (hcs : AllDigits cs) (hrest : Ends rest) :
    (cs ++ rest).takeWhile Char.isDigit = cs := by
  rw [List.takeWhile_append_of_pos hcs]
  cases rest with
  | nil => simp
  | cons c rest => simp [hrest c rfl]

theorem dropWhile_digits {cs rest : List Char} (hcs : AllDigits cs) (hrest : Ends rest) :
    (cs ++ rest).dropWhile Char.isDigit = rest := by
  rw [List.dropWhile_append_of_pos hcs]
  cases rest with
  | nil => rfl
  | cons c rest => simp [hrest c rfl]

variable {ws fs rest : List Char}

/-- Digits around a point are split there. -/
theorem splitDigits_point (hw : AllDigits ws) (hf : AllDigits fs) (hrest : Ends rest) :
    splitDigits (ws ++ '.' :: (fs ++ rest)) = (ws, fs, rest) := by
  have hpoint : Ends ('.' :: (fs ++ rest)) := by simp [Ends]
  rw [splitDigits, dropWhile_digits hw hpoint]
  simp only []
  rw [takeWhile_digits hw hpoint, takeWhile_digits hf hrest, dropWhile_digits hf hrest]

theorem splitDigits_power (hw : AllDigits ws) (power : List Char) :
    splitDigits (ws ++ 'e' :: power) = (ws, [], 'e' :: power) := by
  have hpower : Ends ('e' :: power) := by simp [Ends]
  rw [splitDigits, dropWhile_digits hw hpower, takeWhile_digits hw hpower]
  rfl

/-- The power of ten that is written is read. -/
theorem exponent?_signed (e : Int) :
    exponent? ((if e < 0 then '-' else '+') :: Nat.toDigits 10 e.natAbs) = some e := by
  have hall : (Nat.toDigits 10 e.natAbs).all Char.isDigit = true :=
    List.all_eq_true.2 (allDigits_toDigits e.natAbs)
  have hne : (Nat.toDigits 10 e.natAbs).isEmpty = false :=
    List.isEmpty_eq_false_iff.2 Nat.toDigits_ne_nil
  by_cases he : e < 0
  · rw [if_pos he, exponent?]
    simp only [hall, hne, digitsValue_toDigits]
    exact congrArg some (show -(e.natAbs : Int) = e by omega)
  · rw [if_neg he, exponent?]
    simp only [hall, hne, digitsValue_toDigits]
    exact congrArg some (show (e.natAbs : Int) = e by omega)

/-- The characters say a decimal, zeros at the end of its coefficient going into its exponent. -/
def Say (cs : List Char) (c : Nat) (e : Int) : Prop :=
  ∃ z : Nat, ∃ e₀ : Int, e₀ + z = e
    ∧ ∀ negative, decimal? negative cs = some (ofDecimal negative (c * 10 ^ z) e₀)

/-- Digits around a point say a number to the power behind them. -/
theorem say_point (ws fs : List Char) (hw : AllDigits ws) (hne : ws ≠ []) (hf : AllDigits fs)
    {p : Int} (hrest : Ends rest) (hp : power? rest = some p) {c z : Nat}
    (hc : digitsValue (ws ++ fs) = c * 10 ^ z) :
    Say (ws ++ '.' :: (fs ++ rest)) c (p - fs.length + z) :=
  ⟨z, _, rfl, fun negative => by simp [decimal?, splitDigits_point hw hf hrest, hne, hp, ← hc]⟩

/-- And so do digits without a point. -/
theorem say_power (ws : List Char) (hw : AllDigits ws) (hne : ws ≠ []) {power : List Char} {p : Int}
    (hp : exponent? power = some p) : Say (ws ++ 'e' :: power) (digitsValue ws) p :=
  ⟨0, p, Int.add_zero p, fun negative => by
    simp [decimal?, splitDigits_power hw, hne, power?, hp]⟩

theorem ends_nil : Ends [] := nofun

theorem ends_power (power : List Char) : Ends ('e' :: power) := by simp [Ends]

end Numeral

namespace Binary64

open Numeral

variable {ds : List Char}

/-- All digits stand behind the point. -/
theorem say_small (hd : AllDigits ds) (k : Nat) :
    Say ('0' :: '.' :: List.replicate k '0' ++ ds) (digitsValue ds) (-k - ds.length) := by
  have hvalue : digitsValue (['0'] ++ (List.replicate k '0' ++ ds))
      = digitsValue ds * 10 ^ 0 := by
    rw [← List.append_assoc, Nat.pow_zero, Nat.mul_one]
    exact digitsValue_zeros_append (k + 1) ds
  have h := say_point ['0'] (List.replicate k '0' ++ ds) (AllDigits.replicate_zero 1)
    (List.cons_ne_nil _ _) ((AllDigits.replicate_zero k).append hd) ends_nil rfl hvalue
  rw [List.append_nil, List.length_append, List.length_replicate] at h
  rw [show -(k : Int) - ds.length = 0 - ↑(k + ds.length) + (0 : Nat) by omega]
  exact h

/-- Some digits stand before the point, with zeros if there are too few of them. -/
theorem say_plain (hd : AllDigits ds) (hne : ds ≠ []) (k : Nat) :
    Say (ds.take (k + 1) ++ List.replicate (k + 1 - ds.length) '0'
        ++ '.' :: (if (ds.drop (k + 1)).isEmpty then ['0'] else ds.drop (k + 1)))
      (digitsValue ds) (k + 1 - ds.length) := by
  have htake : AllDigits (ds.take (k + 1)) := fun c hc => hd c (List.mem_of_mem_take hc)
  have hws := htake.append (AllDigits.replicate_zero (k + 1 - ds.length))
  have hwne : ds.take (k + 1) ++ List.replicate (k + 1 - ds.length) '0' ≠ [] := by simp [hne]
  rcases Nat.lt_or_ge (k + 1) ds.length with hlen | hlen
  · have hdrop : AllDigits (ds.drop (k + 1)) := fun c hc => hd c (List.mem_of_mem_drop hc)
    have hvalue : digitsValue (ds.take (k + 1) ++ List.replicate (k + 1 - ds.length) '0'
        ++ ds.drop (k + 1)) = digitsValue ds * 10 ^ 0 := by
      rw [Nat.sub_eq_zero_of_le (Nat.le_of_lt hlen), List.replicate_zero, List.append_nil,
        List.take_append_drop, Nat.pow_zero, Nat.mul_one]
    have h := say_point _ _ hws hwne hdrop ends_nil rfl hvalue
    rw [List.append_nil, List.length_drop] at h
    rw [if_neg (by simp; omega), show (k : Int) + 1 - ds.length
      = 0 - ↑(ds.length - (k + 1)) + (0 : Nat) by omega]
    exact h
  · have hvalue : digitsValue (ds.take (k + 1) ++ List.replicate (k + 1 - ds.length) '0' ++ ['0'])
        = digitsValue ds * 10 ^ (k + 1 - ds.length + 1) := by
      rw [List.take_of_length_le hlen, List.append_assoc, ← digitsValue_append_zeros,
        List.replicate_succ']
    have h := say_point _ ['0'] hws hwne (AllDigits.replicate_zero 1) ends_nil rfl hvalue
    rw [if_pos (by simp; omega), show (k : Int) + 1 - ds.length
      = 0 - ↑['0'].length + ↑(k + 1 - ds.length + 1) by simp; omega]
    exact h

/-- One digit stands before the point, and the power of ten is told. -/
theorem say_scientific {c : Char} {rest : List Char} (hd : AllDigits (c :: rest))
    {power : List Char} {p : Int} (hp : exponent? power = some p) :
    Say (match rest with
      | [] => c :: 'e' :: power
      | _ => c :: '.' :: rest ++ 'e' :: power) (digitsValue (c :: rest)) (p - rest.length) := by
  have hc : AllDigits [c] := by simpa [AllDigits] using hd c List.mem_cons_self
  cases rest with
  | nil => simpa using say_power [c] hc (List.cons_ne_nil _ _) hp
  | cons c' rest =>
    have h := say_point [c] (c' :: rest) hc (List.cons_ne_nil _ _)
      (fun a ha => hd a (List.mem_cons_of_mem _ ha)) (ends_power power) (show power? _ = _ from hp)
      (show digitsValue ([c] ++ c' :: rest) = digitsValue (c :: c' :: rest) * 10 ^ 0 by simp)
    simpa using h

/-- **Digits are read as the decimal that they are.** -/
theorem Digits.say_chars {ds : Digits} (hd : AllDigits ds.digits) (hne : ds.digits ≠ []) :
    Say ds.chars (digitsValue ds.digits) (ds.exponent + 1 - ds.digits.length) := by
  obtain ⟨ds, e⟩ := ds
  rw [chars]
  split
  · have h := say_small hd ((-e).toNat - 1)
    rwa [show -(((-e).toNat - 1 : Nat) : Int) = e + 1 by omega] at h
  · split
    · have h := say_plain hd hne e.toNat
      rwa [show (e.toNat : Int) = e by omega] at h
    · match ds, hne with
      | c :: rest, _ =>
        have h := say_scientific hd (exponent?_signed e)
        rw [show e + 1 - ((c :: rest).length : Int) = e - rest.length by
          rw [List.length_cons]
          omega]
        cases rest <;> exact h

theorem Digits.head_chars {ds : Digits} (hd : AllDigits ds.digits) (hne : ds.digits ≠ []) :
    ∃ c cs, ds.chars = c :: cs ∧ c.isDigit = true := by
  obtain ⟨ds, e⟩ := ds
  match ds, hne with
  | c :: rest, _ =>
    have hc := hd c List.mem_cons_self
    rw [chars]
    split
    · exact ⟨'0', _, rfl, rfl⟩
    · split
      · exact ⟨c, _, rfl, hc⟩
      · cases rest <;> exact ⟨c, _, rfl, hc⟩

theorem head_absChars (x : Binary64) : ∃ c cs, x.absChars = c :: cs ∧ c.isDigit = true := by
  rw [absChars]
  split
  · exact ⟨'0', _, rfl, rfl⟩
  · next hm =>
    have hs := x.shortest_sound
    exact Digits.head_chars hs.digits (hs.digits_ne_nil hm)

/-- **A number is read back from its text.** -/
theorem decimal?_absChars (x : Binary64) :
    decimal? x.negative x.absChars = some (.finite x) := by
  rw [absChars]
  split
  · next hm =>
    obtain ⟨negative, m, hfin⟩ := x
    obtain rfl : m = 0 := hm
    cases negative <;> rfl
  · next hm =>
    have hs := x.shortest_sound
    obtain ⟨z, e, he, hread⟩ := Digits.say_chars hs.digits (hs.digits_ne_nil hm)
    have hback := hs.readsBack
    rw [← he, ← readsBack_mul_pow] at hback
    rw [hread, ofDecimal, ofDecimal?_eq x.negative x.finite hm hback]

/-- **A number is read back from what is written of it.** -/
theorem read?_toChars (x : Binary64) : Numeral.read? x.toChars = some (.finite x) := by
  obtain ⟨c, cs, habs, hc⟩ := x.head_absChars
  have hread : unsigned? x.negative x.absChars = some (.finite x) := by
    rw [habs, unsigned?_of_isDigit x.negative hc, ← habs, decimal?_absChars]
  rw [toChars]
  cases hn : x.negative with
  | true =>
    rw [hn] at hread
    exact hread
  | false =>
    rw [hn] at hread
    rw [if_neg Bool.false_ne_true, List.nil_append, habs, read?]
    · rw [← habs]
      exact hread
    · rintro r heq
      obtain rfl : c = '-' := (List.cons.inj heq).1
      exact absurd hc (by decide)
    · rintro r heq
      obtain rfl : c = '+' := (List.cons.inj heq).1
      exact absurd hc (by decide)

/-- **Numbers are told apart by what is written of them.** -/
theorem toChars_injective {x y : Binary64} (h : x.toChars = y.toChars) : x = y := by
  have hx := x.read?_toChars
  rw [h, y.read?_toChars] at hx
  exact (Numeral.finite.inj (Option.some.inj hx)).symm

/-! ## The characters of a number -/

/-- A character that a number is written with. -/
def isNumeric (c : Char) : Bool := c.isDigit || c == '-' || c == '+' || c == '.' || c == 'e'

theorem AllDigits.all_isNumeric {cs : List Char} (h : AllDigits cs) : cs.all isNumeric = true := by
  refine List.all_eq_true.2 fun c hc => ?_
  rw [isNumeric, h c hc]
  rfl

theorem Digits.all_isNumeric_chars {ds : Digits} (hd : AllDigits ds.digits) :
    ds.chars.all isNumeric = true := by
  obtain ⟨ds, e⟩ := ds
  have hds := hd.all_isNumeric
  have hzeros (n : Nat) := (AllDigits.replicate_zero n).all_isNumeric
  have hpower :
      ((if e < 0 then '-' else '+') :: Nat.toDigits 10 e.natAbs).all isNumeric = true := by
    rw [List.all_cons, (allDigits_toDigits _).all_isNumeric]
    split <;> rfl
  rw [chars]
  split
  · rw [List.all_append, hds, List.all_cons, List.all_cons, hzeros]
    rfl
  · split
    · simp only []
      have htake : AllDigits (ds.take (e.toNat + 1)) := fun c hc => hd c (List.mem_of_mem_take hc)
      have hdrop : AllDigits (ds.drop (e.toNat + 1)) := fun c hc => hd c (List.mem_of_mem_drop hc)
      rw [List.all_append, List.all_append, htake.all_isNumeric, hzeros, List.all_cons]
      split
      · rfl
      · rw [hdrop.all_isNumeric]
        rfl
    · simp only []
      split
      · rfl
      · rw [List.all_cons, List.all_cons, hpower, Bool.and_true]
        have he : isNumeric 'e' = true := rfl
        simpa [he] using hds
      · rw [List.all_append, List.all_cons, List.all_cons, List.all_cons, hpower]
        have he : isNumeric 'e' = true := rfl
        have hpoint : isNumeric '.' = true := rfl
        simpa [he, hpoint] using hds

/-- What tells a number of the format from an integer. -/
theorem Digits.exists_not_isDigit {ds : Digits} (hne : ds.digits ≠ []) :
    ∃ c ∈ ds.chars, c.isDigit = false := by
  obtain ⟨ds, e⟩ := ds
  rw [chars]
  split
  · exact ⟨'.', by simp, rfl⟩
  · split
    · exact ⟨'.', by simp, rfl⟩
    · match ds, hne with
      | [c], _ => exact ⟨'e', by simp, rfl⟩
      | c :: c' :: rest, _ => exact ⟨'e', by simp, rfl⟩

theorem all_isNumeric_absChars (x : Binary64) : x.absChars.all isNumeric = true := by
  rw [absChars]
  split
  · rfl
  · exact Digits.all_isNumeric_chars x.shortest_sound.digits

/-- The text of a binary number is not all digits. -/
theorem exists_not_isDigit_absChars (x : Binary64) : ∃ c ∈ x.absChars, c.isDigit = false := by
  rw [absChars]
  split
  · exact ⟨'.', by simp, rfl⟩
  · next hm => exact Digits.exists_not_isDigit (x.shortest_sound.digits_ne_nil hm)

end Binary64

end RemoteScreen
