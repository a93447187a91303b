/-!
# Number/Binary64 — finite numbers of the 64-bit binary format

A number is a sign and a **magnitude**: the remaining 63 bits read as a natural number.  Magnitudes
grow with the absolute value, so equality and order of values are those of the signed magnitude
(`key`), with the two zeros sharing the key `0`.

Arithmetic goes through one function, `ofRatio`, which rounds an exact quotient to the nearest
number, ties to the even magnitude; every operation is exact up to that one rounding.
-/

namespace RemoteScreen

/-- A finite number of the 64-bit binary format. -/
structure Binary64 where
  negative : Bool
  /-- The bits below the sign, as a number; those of an infinity are `infinite`. -/
  magnitude : Nat
  finite : magnitude < 0x7FF0000000000000
  deriving DecidableEq

namespace Binary64

/-- The magnitude at which finite numbers end. -/
def infinite : Nat := 0x7FF0000000000000

/-- Position of a value on the line of magnitudes; both zeros stand at `0`. -/
def key (x : Binary64) : Int := if x.negative then -(x.magnitude : Int) else x.magnitude

/-- Two numbers have one value: equal as numbers, so `0.0` and `-0.0` agree. -/
def sameValue (x y : Binary64) : Bool := x.key == y.key

/-- The zero of a sign. -/
def zero (negative : Bool) : Binary64 := ⟨negative, 0, by decide⟩

instance : Inhabited Binary64 := ⟨zero false⟩

/-- The significand, with its leading bit where the number is normal. -/
def significand (x : Binary64) : Nat :=
  if x.magnitude < 0x10000000000000 then x.magnitude
  else 0x10000000000000 + x.magnitude % 0x10000000000000

/-- The power of two that scales the significand, above the least one. -/
def scale (x : Binary64) : Nat :=
  if x.magnitude < 0x10000000000000 then 0 else x.magnitude / 0x10000000000000 - 1

/-- The absolute value as a quotient of naturals, `significand · 2 ^ (scale - 1074)`. -/
def ratio (x : Binary64) : Nat × Nat :=
  if 1074 ≤ x.scale then (x.significand <<< (x.scale - 1074), 1)
  else (x.significand, 1 <<< (1074 - x.scale))

/-- The quotient rounded to the nearest integer, ties to the even one. -/
def roundDiv (n d : Nat) : Nat :=
  let q := n / d
  let twice := 2 * (n % d)
  if twice < d then q else if d < twice then q + 1 else q + q % 2

/-- The magnitude nearest to `n / d` at the given scale: `n / d · 2 ^ (1074 - scale)` rounded, on
top of the magnitudes that the scale passes. -/
def magnitudeAt (n d scale : Nat) : Nat :=
  let q := if scale ≤ 1074 then roundDiv (n <<< (1074 - scale)) d
    else roundDiv n (d <<< (scale - 1074))
  scale * 0x10000000000000 + q

/-- `n / d` has at most 53 significant bits at the given scale. -/
def fits (n d scale : Nat) : Bool :=
  if scale ≤ 1074 then n <<< (1074 - scale) < d <<< 53
  else n < d <<< (scale - 1074) <<< 53

/-- The least scale at which `n / d` has at most 53 significant bits. -/
def scaleOf (n d : Nat) : Nat :=
  -- `n / d` lies between `2 ^ (guess - 1)` and `2 ^ (guess + 1)`
  let guess : Int := (n.log2 : Int) - (d.log2 : Int)
  let s := guess + 1022 - 1
  let low := s.toNat
  if fits n d low then low else if fits n d (low + 1) then low + 1 else low + 2

/-- The magnitude nearest to `n / d`, which may pass the finite ones. -/
def magnitudeOfRatio (n d : Nat) : Nat :=
  if n = 0 then 0 else magnitudeAt n d (scaleOf n d)

/-- The number nearest to `n / d`, ties to even; none when it rounds to an infinity. -/
def ofRatio? (negative : Bool) (n d : Nat) : Option Binary64 :=
  let m := magnitudeOfRatio n d
  if h : m < 0x7FF0000000000000 then some ⟨negative, m, h⟩ else none

/-- The number nearest to an integer. -/
def ofInt? (i : Int) : Option Binary64 := ofRatio? (i < 0) i.natAbs 1

/-- The sum of two signed quotients, as a sign and a quotient. -/
private def addRatio (sx sy : Bool) (x y : Nat × Nat) : Bool × Nat × Nat :=
  let a : Int := (x.1 * y.2 : Nat)
  let b : Int := (y.1 * x.2 : Nat)
  let total := (if sx then -a else a) + (if sy then -b else b)
  (total < 0, total.natAbs, x.2 * y.2)

/-- Addition; none when the sum is beyond the finite numbers. -/
def add? (x y : Binary64) : Option Binary64 :=
  let (s, n, d) := addRatio x.negative y.negative x.ratio y.ratio
  if n = 0 then some (zero (x.negative && y.negative)) else ofRatio? s n d

/-- Multiplication; none when the product is beyond the finite numbers. -/
def mul? (x y : Binary64) : Option Binary64 :=
  let (a, b) := (x.ratio, y.ratio)
  ofRatio? (x.negative != y.negative) (a.1 * b.1) (a.2 * b.2)

/-- Division by a number other than zero; none when the quotient is beyond the finite numbers. -/
def div? (x y : Binary64) : Option Binary64 :=
  let (a, b) := (x.ratio, y.ratio)
  if b.1 = 0 then none else ofRatio? (x.negative != y.negative) (a.1 * b.2) (a.2 * b.1)

/-- The number with the other sign. -/
def neg (x : Binary64) : Binary64 := { x with negative := !x.negative }

@[simp] theorem sameValue_self (x : Binary64) : x.sameValue x = true := by simp [sameValue]

end Binary64

end RemoteScreen
