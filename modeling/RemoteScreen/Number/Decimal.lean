import RemoteScreen.Number.Binary64

/-!
# Number/Decimal — decimals on the way in and out of the binary format

Reading rounds twice where a written number passes nine quintillion or has a fraction: `scaled?`
first takes the digits as a number of the format and then scales it by a power of ten.  A numeral
in running text is instead rounded once (`Numeral.read?`).

Writing takes the **fewest digits that read back**: `shortest` looks on the grids of one, two, three
… digits for a neighbour of the value that rounds to it, and of two neighbours on the first such
grid takes the nearer one, a tie going to the even digit.  The finest grid has the value itself.
-/

namespace RemoteScreen

namespace Binary64

/-- The number nearest to a power of ten; none beyond `10 ^ 308`. -/
def powerOfTen? (k : Nat) : Option Binary64 := ofRatio? false (Nat.pow 10 k) 1

/-- The largest exponent of a power of ten among the numbers. -/
def largestPower : Nat := 308

/-- A number divided so many times by the largest power of ten, or until it is zero. -/
def divLargest? : Nat → Binary64 → Option Binary64
  | 0, x => some x
  | times + 1, x =>
    if x.magnitude = 0 then some x
    else powerOfTen? largestPower >>= x.div? >>= divLargest? times

/-- A number scaled by a power of ten, a very small one in steps of the largest; none when the
result is beyond the finite numbers. -/
def scaleTen? (x : Binary64) (exponent : Int) : Option Binary64 :=
  if x.magnitude = 0 then some x
  else if exponent < 0 then do
    let down := (-exponent).toNat
    let times := (down - 1) / largestPower
    let y ← divLargest? times x
    if y.magnitude = 0 then some y else powerOfTen? (down - largestPower * times) >>= y.div?
  else if exponent.toNat ≤ largestPower then powerOfTen? exponent.toNat >>= x.mul?
  else none

/-- `significand · 10 ^ exponent` in two roundings: the significand, then its scaling. -/
def scaled? (negative : Bool) (significand : Nat) (exponent : Int) : Option Binary64 := do
  let whole ← ofRatio? false significand 1
  let x ← scaleTen? whole exponent
  return if negative then x.neg else x

/-- How many digits a number has in base ten, none for zero. -/
def digitCount (n : Nat) : Nat := if n = 0 then 0 else (Nat.toDigits 10 n).length

/-- `coefficient · 10 ^ exponent` in one rounding; none when it is beyond the finite numbers. -/
def ofDecimal? (negative : Bool) (coefficient : Nat) (exponent : Int) : Option Binary64 :=
  let top := exponent + digitCount coefficient
  if coefficient = 0 ∨ top < -330 then some (zero negative)
  else if 310 < top then none
  else if 0 ≤ exponent then ofRatio? negative (coefficient * Nat.pow 10 exponent.toNat) 1
  else ofRatio? negative coefficient (Nat.pow 10 (-exponent).toNat)

/-- A positive decimal: digits without a zero at either end, the first of them before the point,
and the power of ten that moves the point. -/
structure Digits where
  digits : List Char
  exponent : Int
  deriving DecidableEq, Repr

/-- The power of ten of the leading digit of `n / d`. -/
def leadingExponent (n d : Nat) : Int :=
  if d ≤ n then (digitCount (n / d) : Int) - 1 else -(digitCount ((d + n - 1) / n - 1) : Int)

/-- `n / d` divided by a power of ten, as a quotient. -/
def unscale (n d : Nat) (exponent : Int) : Nat × Nat :=
  if 0 ≤ exponent then (n, d * Nat.pow 10 exponent.toNat)
  else (n * Nat.pow 10 (-exponent).toNat, d)

/-- `c · 10 ^ exponent` rounds to the given magnitude. -/
def readsBack (magnitude c : Nat) (exponent : Int) : Bool :=
  if 0 ≤ exponent then magnitudeOfRatio (c * Nat.pow 10 exponent.toNat) 1 == magnitude
  else magnitudeOfRatio c (Nat.pow 10 (-exponent).toNat) == magnitude

/-- The neighbour of `n / d` on the grid of the given power of ten that reads back, if one does. -/
def onGrid? (magnitude n d : Nat) (exponent : Int) : Option Nat :=
  let (n, d) := unscale n d exponent
  let low := n / d
  let nearer := roundDiv n d
  let other := if nearer = low then low + 1 else low
  if readsBack magnitude nearer exponent then some nearer
  else if readsBack magnitude other exponent then some other
  else none

/-- The first grid, from coarse to fine, on which a neighbour of `n / d` reads back. -/
def firstGrid (magnitude n d : Nat) (exponent : Int) : Nat → Nat × Int
  | 0 => (roundDiv (unscale n d exponent).1 (unscale n d exponent).2, exponent)
  | grids + 1 =>
    match onGrid? magnitude n d exponent with
    | some c => (c, exponent)
    | none => firstGrid magnitude n d (exponent - 1) grids

/-- The power of ten of the finest grid, on which every number stands. -/
def finestExponent : Int := -1074

/-- The fewest digits that read back as the absolute value of a number other than zero. -/
def shortest (x : Binary64) : Digits :=
  let (n, d) := x.ratio
  let top := leadingExponent n d
  let (c, e) := firstGrid x.magnitude n d top (top - finestExponent).toNat
  let all := Nat.toDigits 10 c
  ⟨all.reverse.dropWhile (· == '0') |>.reverse, e + (all.length : Int) - 1⟩

/-- How digits are written: plain while the leading one stands for `10 ^ -5` to `10 ^ 15`, with a
point always, and otherwise with an explicit power of ten. -/
def Digits.chars : Digits → List Char
  | ⟨ds, e⟩ =>
    if -5 ≤ e ∧ e < 0 then '0' :: '.' :: List.replicate ((-e).toNat - 1) '0' ++ ds
    else if 0 ≤ e ∧ e ≤ 15 then
      let whole := e.toNat + 1
      let zeros := List.replicate (whole - ds.length) '0'
      let fraction := ds.drop whole
      ds.take whole ++ zeros ++ '.' :: (if fraction.isEmpty then ['0'] else fraction)
    else
      let power := (if e < 0 then '-' else '+') :: Nat.toDigits 10 e.natAbs
      match ds with
      | [] => []
      | [c] => c :: 'e' :: power
      | c :: rest => c :: '.' :: rest ++ 'e' :: power

/-- The absolute value of a number, written. -/
def absChars (x : Binary64) : List Char :=
  if x.magnitude = 0 then ['0', '.', '0'] else x.shortest.chars

/-- How a number is written. -/
def toChars (x : Binary64) : List Char := (if x.negative then ['-'] else []) ++ x.absChars

end Binary64

/-- What a numeral in running text can stand for. -/
inductive Numeral where
  | undefined
  | infinite (negative : Bool)
  | finite (x : Binary64)
  deriving DecidableEq

namespace Numeral

/-- Position on the line of magnitudes, where the infinities bound the finite numbers. -/
def key? : Numeral → Option Int
  | undefined => none
  | infinite true => some (-(Binary64.infinite : Int))
  | infinite false => some Binary64.infinite
  | finite x => some x.key

/-- The order of two values; none if one of them is undefined. -/
def compare? (x y : Numeral) : Option Ordering := do return compare (← x.key?) (← y.key?)

def digitsValue (cs : List Char) : Nat :=
  cs.foldl (fun n c => 10 * n + (c.toNat - '0'.toNat)) 0

/-- The exponent part after its letter: an optional sign and at least one digit. -/
def exponent? (cs : List Char) : Option Int :=
  let (negative, ds) :=
    match cs with
    | '-' :: r => (true, r)
    | '+' :: r => (false, r)
    | r => (false, r)
  if ds.isEmpty || !ds.all Char.isDigit then none
  else some (if negative then -(digitsValue ds : Int) else digitsValue ds)

/-- The power of ten at the end of a numeral, zero if there is none. -/
def power? : List Char → Option Int
  | [] => some 0
  | 'e' :: r | 'E' :: r => exponent? r
  | _ => none

/-- The numeral of a decimal. -/
def ofDecimal (negative : Bool) (coefficient : Nat) (exponent : Int) : Numeral :=
  match Binary64.ofDecimal? negative coefficient exponent with
  | some x => .finite x
  | none => .infinite negative

/-- The digits before the point, those behind it, and the rest. -/
def splitDigits (cs : List Char) : List Char × List Char × List Char :=
  match cs.dropWhile Char.isDigit with
  | '.' :: r => (cs.takeWhile Char.isDigit, r.takeWhile Char.isDigit, r.dropWhile Char.isDigit)
  | r => (cs.takeWhile Char.isDigit, [], r)

/-- A numeral in digits, without its sign. -/
def decimal? (negative : Bool) (cs : List Char) : Option Numeral :=
  let (whole, fraction, rest) := splitDigits cs
  if whole.isEmpty && fraction.isEmpty then none
  else (power? rest).map fun e =>
    ofDecimal negative (digitsValue (whole ++ fraction)) (e - fraction.length)

/-- A numeral without its sign. -/
def unsigned? (negative : Bool) (cs : List Char) : Option Numeral :=
  let word := String.ofList (cs.map Char.toLower)
  if word == "inf" || word == "infinity" then some (.infinite negative)
  else if word == "nan" then some .undefined
  else decimal? negative cs

/-- Reads a numeral: an optional sign, then a word for an infinity or for no number, or digits with
an optional point and exponent.  Digits may be missing on one side of the point. -/
def read? (cs : List Char) : Option Numeral :=
  match cs with
  | '-' :: r => unsigned? true r
  | '+' :: r => unsigned? false r
  | r => unsigned? false r

end Numeral

end RemoteScreen
