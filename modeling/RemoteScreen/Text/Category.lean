import RemoteScreen.Text.CategoryTable

/-!
# Text/Category — kinds of characters

Every code point has one general category, looked up in the runs of `Category.runs`.  The other
properties are stated in terms of the category and a few ranges.
-/

namespace RemoteScreen

/-- The general category of a code point. -/
inductive Category where
  | upper | lower | title | modifier | otherLetter
  | nonspacing | spacing | enclosing
  | digit | letterNumber | otherNumber
  | connector | dash | opening | closing | initialQuote | finalQuote | otherPunctuation
  | mathSymbol | currency | modifierSymbol | otherSymbol
  | space | lineSeparator | paragraphSeparator
  | control | format | surrogate | privateUse | unassigned
  deriving DecidableEq, Repr, Inhabited

namespace Category

/-- All categories, in the order of the letters of the table. -/
def all : List Category :=
  [upper, lower, title, modifier, otherLetter, nonspacing, spacing, enclosing, digit, letterNumber,
   otherNumber, connector, dash, opening, closing, initialQuote, finalQuote, otherPunctuation,
   mathSymbol, currency, modifierSymbol, otherSymbol, space, lineSeparator, paragraphSeparator,
   control, format, surrogate, privateUse, unassigned]

/-- The category a letter of the table stands for: `a` to `z`, then `A` to `D`. -/
def ofLetter? (c : Char) : Option Category :=
  if 'a' ≤ c ∧ c ≤ 'z' then all[c.toNat - 'a'.toNat]?
  else if 'A' ≤ c ∧ c ≤ 'D' then all[26 + (c.toNat - 'A'.toNat)]?
  else none

/-- Unfolds runs into their first code points; `start` is where the run being read begins, `length`
what has been read of its length. -/
private def unfoldRuns : List Char → Nat → Option Category → Nat →
    Array (Nat × Category) → Array (Nat × Category)
  | [], start, current, _, acc =>
    match current with
    | some c => acc.push (start, c)
    | none => acc
  | x :: xs, start, current, length, acc =>
    if x.isDigit then unfoldRuns xs start current (10 * length + (x.toNat - '0'.toNat)) acc
    else
      match current with
      | some c => unfoldRuns xs (start + if length = 0 then 1 else length) (ofLetter? x) 0
          (acc.push (start, c))
      | none => unfoldRuns xs start (ofLetter? x) 0 acc

/-- The first code point of each run, with its category. -/
def table : Array (Nat × Category) := unfoldRuns runs.toList 0 none 0 #[]

end Category

/-- The entry of the last key at most `n` between two indices of an array sorted by key, by halving
as often as the first argument allows. -/
def lastAtMost {α : Type} (a : Array (Nat × α)) (n : Nat) : Nat → Nat → Nat → Option α
  | 0, low, _ => a[low]?.map (·.2)
  | fuel + 1, low, high =>
    if high ≤ low + 1 then a[low]?.map (·.2)
    else
      let middle := (low + high) / 2
      match a[middle]? with
      | some (k, _) =>
        if k ≤ n then lastAtMost a n fuel middle high else lastAtMost a n fuel low middle
      | none => none

/-- The general category of a code point. -/
def Category.of (c : Char) : Category :=
  (lastAtMost Category.table c.toNat 21 0 Category.table.size).getD .unassigned

/-- The code point lies in one of the ranges. -/
def inRanges (ranges : List (Nat × Nat)) (c : Char) : Bool :=
  ranges.any fun r => r.1 ≤ c.toNat && c.toNat ≤ r.2

namespace Text

/-- A mark, which belongs to the character before it. -/
def isMark (c : Char) : Bool :=
  match Category.of c with
  | .nonspacing | .spacing | .enclosing => true
  | _ => false

/-- A decimal digit of any script. -/
def isDigit (c : Char) : Bool := Category.of c == .digit

private def circledLetters : List (Nat × Nat) :=
  [(0x24B6, 0x24E9), (0x1F130, 0x1F149), (0x1F150, 0x1F169), (0x1F170, 0x1F189)]

/-- A character of a word: a letter, digit, mark or connector, a number or symbol made of letters,
or one of the two joiners. -/
def isWord (c : Char) : Bool :=
  match Category.of c with
  | .upper | .lower | .title | .modifier | .otherLetter | .nonspacing | .spacing | .enclosing
  | .digit | .letterNumber | .connector => true
  | .otherSymbol => inRanges circledLetters c
  | .format => c.toNat == 0x200C || c.toNat == 0x200D
  | _ => false

private def lowerBeyond : List (Nat × Nat) :=
  [(0xAA, 0xAA), (0xBA, 0xBA), (0x2B0, 0x2B8), (0x2C0, 0x2C1), (0x2E0, 0x2E4), (0x345, 0x345),
   (0x37A, 0x37A), (0x10FC, 0x10FC), (0x1D2C, 0x1D6A), (0x1D78, 0x1D78), (0x1D9B, 0x1DBF),
   (0x2071, 0x2071), (0x207F, 0x207F), (0x2090, 0x209C), (0x2170, 0x217F), (0x24D0, 0x24E9),
   (0x2C7C, 0x2C7D), (0xA69C, 0xA69D), (0xA770, 0xA770), (0xA7F2, 0xA7F4), (0xA7F8, 0xA7F9),
   (0xAB5C, 0xAB5F), (0xAB69, 0xAB69), (0x10780, 0x10780), (0x10783, 0x10785), (0x10787, 0x107B0),
   (0x107B2, 0x107BA), (0x1E030, 0x1E06D)]

/-- A lower-case character: a lower-case letter or one of its variants in form. -/
def isLower (c : Char) : Bool := Category.of c == .lower || inRanges lowerBeyond c

private def upperBeyond : List (Nat × Nat) :=
  [(0x2160, 0x216F), (0x24B6, 0x24CF), (0x1F130, 0x1F149), (0x1F150, 0x1F169), (0x1F170, 0x1F189)]

/-- An upper-case character: an upper-case letter or one of its variants in form. -/
def isUpper (c : Char) : Bool := Category.of c == .upper || inRanges upperBeyond c

private def spacingExtenders : List (Nat × Nat) :=
  [(0x9BE, 0x9BE), (0x9D7, 0x9D7), (0xB3E, 0xB3E), (0xB57, 0xB57), (0xBBE, 0xBBE), (0xBD7, 0xBD7),
   (0xCC0, 0xCC0), (0xCC2, 0xCC2), (0xCC7, 0xCC8), (0xCCA, 0xCCB), (0xCD5, 0xCD6), (0xD3E, 0xD3E),
   (0xD57, 0xD57), (0xDCF, 0xDCF), (0xDDF, 0xDDF), (0x1715, 0x1715), (0x1734, 0x1734),
   (0x1B35, 0x1B35), (0x1B3B, 0x1B3B), (0x1B3D, 0x1B3D), (0x1B43, 0x1B44), (0x1BAA, 0x1BAA),
   (0x1BF2, 0x1BF3), (0x200C, 0x200C), (0x302E, 0x302F), (0xA953, 0xA953), (0xA9C0, 0xA9C0),
   (0xFF9E, 0xFF9F), (0x111C0, 0x111C0), (0x11235, 0x11235), (0x1133E, 0x1133E),
   (0x1134D, 0x1134D), (0x11357, 0x11357), (0x113B8, 0x113B8), (0x113C2, 0x113C2),
   (0x113C5, 0x113C5), (0x113C7, 0x113C9), (0x113CF, 0x113CF), (0x114B0, 0x114B0),
   (0x114BD, 0x114BD), (0x115AF, 0x115AF), (0x116B6, 0x116B6), (0x11930, 0x11930),
   (0x1193D, 0x1193D), (0x11F41, 0x11F41), (0x16FF0, 0x16FF1), (0x1D165, 0x1D166),
   (0x1D16D, 0x1D172), (0xE0020, 0xE007F)]

/-- A character that extends the one before it rather than standing on its own. -/
def isExtender (c : Char) : Bool :=
  match Category.of c with
  | .nonspacing | .enclosing => true
  | _ => inRanges spacingExtenders c

/-- A character that leaves a visible trace, or the plain blank. -/
def isPrintable (c : Char) : Bool :=
  match Category.of c with
  | .control | .format | .surrogate | .privateUse | .unassigned
  | .lineSeparator | .paragraphSeparator => false
  | .space => c == ' '
  | _ => true

end Text

end RemoteScreen
