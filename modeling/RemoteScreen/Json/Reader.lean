import RemoteScreen.Json.Source
import RemoteScreen.Number.Decimal

/-!
# Json/Reader — from text to source

The reader moves a cursor over the characters of a text.  Places count the bytes that have been
pulled from the text, one byte of lookahead included where there has been one.

A number is an integer where its digits fit 64 bits, signed or unsigned, and has neither point nor
exponent; `-0` and everything else is a number of the binary format.  Digits beyond 64 bits only
move the point.
-/

namespace RemoteScreen.Json

/-- A position in a text: the characters to come, and the place behind those already read. -/
structure Cursor where
  rest : List Char
  line : Nat
  column : Nat

namespace Cursor

/-- The place behind what has been read. -/
def place (c : Cursor) : Place := ⟨c.line, c.column⟩

/-- The place with one more byte pulled, if there is one. -/
def peekPlace (c : Cursor) : Place :=
  match c.rest with
  | [] => c.place
  | '\n' :: _ => ⟨c.line + 1, 0⟩
  | _ :: _ => ⟨c.line, c.column + 1⟩

/-- Reads one character. -/
def next (c : Cursor) : Cursor :=
  match c.rest with
  | [] => c
  | '\n' :: r => ⟨r, c.line + 1, 0⟩
  | x :: r => ⟨r, c.line, c.column + x.utf8Size⟩

/-- Reads the blanks between values. -/
def skipBlanks (c : Cursor) : Cursor := go c.rest c.line c.column
where
  /-- Reads blanks, keeping count of lines and columns. -/
  go : List Char → Nat → Nat → Cursor
    | ' ' :: r, l, k => go r l (k + 1)
    | '\t' :: r, l, k => go r l (k + 1)
    | '\r' :: r, l, k => go r l (k + 1)
    | '\n' :: r, l, _ => go r (l + 1) 0
    | r, l, k => ⟨r, l, k⟩

/-- Reads digits, which all stand on one line. -/
def takeDigits (c : Cursor) : List Char × Cursor :=
  let ds := c.rest.takeWhile Char.isDigit
  (ds, ⟨c.rest.dropWhile Char.isDigit, c.line, c.column + ds.length⟩)

end Cursor

/-- What reading a value gives: its source, and the cursor behind it unless the text cannot be
followed further. -/
abbrev Reading := Source × Option Cursor

/-- A leaf that breaks the text off for readers and for those who skip. -/
def Reading.cut (f : Fault) (place : Place) : Reading := (.broken f (some f) place, none)

/-- Reads the rest of a word that stands for a value. -/
def readWord (value : Json) : List Char → Cursor → Reading
  | [], c => (.leaf value (some c.place), some c)
  | w :: ws, c =>
    match c.rest with
    | [] => .cut .endInValue c.place
    | x :: _ => if x = w then readWord value ws c.next else .cut .expectedWord c.peekPlace

/-! ## Numbers -/

private def digitValue (c : Char) : Nat := c.toNat - '0'.toNat

/-- The digits of a number as a whole number and the power of ten that scales it. -/
structure Mantissa where
  value : Nat
  exponent : Int

namespace Mantissa

/-- Takes the digits before the point; from the first that does not fit 64 bits on, they only move
the point. -/
def ofWhole : List Char → Nat → Mantissa
  | [], v => ⟨v, 0⟩
  | c :: cs, v =>
    let w := 10 * v + digitValue c
    if w < natLimit then ofWhole cs w else ⟨v, cs.length + 1⟩

/-- Takes the digits behind the point, up to the first that does not fit 64 bits. -/
def addFraction : List Char → Mantissa → Mantissa
  | [], m => m
  | c :: cs, m =>
    let w := 10 * m.value + digitValue c
    if w < natLimit then addFraction cs ⟨w, m.exponent - 1⟩ else m

end Mantissa

/-- A number of the binary format, or the complaint that it is too large. -/
private def realReading (made : Option Binary64) (after : Cursor) : Reading :=
  match made with
  | some x => (.leaf (.num (.real x)) (some after.peekPlace), some after)
  | none => (.broken .numberTooLarge none after.peekPlace, some after)

/-- A number without point and exponent. -/
private def wholeReading (negative : Bool) (m : Mantissa) (after : Cursor) : Reading :=
  if m.exponent = 0 ∧ (¬negative ∨ 0 < m.value ∧ m.value ≤ 0x8000000000000000) then
    let i : Int := if negative then -(m.value : Int) else m.value
    (.leaf (.num (.int i)) (some after.peekPlace), some after)
  else realReading (Binary64.scaled? negative m.value m.exponent) after

/-- How many digits it takes an exponent to pass 31 bits, if it does. -/
private def exponentOverflow? : List Char → Nat → Nat → Option Nat
  | [], _, _ => none
  | c :: cs, v, taken =>
    let w := 10 * v + digitValue c
    if w < 0x80000000 then exponentOverflow? cs w (taken + 1) else some (taken + 1)

/-- Reads an exponent from its letter on. -/
private def readExponent (negative : Bool) (m : Mantissa) (c : Cursor) : Reading :=
  let c := c.next
  let (down, c) :=
    match c.rest with
    | '+' :: _ => (false, c.next)
    | '-' :: _ => (true, c.next)
    | _ => (false, c)
  match c.rest with
  | [] => (.broken .endInValue (some .badNumber) c.place, none)
  | x :: _ =>
    if x.isDigit then
      let (ds, after) := c.takeDigits
      match exponentOverflow? ds 0 0 with
      | none =>
        let e := ds.foldl (fun n d => 10 * n + digitValue d) 0
        realReading
          (Binary64.scaled? negative m.value (m.exponent + if down then -(e : Int) else e)) after
      | some taken =>
        if m.value = 0 ∨ down then realReading (some (Binary64.zero negative)) after
        else (.broken .numberTooLarge none ⟨c.line, c.column + taken⟩, some after)
    else .cut .badNumber c.peekPlace

/-- Reads what may follow the digits before the point. -/
private def readNumberTail (negative : Bool) (m : Mantissa) (c : Cursor) : Reading :=
  match c.rest with
  | '.' :: _ =>
    let (ds, after) := c.next.takeDigits
    let m := m.addFraction ds
    if ds.isEmpty then
      let read := if after.rest.isEmpty then Fault.endInValue else .badNumber
      (.broken read (some .badNumber) after.peekPlace, none)
    else
      match after.rest with
      | 'e' :: _ | 'E' :: _ => readExponent negative m after
      | _ => realReading (Binary64.scaled? negative m.value m.exponent) after
  | 'e' :: _ | 'E' :: _ => readExponent negative m c
  | _ => wholeReading negative m c

/-- Reads a number behind its sign. -/
def readNumber (negative : Bool) (c : Cursor) : Reading :=
  match c.rest with
  | [] => (.broken .endInValue (some .badNumber) c.place, none)
  | '0' :: d :: _ =>
    if d.isDigit then .cut .badNumber c.next.peekPlace
    else readNumberTail negative ⟨0, 0⟩ c.next
  | x :: _ =>
    if x.isDigit then
      let (ds, after) := c.takeDigits
      readNumberTail negative (Mantissa.ofWhole ds 0) after
    else .cut .badNumber c.peekPlace

/-! ## Strings -/

/-- A string being read: its characters so far, newest first, and the first complaint about them
that only a reader has. -/
structure Spelling where
  chars : List Char
  complaint : Option (Fault × Place)

/-- How reading a string ends. -/
inductive Spelled where
  | closed (spelling : Spelling) (after : Cursor)
  | cut (fault : Fault) (place : Place)

private def hexValue? (c : Char) : Option Nat :=
  if c.isDigit then some (c.toNat - '0'.toNat)
  else if 'a' ≤ c ∧ c ≤ 'f' then some (c.toNat - 'a'.toNat + 10)
  else if 'A' ≤ c ∧ c ≤ 'F' then some (c.toNat - 'A'.toNat + 10)
  else none

/-- Four hexadecimal digits, whose four bytes are pulled before any of them is looked at. -/
private def readHex (c : Cursor) : Except (Fault × Place) (Nat × Cursor) :=
  let four := c.rest.take 4
  match four.mapM hexValue? with
  | some [a, b, d, e] => .ok (((a * 16 + b) * 16 + d) * 16 + e, c.next.next.next.next)
  | _ =>
    let bytes := four.foldl (fun n x => n + x.utf8Size) 0
    if bytes < 4 then .error (.endInString, c.next.next.next.place)
    else .error (.badEscape, ⟨c.line, c.column + 4⟩)

/-- The character of a simple escape. -/
private def simpleEscape? : Char → Option Char
  | '"' => some '"'
  | '\\' => some '\\'
  | '/' => some '/'
  | 'b' => some '\x08'
  | 'f' => some '\x0c'
  | 'n' => some '\n'
  | 'r' => some '\r'
  | 't' => some '\t'
  | _ => none

namespace Spelling

/-- One more character. -/
def push (s : Spelling) (c : Char) : Spelling := { s with chars := c :: s.chars }

/-- A complaint, unless there has been one. -/
def complain (s : Spelling) (f : Fault) (place : Place) : Spelling :=
  match s.complaint with
  | some _ => s
  | none => { s with complaint := some (f, place) }

end Spelling

/-- Reads a code unit behind its `u`, with the second half of a pair where there is one. -/
private def readUnit (s : Spelling) (c : Cursor) : Except (Fault × Place) (Spelling × Cursor) := do
  let (n, c) ← readHex c
  if 0xDC00 ≤ n ∧ n ≤ 0xDFFF then return (s.complain .loneSurrogate c.place, c)
  if n < 0xD800 ∨ 0xDBFF < n then return (s.push (Char.ofNat n), c)
  match c.rest with
  | [] => throw (.endInString, c.place)
  | '\\' :: [] => throw (.endInString, c.next.place)
  | '\\' :: 'u' :: _ =>
    -- one who skips sees two escapes here, and both are well formed
    let (low, c) ← readHex c.next.next
    if 0xDC00 ≤ low ∧ low ≤ 0xDFFF then
      return (s.push (Char.ofNat ((n - 0xD800) * 0x400 + (low - 0xDC00) + 0x10000)), c)
    else return (s.complain .loneSurrogate c.place, c)
  | '\\' :: _ => return (s.complain .cutSurrogate c.next.peekPlace, c)
  | _ => return (s.complain .cutSurrogate c.peekPlace, c)

/-- Reads a string behind its opening quote. -/
def readString : Nat → Spelling → Cursor → Spelled
  | 0, _, c => .cut .endInString c.place
  | fuel + 1, s, c =>
    match c.rest with
    | [] => .cut .endInString c.place
    | '"' :: _ => .closed s c.next
    | '\\' :: [] => .cut .endInString c.next.place
    | '\\' :: 'u' :: _ =>
      match readUnit s c.next.next with
      | .ok (s, c) => readString fuel s c
      | .error (f, place) => .cut f place
    | '\\' :: x :: _ =>
      match simpleEscape? x with
      | some e => readString fuel (s.push e) c.next.next
      | none => .cut .badEscape c.next.peekPlace
    | x :: _ =>
      if x.toNat < 0x20 then .cut .controlCharacter c.next.place
      else readString fuel (s.push x) c.next

/-- Reads a string behind its opening quote, its characters in order. -/
def spell (c : Cursor) : Spelled := readString (c.rest.length + 1) ⟨[], none⟩ c

/-- The text of a string that was read. -/
def Spelling.text (s : Spelling) : String := String.ofList s.chars.reverse

/-- A string value behind its opening quote. -/
private def readStringValue (c : Cursor) : Reading :=
  match spell c with
  | .cut f place => .cut f place
  | .closed s after =>
    match s.complaint with
    | none => (.leaf (.str s.text) (some after.place), some after)
    | some (f, place) => (.broken f none place, some after)

/-! ## Values -/

/-- Lists and objects deeper than this are not followed. -/
def depthLimit : Nat := 128

mutual

/-- Reads a value that stands inside `depth` lists and objects. -/
def readValue (fuel depth : Nat) (c : Cursor) : Reading :=
  match fuel with
  | 0 => .cut .tooDeep c.place
  | fuel + 1 =>
    match c.rest with
    | [] => .cut .endInValue c.place
    | 'n' :: _ => readWord .null ['u', 'l', 'l'] c.next
    | 't' :: _ => readWord (.bool true) ['r', 'u', 'e'] c.next
    | 'f' :: _ => readWord (.bool false) ['a', 'l', 's', 'e'] c.next
    | '-' :: _ => readNumber true c.next
    | '"' :: _ => readStringValue c.next
    | '[' :: _ =>
      let opened := c.next.place
      let (items, closed, after) := readItems fuel (depth + 1) true c.next.skipBlanks
      (.list items (some opened) (some closed) (depthLimit ≤ depth + 1), after)
    | '\x7b' :: _ =>
      let opened := c.next.place
      let (members, closed, after) := readMembers fuel (depth + 1) true c.next.skipBlanks
      (.object members (some opened) (some closed) (depthLimit ≤ depth + 1), after)
    | x :: _ => if x.isDigit then readNumber false c else .cut .expectedValue c.peekPlace

/-- Reads the items of a list up to its bracket, from the first one or from a comma on. -/
def readItems (fuel depth : Nat) (first : Bool) (c : Cursor) :
    List (Option Place × Source) × Place × Option Cursor :=
  let stop (read skip : Fault) (c : Cursor) :
      List (Option Place × Source) × Place × Option Cursor :=
    ([(some c.peekPlace, .broken read (some skip) c.peekPlace)], c.peekPlace, none)
  match fuel with
  | 0 => stop .tooDeep .tooDeep c
  | fuel + 1 =>
    let item (c : Cursor) : List (Option Place × Source) × Place × Option Cursor :=
      let (source, after) := readValue fuel depth c
      match after with
      | none => ([(some c.peekPlace, source)], c.peekPlace, none)
      | some after =>
        let (items, closed, after) := readItems fuel depth false after.skipBlanks
        ((some c.peekPlace, source) :: items, closed, after)
    match c.rest with
    | [] => stop .endInList .endInList c
    | ']' :: _ => ([], c.next.place, some c.next)
    | ',' :: _ =>
      if first then item c
      else
        let c := c.next.skipBlanks
        match c.rest with
        | ']' :: _ => stop .trailingComma .expectedValue c
        | [] => stop .endInValue .endInValue c
        | _ => item c
    | _ => if first then item c else stop .expectedListEnd .expectedListEnd c

/-- Reads the members of an object up to its brace, from the first one or from a comma on. -/
def readMembers (fuel depth : Nat) (first : Bool) (c : Cursor) :
    List (String × Option Place × Source) × Place × Option Cursor :=
  let stop (read skip : Fault) (c : Cursor) :
      List (String × Option Place × Source) × Place × Option Cursor :=
    ([("", none, .broken read (some skip) c.peekPlace)], c.peekPlace, none)
  match fuel with
  | 0 => stop .tooDeep .tooDeep c
  | fuel + 1 =>
    let member (c : Cursor) : List (String × Option Place × Source) × Place × Option Cursor :=
      match spell c.next with
      | .cut f place => ([("", none, .broken f (some f) place)], place, none)
      | .closed s after =>
        let c := after.skipBlanks
        let reached := some c.peekPlace
        let (source, after) :=
          match c.rest with
          | ':' :: _ => readValue fuel depth c.next.skipBlanks
          | [] => .cut .endInObject c.place
          | _ => .cut .expectedColon c.peekPlace
        let complaints :=
          match s.complaint with
          | none => []
          | some (f, place) => [("", none, .broken f none place)]
        match after with
        | none => (complaints ++ [(s.text, reached, source)], c.peekPlace, none)
        | some after =>
          let (members, closed, after) := readMembers fuel depth false after.skipBlanks
          (complaints ++ (s.text, reached, source) :: members, closed, after)
    match c.rest with
    | [] => stop .endInObject .endInObject c
    | '\x7d' :: _ => ([], c.next.place, some c.next)
    | ',' :: _ =>
      if first then stop .keyNotString .keyNotString c
      else
        let c := c.next.skipBlanks
        match c.rest with
        | '"' :: _ => member c
        | '\x7d' :: _ => stop .trailingComma .keyNotString c
        | [] => stop .endInValue .endInObject c
        | _ => stop .keyNotString .keyNotString c
    | '"' :: _ => if first then member c else stop .expectedObjectEnd .expectedObjectEnd c
    | _ => if first then stop .keyNotString .keyNotString c
           else stop .expectedObjectEnd .expectedObjectEnd c

end

/-- The source of a text, and the place of the first character too many behind its value. -/
def Source.ofText (text : String) : Source × Option Place :=
  let c := Cursor.skipBlanks ⟨text.toList, 1, 0⟩
  let (source, after) := readValue (2 * text.length + 4) 0 c
  match after with
  | none => (source, none)
  | some after =>
    let c := after.skipBlanks
    (source, if c.rest.isEmpty then none else some c.peekPlace)

end RemoteScreen.Json
