import RemoteScreen.Pattern.Regex

/-!
# Pattern/Parser — the pattern language

Patterns are read from left to right, with one parser for what stands between bars and parentheses
(`readBranches`) and one for what stands between brackets (`readClass`).  Flags hold from where they
are set to the end of their group.

Every part is read together with how deeply it is nested, which is limited.
-/

namespace RemoteScreen

namespace Pattern

/-- The flags of a pattern. -/
structure Flags where
  caseless : Bool := false
  /-- The line conditions hold at every line, not just at the ends of the text. -/
  multiLine : Bool := false
  /-- The point stands for a line end too. -/
  dotAll : Bool := false
  /-- Lines end with a return and a newline. -/
  returns : Bool := false
  /-- Classes are those of all characters, not just of the basic ones. -/
  allScripts : Bool := true
  /-- Blanks and remarks in the pattern do not count. -/
  verbose : Bool := false

/-- What is left of a pattern, under which flags, and the names given to groups so far. -/
structure Input where
  rest : List Char
  flags : Flags := {}
  names : List (List Char) := []

namespace Input

/-- Skips blanks and remarks. -/
private def skipRemarks : List Char → Bool → List Char
  | [], _ => []
  | c :: cs, true => skipRemarks cs (c != '\n')
  | c :: cs, false =>
    if Text.isBlank c then skipRemarks cs false
    else if c = '#' then skipRemarks cs true
    else c :: cs

/-- Skips what does not count, if the flags say so. -/
def skip (i : Input) : Input :=
  if i.flags.verbose then { i with rest := skipRemarks i.rest false } else i

/-- Goes on with other characters. -/
def goto (i : Input) (rest : List Char) : Input := { i with rest }

/-- Reads one character and skips what does not count behind it. -/
def bump (i : Input) : Input := (i.goto (i.rest.drop 1)).skip

end Input

/-- A part of an expression, and how deeply it is nested. -/
structure Part where
  regex : Regex
  depth : Nat

/-- An element of a sequence: a part, or a mere change of flags, which cannot be repeated. -/
inductive Element where
  | part (p : Part)
  | flags

/-- Nesting deeper than this is refused. -/
def depthLimit : Nat := 250

/-- The sequence of the elements read, newest first. -/
def sequence (elements : List Element) : Part :=
  let parts := elements.reverse.filterMap fun
    | .part p => some p
    | .flags => none
  let regex :=
    match parts with
    | [] => Regex.empty
    | p :: ps => ps.foldl (fun r q => .cat r q.regex) p.regex
  let inner := parts.foldl (fun d p => max d p.depth) 0
  ⟨regex, if elements.length ≤ 1 then inner else inner + 1⟩

/-- The choice between branches, newest first. -/
def choice (branches : List Part) : Part :=
  match branches.reverse with
  | [] => ⟨.empty, 0⟩
  | [p] => p
  | p :: ps =>
    ⟨ps.foldl (fun r q => .alt r q.regex) p.regex, ps.foldl (fun d q => max d q.depth) p.depth + 1⟩

/-! ## Sets and conditions under flags -/

/-- A set with the variants of its members, if case does not count. -/
def Flags.fold (f : Flags) (s : CharSet) : CharSet := if f.caseless then .uncased s else s

/-- A set or its complement, which reaches beyond the basic characters only where all scripts
count. -/
def Flags.negate? (f : Flags) (negated : Bool) (s : CharSet) : Option CharSet :=
  if negated then (if f.allScripts then some (.compl s) else none) else some s

/-- The set of a one-letter class. -/
def Flags.letterClass? (f : Flags) (c : Char) : Option CharSet :=
  let named (p : CharProperty) (basic : String) : Option CharSet :=
    if f.allScripts then some (.property p) else CharSet.basic? basic
  match c with
  | 'd' => named .digit "digit"
  | 's' => if f.allScripts then some (.property .blank)
           else some (.union (.range '\t' '\r') (.single ' '))
  | 'w' => named .word "word"
  | 'D' => named .digit "digit" >>= f.negate? true
  | 'S' => if f.allScripts then some (.compl (.property .blank)) else none
  | 'W' => named .word "word" >>= f.negate? true
  | _ => none

/-- What the point stands for. -/
def Flags.point? (f : Flags) : Option CharSet :=
  if !f.allScripts then none
  else if f.dotAll then some (.property .any)
  else if f.returns then some (.compl (.union (.single '\r') (.single '\n')))
  else some (.compl (.single '\n'))

/-- The condition of the sign for the start of a line. -/
def Flags.lineStart (f : Flags) : Look :=
  if !f.multiLine then .textStart else if f.returns then .returnLineStart else .lineStart

/-- The condition of the sign for the end of a line. -/
def Flags.lineEnd (f : Flags) : Look :=
  if !f.multiLine then .textEnd else if f.returns then .returnLineEnd else .lineEnd

/-! ## Escapes and single characters -/

/-- What one escape or character stands for. -/
inductive Primitive where
  /-- A character; `byte` if it was written by its number in the short form. -/
  | literal (c : Char) (byte : Bool)
  | set (s : CharSet)
  | look (l : Look)
  | point

private def hexValue? (c : Char) : Option Nat :=
  if c.isDigit then some (c.toNat - '0'.toNat)
  else if 'a' ≤ c ∧ c ≤ 'f' then some (c.toNat - 'a'.toNat + 10)
  else if 'A' ≤ c ∧ c ≤ 'F' then some (c.toNat - 'A'.toNat + 10)
  else none

/-- The character of a number, if there is one. -/
private def charOf? (n : Nat) : Option Char := if n.isValidChar then some (Char.ofNat n) else none

/-- Reads so many hexadecimal digits. -/
private def readHexDigits : Nat → Nat → Input → Option (Char × Input)
  | 0, value, i => (charOf? value).map (·, i)
  | n + 1, value, i =>
    match i.rest with
    | c :: _ => hexValue? c >>= fun d => readHexDigits n (value * 16 + d) i.bump
    | [] => none

/-- Reads hexadecimal digits up to a brace. -/
private def readHexBraces (fuel : Nat) (digits value : Nat) (i : Input) :
    Option (Char × Input) :=
  match fuel, i.rest with
  | fuel + 1, c :: _ =>
    if c = '\x7d' then (if digits = 0 then none else (charOf? value).map (·, i.bump))
    else hexValue? c >>= fun d =>
      readHexBraces fuel (digits + 1) (min (value * 16 + d) 0x100000000) i.bump
  | _, _ => none

/-- Reads a number in hexadecimal digits behind its letter. -/
private def readHex (letter : Char) (i : Input) : Option (Char × Input) :=
  match i.rest with
  | '\x7b' :: _ => let i := i.bump; readHexBraces (i.rest.length + 1) 0 0 i
  | _ => readHexDigits (if letter = 'x' then 2 else if letter = 'u' then 4 else 8) 0 i

/-- Reads the characters up to a brace. -/
private def readBraced (fuel : Nat) (chars : List Char) (i : Input) : Option (List Char × Input) :=
  match fuel, i.rest with
  | fuel + 1, c :: _ =>
    if c = '\x7d' then some (chars.reverse, i.goto (i.rest.drop 1))
    else readBraced fuel (c :: chars) i.bump
  | _, _ => none

/-- Cuts a list at the first place where a separator stands. -/
private def cutAt? (separator : List Char) : List Char → Option (List Char × List Char)
  | [] => none
  | c :: cs =>
    if separator.isPrefixOf (c :: cs) then some ([], (c :: cs).drop separator.length)
    else (cutAt? separator cs).map fun (a, b) => (c :: a, b)

/-- Reads a class by its property, behind the letter. -/
private def readProperty (negated : Bool) (i : Input) : Option (CharSet × Input) := do
  let f := i.flags
  if !f.allScripts then none
  let make (p : CharProperty) (negated : Bool) : Option CharSet :=
    f.negate? negated (f.fold (.property p))
  match i.rest with
  | '\x7b' :: _ =>
    let i := i.bump
    let (name, i) ← readBraced (i.rest.length + 1) [] i
    let cut := ((cutAt? ['!', '='] name).map (true, ·))
      <|> ((cutAt? [':'] name).map (false, ·)) <|> ((cutAt? ['='] name).map (false, ·))
    match cut with
    | some (unequal, n, v) =>
      let p ← CharProperty.ofNameValue? n v
      return (← make p (negated != unequal), i)
    | none => return (← make (← CharProperty.ofName? name) negated, i)
  | '\\' :: _ => none
  | c :: _ => return (← make (← CharProperty.ofName? [c]) negated, i.bump)
  | [] => none

private def metaChars : List Char :=
  ['\\', '.', '+', '*', '?', '(', ')', '|', '[', ']', '\x7b', '\x7d', '^', '$', '#', '&', '-', '~']

/-- The character stands for itself behind a backslash. -/
private def isPlainEscape (c : Char) : Bool :=
  metaChars.contains c || (c.toNat < 0x80 && !c.isAlphanum && c != '<' && c != '>')

/-- The special word conditions by name. -/
private def wordCondition? (basic : Bool) : String → Option Look
  | "start" => some (.wordStart basic)
  | "end" => some (.wordEnd basic)
  | "start-half" => some (.notAfterWord basic)
  | "end-half" => some (.notBeforeWord basic)
  | _ => none

/-- Reads the letters of a special word condition. -/
private def readWordName (fuel : Nat) (name : List Char) (i : Input) : List Char × Input :=
  match fuel, i.rest with
  | fuel + 1, c :: _ =>
    if c.isAlpha || c = '-' then readWordName fuel (c :: name) i.bump else (name.reverse, i)
  | _, _ => (name.reverse, i)

/-- Reads what may follow the sign for a word edge: the name of a special condition in braces,
unless the braces are a repetition. -/
private def readWordEdge (i : Input) : Option (Look × Input) :=
  let basic := !i.flags.allScripts
  match i.rest with
  | '\x7b' :: _ =>
    let inner := i.bump
    match inner.rest with
    | [] => none
    | c :: _ =>
      if c.isAlpha || c = '-' then
        let (name, after) := readWordName (inner.rest.length + 1) [] inner
        match after.rest with
        | '\x7d' :: rest =>
          (wordCondition? basic (String.ofList name)).map (·, after.goto rest)
        | _ => none
      else some (.wordEdge basic, i)
  | _ => some (.wordEdge basic, i)

/-- Reads an escape behind its backslash. -/
private def readEscape (i : Input) : Option (Primitive × Input) :=
  match i.rest with
  | [] => none
  | c :: rest =>
    let basic := !i.flags.allScripts
    let after := i.goto rest
    let literal (d : Char) : Option (Primitive × Input) := some (.literal d false, after)
    if c.isDigit then none
    else if c = 'x' ∨ c = 'u' ∨ c = 'U' then
      let short := c = 'x' && i.bump.rest.head? != some '\x7b'
      (readHex c i.bump).map fun (d, i) => (.literal d short, i)
    else if c = 'p' ∨ c = 'P' then
      (readProperty (c == 'P') i.bump).map fun (s, i) => (.set s, i)
    else if ['d', 's', 'w', 'D', 'S', 'W'].contains c then
      (i.flags.letterClass? c).map fun s => (.set s, after)
    else if isPlainEscape c then literal c
    else
      match c with
      | 'a' => literal '\x07'
      | 'f' => literal '\x0c'
      | 't' => literal '\t'
      | 'n' => literal '\n'
      | 'r' => literal '\r'
      | 'v' => literal '\x0b'
      | 'A' => some (.look .textStart, after)
      | 'z' => some (.look .textEnd, after)
      | 'b' => (readWordEdge after).map fun (l, i) => (.look l, i)
      | 'B' => some (.look (.wordInside basic), after)
      | '<' => some (.look (.wordStart basic), after)
      | '>' => some (.look (.wordEnd basic), after)
      | _ => none

/-- The set of a literal character: without all scripts, a character beyond the basic ones has no
byte of its own and no variants. -/
private def literalSet? (f : Flags) (c : Char) (byte : Bool) : Option CharSet :=
  if !f.allScripts ∧ 0x80 ≤ c.toNat ∧ (byte ∨ f.caseless) then none
  else if !f.allScripts ∧ f.caseless then
    some (.union (.single c.toLower) (.single c.toUpper))
  else some (f.fold (.single c))

/-- The expression of what one escape or character stands for. -/
private def Primitive.regex? (f : Flags) : Primitive → Option Regex
  | literal c byte => (literalSet? f c byte).map .set
  | set s => some (.set s)
  | look l => some (.look l)
  | point => f.point?.map .set

/-! ## Classes -/

/-- An operation between the sets of a class. -/
inductive SetOp where
  | inter | diff | symmDiff

/-- A class being read: the operation that waits for its right side, and the sets of the union
under way with how deeply they are nested. -/
structure ClassState where
  negated : Bool
  waiting : Option (SetOp × CharSet × Nat) := none
  sets : List (CharSet × Nat) := []

namespace ClassState

/-- One more set. -/
def push (s : ClassState) (set : CharSet) (depth : Nat) : ClassState :=
  { s with sets := s.sets ++ [(set, depth)] }

/-- The value of what has been read, with its nesting. -/
def value (f : Flags) (s : ClassState) : CharSet × Nat :=
  let union := CharSet.unionAll (s.sets.map (·.1))
  let inner := s.sets.foldl (fun d x => max d x.2) 0
  let depth := if s.sets.length ≤ 1 then inner else inner + 1
  match s.waiting with
  | none => (union, depth)
  | some (op, left, leftDepth) =>
    let (a, b) := (f.fold left, f.fold union)
    let set :=
      match op with
      | .inter => .inter a b
      | .diff => .diff a b
      | .symmDiff => .symmDiff a b
    (set, max leftDepth depth + 1)

/-- An operation sign: what has been read becomes its left side. -/
def operate (f : Flags) (op : SetOp) (s : ClassState) : ClassState :=
  let (set, depth) := s.value f
  { s with waiting := some (op, set, depth), sets := [] }

end ClassState

/-- Reads the minus signs that may open a class. -/
private def readMinuses (fuel : Nat) (s : ClassState) (i : Input) : ClassState × Input :=
  match fuel, i.rest with
  | fuel + 1, '-' :: _ => readMinuses fuel (s.push (.single '-') 0) i.bump
  | _, _ => (s, i)

/-- Reads how a class begins, behind its bracket. -/
private def openClass (i : Input) : Option (ClassState × Input) :=
  let (negated, i) :=
    match i.rest with
    | '^' :: _ => (true, i.bump)
    | _ => (false, i)
  let (s, i) := readMinuses (i.rest.length + 1) { negated } i
  match i.rest with
  | [] => none
  | ']' :: _ =>
    if s.sets.isEmpty then
      let i := i.bump
      if i.rest.isEmpty then none else some (s.push (.single ']') 0, i)
    else some (s, i)
  | _ => some (s, i)

/-- Reads a named set of basic characters, brackets and all. -/
private def readNamedSet? (f : Flags) (cs : List Char) : Option (CharSet × List Char) := do
  let inner :=
    match cs with
    | '[' :: ':' :: inner => inner
    | _ => []
  let (name, rest) ← cutAt? [':'] inner
  match rest with
  | ']' :: rest =>
    let (negated, name) :=
      match name with
      | '^' :: n => (true, n)
      | n => (false, n)
    let s ← CharSet.basic? (String.ofList name)
    return (← f.negate? negated (f.fold s), rest)
  | _ => none

/-- Reads one end of a range or a set of its own. -/
private def readClassItem (i : Input) : Option (Primitive × Input) :=
  match i.rest with
  | [] => none
  | '\\' :: rest => readEscape (i.goto rest)
  | c :: rest => some (.literal c false, i.goto rest)

/-- The end of a range: without all scripts, a basic character. -/
private def rangeEnd? (f : Flags) : Primitive → Option Char
  | .literal c _ => if !f.allScripts ∧ 0x80 ≤ c.toNat then none else some c
  | _ => none

/-- The set of an item that is no range. -/
private def itemSet? (f : Flags) : Primitive → Option CharSet
  | .literal c b => (rangeEnd? f (.literal c b)).map .single
  | .set s => some s
  | _ => none

/-- Reads a range or a single item. -/
private def readRange (i : Input) : Option (CharSet × Input) := do
  let f := i.flags
  let (first, i) ← readClassItem i
  let i := i.skip
  match i.rest with
  | [] => none
  | '-' :: rest =>
    let next := ((i.goto rest).skip).rest.head?
    if next == some ']' || next == some '-' then return (← itemSet? f first, i)
    else
      let i := i.bump
      let (last, i) ← readClassItem i
      let (a, b) := (← rangeEnd? f first, ← rangeEnd? f last)
      if b < a then none else return (.range a b, i)
  | _ => return (← itemSet? f first, i)

/-- Reads a class behind its opening bracket, given how it has begun. -/
private def readClass (fuel : Nat) (s : ClassState) (i : Input) :
    Option (CharSet × Nat × Input) :=
  match fuel with
  | 0 => none
  | fuel + 1 =>
    let i := i.skip
    let f := i.flags
    match i.rest with
    | [] => none
    | '[' :: rest =>
      match readNamedSet? f i.rest with
      | some (set, rest) => readClass fuel (s.push set 0) (i.goto rest)
      | none => do
        let (inner, i) ← openClass (i.goto rest).skip
        let (set, depth, i) ← readClass fuel inner i
        readClass fuel (s.push set depth) i
    | ']' :: rest => do
      let (set, depth) := s.value f
      return (← f.negate? s.negated (f.fold set), depth + 1, i.goto rest)
    | '&' :: '&' :: rest => readClass fuel (s.operate f .inter) (i.goto rest)
    | '-' :: '-' :: rest => readClass fuel (s.operate f .diff) (i.goto rest)
    | '~' :: '~' :: rest => readClass fuel (s.operate f .symmDiff) (i.goto rest)
    | _ => do
      let (set, i) ← readRange i
      readClass fuel (s.push set 0) i

/-! ## Repetitions -/

/-- Reads digits, skipping what does not count. -/
private def readDigits (fuel : Nat) (digits : List Char) (i : Input) : List Char × Input :=
  match fuel, i.rest with
  | fuel + 1, c :: _ =>
    if c.isDigit then readDigits fuel (c :: digits) i.bump else (digits.reverse, i)
  | _, _ => (digits.reverse, i)

/-- Reads a count between blanks; none inside if there are no digits. -/
private def readCount (i : Input) : Option (Option Nat × Input) :=
  let blanks (i : Input) : Input := i.goto (i.rest.dropWhile Text.isBlank)
  let (digits, i) := readDigits (i.rest.length + 1) [] (blanks i)
  let i := (blanks i).skip
  if digits.isEmpty then some (none, i)
  else
    let n := digits.foldl (fun n d => 10 * n + (d.toNat - '0'.toNat)) 0
    if n < 0x100000000 then some (some n, i) else none

/-- Reads how often a part is repeated, behind the opening brace. -/
private def readBounds (i : Input) : Option (Nat × Option Nat × Input) := do
  if i.rest.isEmpty then none
  let (least, i) ← readCount i
  match i.rest with
  | ',' :: _ =>
    let i := i.bump
    match i.rest with
    | [] => none
    | '\x7d' :: _ => return (← least, none, i.bump)
    | _ =>
      let least ← least
      let (most, i) ← readCount i
      let most ← most
      match i.rest with
      | '\x7d' :: _ => if most < least then none else return (least, some most, i.bump)
      | _ => none
  | '\x7d' :: _ =>
    let n ← least
    return (n, some n, i.bump)
  | _ => none

/-- The element read last, repeated. -/
private def repeatLast (least : Nat) (most : Option Nat) :
    List Element → Option (List Element)
  | .part p :: rest => some (.part ⟨.rep p.regex least most, p.depth + 1⟩ :: rest)
  | _ => none

/-- Skips the sign for few repetitions, which does not change what matches. -/
private def skipLazy (i : Input) : Input :=
  match i.rest with
  | '?' :: rest => i.goto rest
  | _ => i

/-! ## Groups -/

/-- Sets one flag; none if there is no such flag. -/
private def Flags.set? (f : Flags) (c : Char) (on : Bool) : Option Flags :=
  match c with
  | 'i' => some { f with caseless := on }
  | 'm' => some { f with multiLine := on }
  | 's' => some { f with dotAll := on }
  | 'R' => some { f with returns := on }
  | 'u' => some { f with allScripts := on }
  | 'x' => some { f with verbose := on }
  | 'U' => some f
  | _ => none

/-- Reads flags up to the colon or parenthesis behind them: the flags, how many signs there were,
and which of the two follows. -/
private def readFlags : List Char → List Char → Bool → Flags →
    Option (Flags × Nat × Char × List Char)
  | [], _, _, _ => none
  | c :: cs, seen, negative, f =>
    if c = ':' ∨ c = ')' then
      if seen.head? == some '-' then none else some (f, seen.length, c, cs)
    else if seen.contains c then none
    else if c = '-' then readFlags cs (c :: seen) true f
    else (f.set? c !negative) >>= readFlags cs (c :: seen) negative

/-- The character may stand in the name of a group. -/
private def isNameChar (first : Bool) (c : Char) : Bool :=
  let alphabetic := CharProperty.alphabetic.holds c
  if first then c == '_' || alphabetic
  else
    let number := match Category.of c with
      | .digit | .letterNumber | .otherNumber => true
      | _ => false
    c == '_' || c == '.' || c == '[' || c == ']' || alphabetic || number

/-- Reads the name of a group up to its angle. -/
private def readName (cs : List Char) : Option (List Char × List Char) :=
  let name := cs.takeWhile (· != '>')
  match cs.dropWhile (· != '>'), name with
  | '>' :: rest, c :: more =>
    if isNameChar true c && more.all (isNameChar false) then some (name, rest) else none
  | _, _ => none

/-- How a group begins: its flags, or a change of flags alone. -/
private inductive Opening where
  | group (i : Input)
  | flags (i : Input)

/-- Reads how a group begins, behind its parenthesis. -/
private def openGroup (i : Input) : Option Opening := do
  let i := i.skip
  let named (rest : List Char) : Option Opening := do
    let (name, rest) ← readName rest
    if i.names.contains name then none
    return .group { i with rest, names := name :: i.names }
  match i.rest with
  | '?' :: '=' :: _ | '?' :: '!' :: _ | '?' :: '<' :: '=' :: _ | '?' :: '<' :: '!' :: _ => none
  | '?' :: 'P' :: '<' :: rest => named rest
  | '?' :: '<' :: rest => named rest
  | '?' :: rest =>
    let (f, signs, closing, rest) ← readFlags rest [] false i.flags
    let i := { i with rest, flags := f }
    if closing = ')' then (if signs = 0 then none else return .flags i)
    else return .group i
  | _ => return .group i

/-! ## Sequences and branches -/

/-- Reads branches up to a parenthesis or the end: the branches and the elements of the last one so
far are given newest first. -/
private def readBranches (fuel : Nat) (branches : List Part) (elements : List Element)
    (i : Input) : Option (Part × Input) :=
  match fuel with
  | 0 => none
  | fuel + 1 =>
    let i := i.skip
    let more (p : Part) (i : Input) : Option (Part × Input) :=
      readBranches fuel branches (.part p :: elements) i
    let again (least : Nat) (most : Option Nat) (i : Input) : Option (Part × Input) := do
      readBranches fuel branches (← repeatLast least most elements) (skipLazy i)
    match i.rest with
    | [] | ')' :: _ => some (choice (sequence elements :: branches), i)
    | '|' :: rest => readBranches fuel (sequence elements :: branches) [] (i.goto rest)
    | '(' :: rest => do
      match ← openGroup (i.goto rest) with
      | .flags i => readBranches fuel branches (.flags :: elements) i
      | .group inner =>
        let (p, after) ← readBranches fuel [] [] inner
        match after.rest with
        | ')' :: rest =>
          more ⟨p.regex, p.depth + 1⟩ { rest, flags := i.flags, names := after.names }
        | _ => none
    | '[' :: rest => do
      let (s, i) ← openClass (i.goto rest).skip
      let (set, depth, i) ← readClass (i.rest.length + 1) s i
      more ⟨.set set, depth⟩ i
    | '?' :: rest => again 0 (some 1) (i.goto rest)
    | '*' :: rest => again 0 none (i.goto rest)
    | '+' :: rest => again 1 none (i.goto rest)
    | '\x7b' :: _ => do
      let _ ← repeatLast 0 none elements
      let (least, most, i) ← readBounds i.bump
      again least most i
    | '\\' :: rest => do
      let (p, after) ← readEscape (i.goto rest)
      more ⟨← p.regex? i.flags, 0⟩ after
    | '.' :: rest => do more ⟨← Primitive.point.regex? i.flags, 0⟩ (i.goto rest)
    | '^' :: rest => more ⟨.look i.flags.lineStart, 0⟩ (i.goto rest)
    | '$' :: rest => more ⟨.look i.flags.lineEnd, 0⟩ (i.goto rest)
    | c :: rest => do more ⟨← (Primitive.literal c false).regex? i.flags, 0⟩ (i.goto rest)

/-- The expression of a pattern, unless the pattern is malformed. -/
def parse? (pattern : String) : Option Regex := do
  let (p, i) ← readBranches (2 * pattern.length + 2) [] [] { rest := pattern.toList }
  if i.rest.isEmpty ∧ p.depth ≤ depthLimit then some p.regex else none

end Pattern

end RemoteScreen
