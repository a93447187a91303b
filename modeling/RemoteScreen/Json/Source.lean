import RemoteScreen.Json.Basic

/-!
# Json/Source — a value as it stands in its source

A source is what a reader walks over: the values in the order they stand in, with the place at
which a complaint about each of them is reported.  A text that is not JSON still has a source, cut
short by a **broken** leaf where the text goes wrong; whoever walks up to that leaf reports it, so a
complaint about an earlier value comes first.

A value has a source too (`ofJson`), whose places are unknown.
-/

namespace RemoteScreen

/-- What can be wrong with a text that should be JSON. -/
inductive Fault where
  | endInValue | endInList | endInObject | endInString
  | expectedColon | expectedListEnd | expectedObjectEnd | expectedWord | expectedValue
  | badEscape | badNumber | numberTooLarge | controlCharacter | keyNotString
  | trailingComma | trailingCharacters | loneSurrogate | cutSurrogate | tooDeep
  deriving DecidableEq, Repr

/-- The wording of a fault. -/
def Fault.message : Fault → String
  | endInValue => "EOF while parsing a value"
  | endInList => "EOF while parsing a list"
  | endInObject => "EOF while parsing an object"
  | endInString => "EOF while parsing a string"
  | expectedColon => "expected `:`"
  | expectedListEnd => "expected `,` or `]`"
  | expectedObjectEnd => "expected `,` or `\x7d`"
  | expectedWord => "expected ident"
  | expectedValue => "expected value"
  | badEscape => "invalid escape"
  | badNumber => "invalid number"
  | numberTooLarge => "number out of range"
  | controlCharacter => "control character (\\u0000-\\u001F) found while parsing a string"
  | keyNotString => "key must be a string"
  | trailingComma => "trailing comma"
  | trailingCharacters => "trailing characters"
  | loneSurrogate => "lone leading surrogate in hex escape"
  | cutSurrogate => "unexpected end of hex escape"
  | tooDeep => "recursion limit exceeded"

/-- A place in a text: how many bytes of which line have been read.  Lines count from one. -/
structure Place where
  line : Nat
  column : Nat
  deriving DecidableEq, Repr

namespace Json

/-- A value as it stands in its source. -/
inductive Source where
  /-- A value without parts, and the place where its reading ends. -/
  | leaf (value : Json) (place : Option Place)
  /-- Items, each with the place where it starts; the places of the two brackets, and whether the
  list is nested deeper than a reader follows. -/
  | list (items : List (Option Place × Source)) (opened closed : Option Place) (tooDeep : Bool)
  /-- Members in the order they stand in, each with the place reached past its key; a broken leaf
  without such a place stands for a key that cannot be read. -/
  | object (members : List (String × Option Place × Source)) (opened closed : Option Place)
      (tooDeep : Bool)
  /-- The place where the text goes wrong: the fault a reader finds, and the one found by who only
  skips the value.  A fault that skipping does not find has none. -/
  | broken (read : Fault) (skip : Option Fault) (place : Place)
  deriving Inhabited

namespace Source

mutual

/-- The source of a value, with its members in key order and its places unknown. -/
def ofJson : Json → Source
  | .arr items => list (ofItems items) none none false
  | .obj fields => object (ofFields fields) none none false
  | .null => leaf .null none
  | .bool b => leaf (.bool b) none
  | .num n => leaf (.num n) none
  | .str s => leaf (.str s) none

/-- The sources of the items of a list. -/
def ofItems : List Json → List (Option Place × Source)
  | [] => []
  | x :: xs => (none, ofJson x) :: ofItems xs

/-- The sources of the members of an object. -/
def ofFields : List (String × Json) → List (String × Option Place × Source)
  | [] => []
  | (k, x) :: xs => (k, none, ofJson x) :: ofFields xs

end

end Source

end Json

end RemoteScreen
