import RemoteScreen.Pattern.CharSet

/-!
# Pattern/Regex — regular expressions and what they match

An expression is run over a whole text at once: from the set of positions where a match may begin
it computes the set of positions where it may end.  A set of positions is a list of truth values,
one for each place between two characters and one for each end.

A text has a match if some position is an end of a match that begins anywhere.
-/

namespace RemoteScreen

/-- A condition on the place between two characters. -/
inductive Look where
  | textStart | textEnd
  | lineStart | lineEnd
  | returnLineStart | returnLineEnd
  | wordEdge (basic : Bool) | wordInside (basic : Bool)
  | wordStart (basic : Bool) | wordEnd (basic : Bool)
  | notAfterWord (basic : Bool) | notBeforeWord (basic : Bool)
  deriving DecidableEq, Repr

/-- The character is part of a word, or of a word of basic characters. -/
def isWordChar (basic : Bool) (c : Char) : Bool :=
  if basic then c.isAlphanum || c == '_' else Text.isWord c

/-- The condition holds between two characters, one of which is missing at an end of the text. -/
def Look.holds (look : Look) (before after : Option Char) : Bool :=
  let word (basic : Bool) (c : Option Char) : Bool := c.any (isWordChar basic)
  match look with
  | textStart => before.isNone
  | textEnd => after.isNone
  | lineStart => before.isNone || before == some '\n'
  | lineEnd => after.isNone || after == some '\n'
  | returnLineStart =>
    before.isNone || before == some '\n' || (before == some '\r' && after != some '\n')
  | returnLineEnd =>
    after.isNone || after == some '\r' || (after == some '\n' && before != some '\r')
  | wordEdge basic => word basic before != word basic after
  | wordInside basic => word basic before == word basic after
  | wordStart basic => !word basic before && word basic after
  | wordEnd basic => word basic before && !word basic after
  | notAfterWord basic => !word basic before
  | notBeforeWord basic => !word basic after

/-- A regular expression. -/
inductive Regex where
  | empty
  | look (l : Look)
  | set (s : CharSet)
  | cat (a b : Regex)
  | alt (a b : Regex)
  /-- At least `least` times, and where there is a bound at most `most` times. -/
  | rep (a : Regex) (least : Nat) (most : Option Nat)
  deriving DecidableEq, Repr, Inhabited

/-- Positions in a text: the start, one behind each character. -/
abbrev Positions := List Bool

namespace Positions

/-- The positions of two sets. -/
def union (s t : Positions) : Positions := List.zipWith (· || ·) s t

/-- The positions that satisfy a condition on their two neighbours. -/
def filterLook (l : Look) : Option Char → List Char → Positions → Positions
  | before, [], s => s.map (· && l.holds before none)
  | before, c :: cs, b :: s => (b && l.holds before (some c)) :: filterLook l (some c) cs s
  | _, _ :: _, [] => []

/-- The positions reached by one character of a set. -/
def advance (set : CharSet) (text : List Char) (s : Positions) : Positions :=
  false :: List.zipWith (fun c b => b && set.mem c) text s

/-- Applies a step so often, as long as it changes anything. -/
def times (step : Positions → Positions) : Nat → Positions → Positions
  | 0, s => s
  | n + 1, s =>
    let t := step s
    if t = s then s else times step n t

end Positions

namespace Regex

/-- Where matches that begin at the given positions may end. -/
def ends (text : List Char) : Regex → Positions → Positions
  | empty, s => s
  | look l, s => Positions.filterLook l none text s
  | set cs, s => Positions.advance cs text s
  | cat a b, s => ends text b (ends text a s)
  | alt a b, s => (ends text a s).union (ends text b s)
  | rep a least most, s =>
    -- from some number of times on, once more reaches nothing new
    let more := match most with
      | none => text.length + 1
      | some m => min (m - least) (text.length + 1)
    let reached := Positions.times (ends text a) least s
    Positions.times (fun t => t.union (ends text a t)) more reached

/-- Some part of the text matches. -/
def isMatch (r : Regex) (text : List Char) : Bool :=
  (r.ends text (List.replicate (text.length + 1) true)).any id

end Regex

end RemoteScreen
