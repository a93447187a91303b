import RemoteScreen.Text.Blank
import RemoteScreen.Text.Case
import RemoteScreen.Text.MarkTable
import RemoteScreen.Text.Script

/-!
# Pattern/CharSet — sets of characters that patterns name

A set is kept as it was put together; membership is decided by looking at one character.  Regard
for case is dropped by `uncased`, which adds the variants of all members.
-/

namespace RemoteScreen

/-- A property that a pattern can ask a character for. -/
inductive CharProperty where
  | any | ascii | assigned
  | digit | blank | word
  | alphabetic | lower | upper
  | category (kinds : List Category)
  | script (index : Nat)
  deriving DecidableEq, Repr

/-- A character has a property. -/
def CharProperty.holds : CharProperty → Char → Bool
  | any, _ => true
  | ascii, c => c.toNat < 0x80
  | assigned, c => Category.of c != .unassigned
  | digit, c => Text.isDigit c
  | blank, c => Text.isBlank c
  | word, c => Text.isWord c
  | alphabetic, c =>
    (Text.isWord c && Category.of c != .digit && Category.of c != .connector
      && Category.of c != .format && !Text.isMark c) || inRanges Text.alphabeticMarks c
  | lower, c => Text.isLower c
  | upper, c => Text.isUpper c
  | category kinds, c => kinds.contains (Category.of c)
  | script i, c => Script.of c == i

/-- A set of characters. -/
inductive CharSet where
  | none
  | range (first last : Char)
  | property (p : CharProperty)
  | union (a b : CharSet)
  | inter (a b : CharSet)
  | diff (a b : CharSet)
  | symmDiff (a b : CharSet)
  | compl (a : CharSet)
  | uncased (a : CharSet)
  deriving DecidableEq, Repr, Inhabited

namespace CharSet

/-- Membership of a character. -/
def mem : CharSet → Char → Bool
  | none, _ => false
  | range first last, c => first.toNat ≤ c.toNat && c.toNat ≤ last.toNat
  | property p, c => p.holds c
  | union a b, c => a.mem c || b.mem c
  | inter a b, c => a.mem c && b.mem c
  | diff a b, c => a.mem c && !b.mem c
  | symmDiff a b, c => a.mem c != b.mem c
  | compl a, c => !a.mem c
  | uncased a, c => (Text.caseVariants c).any a.mem

/-- The set of one character. -/
def single (c : Char) : CharSet := range c c

/-- The union of several sets. -/
def unionAll (sets : List CharSet) : CharSet := sets.foldl union none

/-- The named sets of basic characters, as ranges. -/
def basicRanges? : String → Option (List (Char × Char))
  | "alnum" => some [('0', '9'), ('A', 'Z'), ('a', 'z')]
  | "alpha" => some [('A', 'Z'), ('a', 'z')]
  | "ascii" => some [('\x00', '\x7F')]
  | "blank" => some [('\t', '\t'), (' ', ' ')]
  | "cntrl" => some [('\x00', '\x1F'), ('\x7F', '\x7F')]
  | "digit" => some [('0', '9')]
  | "graph" => some [('!', '~')]
  | "lower" => some [('a', 'z')]
  | "print" => some [(' ', '~')]
  | "punct" => some [('!', '/'), (':', '@'), ('[', '\x60'), ('\x7b', '~')]
  | "space" => some [('\t', '\r'), (' ', ' ')]
  | "upper" => some [('A', 'Z')]
  | "word" => some [('0', '9'), ('A', 'Z'), ('_', '_'), ('a', 'z')]
  | "xdigit" => some [('0', '9'), ('A', 'F'), ('a', 'f')]
  | _ => Option.none

/-- A named set of basic characters. -/
def basic? (name : String) : Option CharSet :=
  (basicRanges? name).map fun ranges => unionAll (ranges.map fun r => range r.1 r.2)

end CharSet

/-! ## Properties by name -/

namespace CharProperty

/-- A name without case, blanks, bars and underscores, and without `is` in front. -/
def normalize (name : List Char) : String :=
  let lower := name.map Char.toLower
  let behindIs :=
    match lower with
    | 'i' :: 's' :: rest => if name.take 2 |>.all (·.toNat < 0x80) then rest else lower
    | cs => cs
  let kept := behindIs.filter fun c => c != ' ' && c != '_' && c != '-' && c.toNat < 0x80
  if behindIs.length < lower.length ∧ kept = ['c'] then "isc" else String.ofList kept

/-- The general categories by their short and long names. -/
def categoryNames : List (List String × List Category) :=
  let letters : List Category := [.upper, .lower, .title, .modifier, .otherLetter]
  let marks : List Category := [.nonspacing, .spacing, .enclosing]
  let numbers : List Category := [.digit, .letterNumber, .otherNumber]
  let punctuation : List Category :=
    [.connector, .dash, .opening, .closing, .initialQuote, .finalQuote, .otherPunctuation]
  let symbols : List Category := [.mathSymbol, .currency, .modifierSymbol, .otherSymbol]
  let separators : List Category := [.space, .lineSeparator, .paragraphSeparator]
  let others : List Category := [.control, .format, .surrogate, .privateUse, .unassigned]
  [(["lu", "uppercaseletter"], [.upper]), (["ll", "lowercaseletter"], [.lower]),
   (["lt", "titlecaseletter"], [.title]), (["lm", "modifierletter"], [.modifier]),
   (["lo", "otherletter"], [.otherLetter]), (["lc", "casedletter"], [.upper, .lower, .title]),
   (["l", "letter"], letters),
   (["mn", "nonspacingmark"], [.nonspacing]), (["mc", "spacingmark"], [.spacing]),
   (["me", "enclosingmark"], [.enclosing]), (["m", "mark", "combiningmark"], marks),
   (["nd", "decimalnumber", "digit"], [.digit]), (["nl", "letternumber"], [.letterNumber]),
   (["no", "othernumber"], [.otherNumber]), (["n", "number"], numbers),
   (["pc", "connectorpunctuation"], [.connector]), (["pd", "dashpunctuation"], [.dash]),
   (["ps", "openpunctuation"], [.opening]), (["pe", "closepunctuation"], [.closing]),
   (["pi", "initialpunctuation"], [.initialQuote]), (["pf", "finalpunctuation"], [.finalQuote]),
   (["po", "otherpunctuation"], [.otherPunctuation]), (["p", "punctuation", "punct"], punctuation),
   (["sm", "mathsymbol"], [.mathSymbol]), (["sc", "currencysymbol"], [.currency]),
   (["sk", "modifiersymbol"], [.modifierSymbol]), (["so", "othersymbol"], [.otherSymbol]),
   (["s", "symbol"], symbols),
   (["zs", "spaceseparator"], [.space]), (["zl", "lineseparator"], [.lineSeparator]),
   (["zp", "paragraphseparator"], [.paragraphSeparator]), (["z", "separator"], separators),
   (["cc", "control", "cntrl"], [.control]), (["cf", "format"], [.format]),
   (["cs", "surrogate"], [.surrogate]), (["co", "privateuse"], [.privateUse]),
   (["cn", "unassigned"], [.unassigned]), (["c", "other"], others)]

/-- The general category, or group of them, of a normalized name. -/
def ofCategoryName? (name : String) : Option CharProperty :=
  match name with
  | "any" => some .any
  | "ascii" => some .ascii
  | "assigned" => some .assigned
  | _ => (categoryNames.find? (·.1.contains name)).map fun e => .category e.2

/-- The script of a normalized name. -/
def ofScriptName? (name : String) : Option CharProperty :=
  (Script.names.findIdx? fun n =>
    normalize n.1.toList == name || normalize n.2.toList == name).map .script

/-- The property of a name that stands alone. -/
def ofName? (name : List Char) : Option CharProperty :=
  match normalize name with
  | "alphabetic" | "alpha" => some .alphabetic
  | "lowercase" | "lower" => some .lower
  | "uppercase" | "upper" => some .upper
  | "whitespace" | "wspace" | "space" => some .blank
  | n => ofCategoryName? n <|> ofScriptName? n

/-- The property of a name with a value. -/
def ofNameValue? (name value : List Char) : Option CharProperty :=
  match normalize name with
  | "generalcategory" | "gc" => ofCategoryName? (normalize value)
  | "script" | "sc" | "scriptextensions" | "scx" => ofScriptName? (normalize value)
  | _ => none

end CharProperty

end RemoteScreen
