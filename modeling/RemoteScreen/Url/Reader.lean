import RemoteScreen.Path
import RemoteScreen.Url.Basic

/-!
# Url/Reader — addresses of servers, brought into one form

An address is read leniently: blanks around it and line breaks in it do not count, slashes may lean
either way, dot segments are walked, the usual number of a service is left out, names and passwords
are left out too, and what may not stand in an address is written in hexadecimal behind a percent
sign.  Hosts are names in basic characters, or numeric.
-/

namespace RemoteScreen.Url

/-- The schemes whose addresses all have the same parts, with the usual numbers of their
services. -/
def special : List (String × Option Nat) :=
  [("http", some 80), ("https", some 443), ("ws", some 80), ("wss", some 443), ("ftp", some 21),
   ("file", none)]

/-! ## Percent signs -/

/-- A byte in hexadecimal behind a percent sign. -/
def percentByte (b : UInt8) : List Char :=
  let digit (n : Nat) : Char := (Nat.digitChar n).toUpper
  ['%', digit (b.toNat / 16), digit (b.toNat % 16)]

/-- Writes characters of a class, and all beyond ASCII, behind percent signs. -/
def percentEncode (shunned : Char → Bool) (cs : List Char) : List Char :=
  cs.flatMap fun c =>
    if c.toNat < 0x20 || 0x7E < c.toNat || shunned c then
      (String.singleton c).toUTF8.toList.flatMap percentByte
    else [c]

/-- Characters that may not stand in a fragment. -/
def shunnedInFragment (c : Char) : Bool := [' ', '"', '<', '>', '\x60'].contains c

/-- Characters that may not stand in a path. -/
def shunnedInPath (c : Char) : Bool :=
  shunnedInFragment c || ['#', '?', '\x7b', '\x7d'].contains c

/-- Characters that may not stand in a query. -/
def shunnedInQuery (isSpecial : Bool) (c : Char) : Bool :=
  [' ', '"', '#', '<', '>'].contains c || (isSpecial && c == '\'')

/-- The value of a hexadecimal digit. -/
def hexValue? (c : Char) : Option Nat :=
  if c.isDigit then some (c.toNat - '0'.toNat)
  else
    let d := c.toLower
    if 'a' ≤ d ∧ d ≤ 'f' then some (d.toNat - 'a'.toNat + 10) else none

/-- Reads ASCII characters behind percent signs back. -/
def percentDecode : List Char → List Char
  | '%' :: a :: b :: rest =>
    match hexValue? a, hexValue? b with
    | some x, some y => Char.ofNat (16 * x + y) :: percentDecode rest
    | _, _ => '%' :: percentDecode (a :: b :: rest)
  | c :: rest => c :: percentDecode rest
  | [] => []

/-! ## Hosts -/

/-- Characters that may not stand in the name of a host. -/
def forbiddenInHost (c : Char) : Bool :=
  c.toNat ≤ 0x20 || 0x7E < c.toNat
    || ['#', '%', '/', ':', '<', '>', '?', '@', '[', '\\', ']', '^', '|'].contains c

/-- A number in decimal, octal or hexadecimal digits, as the part of a numeric host. -/
def hostNumber? (cs : List Char) : Option Nat :=
  let read (base : Nat) (ds : List Char) : Option Nat :=
    ds.foldlM (fun n d => do
      let v ← hexValue? d
      if v < base then some (n * base + v) else none) 0
  match cs with
  | [] => none
  | '0' :: 'x' :: ds | '0' :: 'X' :: ds => read 16 ds
  | '0' :: d :: ds => read 8 (d :: ds)
  | ds => read 10 ds

/-- The parts of a host between points, without the empty one behind a last point. -/
def hostParts (cs : List Char) : List (List Char) :=
  let parts := splitAt '.' cs
  if 1 < parts.length && parts.getLast? == some [] then parts.dropLast else parts

/-- The last part of a host is a number, so the host has to be one. -/
def endsInNumber (cs : List Char) : Bool :=
  match (hostParts cs).getLast? with
  | some part => (!part.isEmpty && part.all Char.isDigit) || (hostNumber? part).isSome
  | none => false

/-- The four bytes of a numeric host. -/
def numericHost? (cs : List Char) : Option (List Char) := do
  let parts := hostParts cs
  if 4 < parts.length then failure
  let numbers ← parts.mapM hostNumber?
  let last ← numbers.getLast?
  let front := numbers.dropLast
  if front.any (255 < ·) || 1 <<< (8 * (5 - numbers.length)) ≤ last then failure
  let address := front.zipIdx.foldl (fun total (n, i) => total + n <<< (8 * (3 - i))) last
  let bytes := [address >>> 24, address >>> 16 % 256, address >>> 8 % 256, address % 256]
  some (String.intercalate "." (bytes.map toString)).toList

/-- The name of a host in one form. -/
def hostName? (cs : List Char) : Option (List Char) :=
  let name := (percentDecode cs).map Char.toLower
  if name.isEmpty || name.any forbiddenInHost then none
  else if endsInNumber name then numericHost? name
  else some name

/-- The number of a service, none if it is the usual one or left out; the outer none is for what is
no number of a service. -/
def service? (usual : Option Nat) (cs : List Char) : Option (Option Nat) :=
  if !cs.all Char.isDigit then none
  else if cs.isEmpty then some none
  else
    let n := cs.foldl (fun n d => 10 * n + (d.toNat - '0'.toNat)) 0
    if 65535 < n then none else some (if some n = usual then none else some n)

/-- What stands behind the last `@`. -/
def withoutUser (cs : List Char) : List Char :=
  match (splitAt '@' cs).getLast? with
  | some rest => rest
  | none => cs

/-- The host of an address and the number of its service in one form. -/
def authority? (usual : Option Nat) (cs : List Char) : Option (List Char) := do
  let rest := withoutUser cs
  let name ← hostName? (rest.takeWhile (· ≠ ':'))
  let service ← service? usual ((rest.dropWhile (· ≠ ':')).drop 1)
  match service with
  | none => some name
  | some n => some (name ++ ':' :: (toString n).toList)

/-! ## Paths -/

/-- A segment that stands for its own level, or for the one above. -/
def dots (segment : List Char) : Option Nat :=
  match String.ofList (segment.map Char.toLower) with
  | "." | "%2e" => some 1
  | ".." | ".%2e" | "%2e." | "%2e%2e" => some 2
  | _ => none

/-- Walks the segments of a path, those walked so far coming last one first. -/
def walk : List (List Char) → List (List Char) → List (List Char)
  | walked, [] => walked.reverse
  | walked, segment :: rest =>
    let last := rest.isEmpty
    match dots segment with
    | some 1 => walk (if last then [] :: walked else walked) rest
    | some _ => walk (if last then [] :: walked.drop 1 else walked.drop 1) rest
    | none => walk (percentEncode shunnedInPath segment :: walked) rest

/-- A path in one form, beginning with a slash. -/
def pathText (cs : List Char) : List Char :=
  let segments :=
    match splitAt '/' cs with
    | [] :: first :: rest => first :: rest
    | segments => segments
  (walk [] segments).flatMap ('/' :: ·)

/-- The part of a text in front of a mark, and the part behind it if there is one. -/
def cut (mark : Char) (cs : List Char) : List Char × Option (List Char) :=
  match cs.dropWhile (· ≠ mark) with
  | [] => (cs, none)
  | _ :: rest => (cs.takeWhile (· ≠ mark), some rest)

/-- The address that a text stands for. -/
def parse? (s : String) : Option Url := do
  let outer (c : Char) : Bool := c.toNat ≤ 0x20
  let trimmed := ((s.toList.dropWhile outer).reverse.dropWhile outer).reverse
  let cs := trimmed.filter fun c => c ≠ '\t' && c ≠ '\n' && c ≠ '\r'
  let (front, rest?) := cut ':' cs
  let rest ← rest?
  let first ← front.head?
  if !first.isAlpha || !front.all fun c => c.isAlphanum || ['+', '-', '.'].contains c then failure
  let scheme := String.ofList (front.map Char.toLower)
  let (rest, fragment) := cut '#' rest
  let (rest, query) := cut '?' rest
  let known := special.lookup scheme
  let fragment := fragment.map fun f => String.ofList (percentEncode shunnedInFragment f)
  let query := query.map fun q => String.ofList (percentEncode (shunnedInQuery known.isSome) q)
  match known with
  | some usual =>
    let rest := rest.map fun c => if c = '\\' then '/' else c
    if scheme = "file" then
      let path := pathText (rest.dropWhile (· = '/'))
      some { scheme, host := some "", path := String.ofList path, query, fragment }
    else
      let rest := rest.dropWhile (· = '/')
      let host ← authority? usual (rest.takeWhile (· ≠ '/'))
      let path := pathText (rest.dropWhile (· ≠ '/'))
      let host := some (String.ofList host)
      some { scheme, host, path := String.ofList path, query, fragment }
  | none =>
    let path := String.ofList (percentEncode (fun _ => false) rest)
    some { scheme, host := none, path, query, fragment }

end RemoteScreen.Url
