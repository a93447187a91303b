import RemoteScreen.Json.Reader
import RemoteScreen.Json.Printer
import RemoteScreen.Text.Quoted

/-!
# Json/Decode — typed values out of sources

A decoder walks its source once, from left to right, and stops at the first complaint.  Records are
decoded member by member into a draft; a record may also be written as a list of its fields in
their fixed order.  Of an object, members with unknown names are skipped and a name may not be
given twice; what is missing at the end is asked for in the order of the fields.

The walkers hand each part to its decoder with a proof that the part is smaller than the whole, so
decoders of nested records recurse through them.
-/

namespace RemoteScreen

/-- What was found where something else was expected. -/
inductive Found where
  | null
  | bool (value : Bool)
  | num (value : Number)
  | str (value : String)
  | list
  | object
  deriving DecidableEq

namespace Found

/-- What a value is found to be. -/
def ofJson : Json → Found
  | .null => null
  | .bool b => bool b
  | .num n => num n
  | .str s => str s
  | .arr _ => list
  | .obj _ => object

/-- How a complaint names what was found. -/
def message : Found → String
  | null => "null"
  | bool true => "boolean `true`"
  | bool false => "boolean `false`"
  | num (.int i) => "integer `" ++ String.ofList (Number.int i).chars ++ "`"
  | num (.real x) => "floating point `" ++ String.ofList x.toChars ++ "`"
  | str s => "string " ++ Text.quoted s
  | list => "sequence"
  | object => "map"

end Found

/-- Why a source does not decode. -/
inductive DecodeCause where
  | fault (fault : Fault)
  | wrongType (found : Found) (expected : String)
  | wrongValue (found : Found) (expected : String)
  | wrongLength (length : Nat) (expected : String)
  | missingField (name : String)
  | duplicateField (name : String)
  | unknownVariant (name : String) (expected : String)
  deriving DecidableEq

/-- The wording of a cause. -/
def DecodeCause.message : DecodeCause → String
  | fault f => f.message
  | wrongType found expected => "invalid type: " ++ found.message ++ ", expected " ++ expected
  | wrongValue found expected => "invalid value: " ++ found.message ++ ", expected " ++ expected
  | wrongLength n expected => "invalid length " ++ toString n ++ ", expected " ++ expected
  | missingField name => "missing field `" ++ name ++ "`"
  | duplicateField name => "duplicate field `" ++ name ++ "`"
  | unknownVariant name expected => "unknown variant `" ++ name ++ "`, expected " ++ expected

/-- A complaint of a decoder, with its place in a text if there is one. -/
structure DecodeError where
  cause : DecodeCause
  place : Option Place
  deriving DecidableEq

/-- The wording of a complaint, its place last. -/
def DecodeError.message (e : DecodeError) : String :=
  match e.place with
  | none => e.cause.message
  | some p =>
    e.cause.message ++ " at line " ++ toString p.line ++ " column " ++ toString p.column

/-- The outcome of a decoder. -/
abbrev Decoding (α : Type) := Except DecodeError α

/-- A sequence comes to something if each of its parts does. -/
theorem Decoding.bind_eq_ok {α β : Type} {x : Decoding α} {f : α → Decoding β} {b : β} :
    (x >>= f) = .ok b ↔ ∃ a, x = .ok a ∧ f a = .ok b := by
  cases x with
  | error e => exact ⟨nofun, fun ⟨_, h, _⟩ => nomatch h⟩
  | ok a => exact ⟨fun h => ⟨a, rfl, h⟩, fun ⟨_, h, hf⟩ => Except.ok.inj h ▸ hf⟩

theorem Decoding.ok_bind {α β : Type} (a : α) (f : α → Decoding β) :
    ((.ok a : Decoding α) >>= f) = f a := rfl

namespace Json.Source

/-- A complaint about a fault of the text. -/
def faulty {α : Type} (f : Fault) (place : Option Place) : Decoding α :=
  .error ⟨.fault f, place⟩

/-- The complaint that something else was expected here. -/
def mismatch {α : Type} (expected : String) : Source → Decoding α
  | leaf v place => .error ⟨.wrongType (.ofJson v) expected, place⟩
  | list _ opened _ _ => .error ⟨.wrongType .list expected, opened⟩
  | object _ opened _ _ => .error ⟨.wrongType .object expected, opened⟩
  | broken f _ place => faulty f place

mutual

/-- The first fault that even skipping a value runs into. -/
def skipFault? : Source → Option (Fault × Place)
  | leaf _ _ => none
  | list items _ _ _ => skipItems? items
  | object members _ _ _ => skipMembers? members
  | broken _ skip place => skip.map (·, place)

/-- The first fault in skipping items. -/
def skipItems? : List (Option Place × Source) → Option (Fault × Place)
  | [] => none
  | (_, s) :: rest => skipFault? s <|> skipItems? rest

/-- The first fault in skipping members. -/
def skipMembers? : List (String × Option Place × Source) → Option (Fault × Place)
  | [] => none
  | (_, _, s) :: rest => skipFault? s <|> skipMembers? rest

end

/-- Skips a value. -/
def skip (s : Source) : Decoding Unit :=
  match s.skipFault? with
  | none => .ok ()
  | some (f, place) => faulty f place

/-! ## Values -/

mutual

/-- Reads a value as it is; the last of equal keys wins. -/
def value : Source → Decoding Json
  | leaf v _ => .ok v
  | list items opened _ deep => do
    if deep then faulty .tooDeep opened
    return .arr (← values items)
  | object members opened _ deep => do
    if deep then faulty .tooDeep opened
    return .obj (← memberValues members [])
  | broken f _ place => faulty f place

/-- Reads items as they are. -/
def values : List (Option Place × Source) → Decoding (List Json)
  | [] => .ok []
  | (_, s) :: rest => do
    let v ← value s
    return v :: (← values rest)

/-- Reads members as they are, on top of those read before. -/
def memberValues : List (String × Option Place × Source) → Fields → Decoding Fields
  | [], fs => .ok fs
  | (k, _, s) :: rest, fs => do
    let v ← value s
    memberValues rest (fs.insert k v)

end

/-- Reads a string. -/
def string : Source → Decoding String
  | leaf (.str s) _ => .ok s
  | s => s.mismatch "a string"

/-- Reads a truth value. -/
def bool : Source → Decoding Bool
  | leaf (.bool b) _ => .ok b
  | s => s.mismatch "a boolean"

/-- Reads a natural number below a limit, whose kind complaints name. -/
def nat (limit : Nat) (kind : String) : Source → Decoding Nat
  | leaf (.num (.int i)) place =>
    if 0 ≤ i ∧ i < (limit : Int) then .ok i.toNat
    else .error ⟨.wrongValue (.num (.int i)) kind, place⟩
  | s => s.mismatch kind

/-- Reads a natural number of 64 bits. -/
def nat64 : Source → Decoding Nat := nat 0x10000000000000000 "u64"

/-- Reads a natural number of 32 bits. -/
def nat32 : Source → Decoding Nat := nat 0x100000000 "u32"

/-- Reads a count, a natural number of 64 bits. -/
def count : Source → Decoding Nat := nat 0x10000000000000000 "usize"

/-- Reads a number of the binary format, rounding an integer to it. -/
def real : Source → Decoding Binary64
  | leaf (.num (.real x)) _ => .ok x
  | s@(leaf (.num (.int i)) _) =>
    match Binary64.ofInt? i with
    | some x => .ok x
    | none => s.mismatch "f64"
  | s => s.mismatch "f64"

/-- The value is null. -/
def isNull : Source → Bool
  | leaf .null _ => true
  | _ => false

/-- Reads a value that may be null. -/
def optional {α : Type} (s : Source) (decode : Source → Decoding α) : Decoding (Option α) :=
  if s.isNull then .ok none else return some (← decode s)

/-- Reads the members of an object as they are. -/
def fields : Source → Decoding Fields
  | object members opened _ deep => do
    if deep then faulty .tooDeep opened
    memberValues members []
  | s => s.mismatch "a map"

/-- Reads one of some names, written as a string or as the only key of an object with the value
null. -/
def name {α : Type} (of? : String → Option α) (known : String) (s : Source) : Decoding α :=
  let choose (n : String) (place : Option Place) : Decoding α :=
    match of? n with
    | some a => .ok a
    | none => .error ⟨.unknownVariant n known, place⟩
  match s with
  | leaf (.str n) place => choose n place
  | leaf v none => .error ⟨.wrongType (.ofJson v) "string or map", none⟩
  | list _ none _ _ => .error ⟨.wrongType .list "string or map", none⟩
  | leaf _ (some place) => faulty .expectedValue place
  | list _ (some opened) _ _ => faulty .expectedValue opened
  | object members opened closed deep => do
    if deep then faulty .tooDeep opened
    match members with
    | [(n, reached, v)] =>
      match v, reached with
      | broken f _ place, _ => faulty f place
      | leaf .null _, _ => choose n reached
      | v, _ =>
        let _ ← choose n reached
        v.mismatch "unit"
    | (n, reached, v) :: _ =>
      if opened.isNone then .error ⟨.wrongValue .object "map with a single key", none⟩
      else
        let _ ← choose n reached
        let _ ← v.value
        faulty .expectedValue closed
    | [] =>
      if opened.isNone then .error ⟨.wrongValue .object "map with a single key", none⟩
      else faulty .expectedValue closed
  | broken f _ place => faulty f place

/-! ## Walking over parts -/

/-- An item of a list is smaller than the list. -/
private theorem sizeOf_item {items : List (Option Place × Source)} {o c : Option Place} {d : Bool}
    {x : Option Place × Source} (h : x ∈ items) : sizeOf x.2 < sizeOf (list items o c d) := by
  have := List.sizeOf_lt_of_mem h
  obtain ⟨p, s⟩ := x
  simp only [Prod.mk.sizeOf_spec, list.sizeOf_spec] at *
  omega

/-- A member of an object is smaller than the object. -/
private theorem sizeOf_member {members : List (String × Option Place × Source)}
    {o c : Option Place} {d : Bool} {x : String × Option Place × Source} (h : x ∈ members) :
    sizeOf x.2.2 < sizeOf (object members o c d) := by
  have := List.sizeOf_lt_of_mem h
  obtain ⟨k, p, s⟩ := x
  simp only [Prod.mk.sizeOf_spec, object.sizeOf_spec] at *
  omega

/-- Decodes items one after the other. -/
def decodeItems {α : Type} {bound : Nat} (decode : (s : Source) → sizeOf s < bound → Decoding α) :
    (items : List (Option Place × Source)) → (∀ x ∈ items, sizeOf x.2 < bound) →
    Decoding (List α)
  | [], _ => .ok []
  | x :: rest, h => do
    let a ← decode x.2 (h x (by simp))
    return a :: (← decodeItems decode rest fun y hy => h y (by simp [hy]))

/-- Decodes a list. -/
def listOf {α : Type} (s : Source) (decode : (t : Source) → sizeOf t < sizeOf s → Decoding α) :
    Decoding (List α) :=
  match s with
  | list items opened _ deep => do
    if deep then faulty .tooDeep opened
    decodeItems decode items fun _ h => sizeOf_item h
  | s => s.mismatch "a sequence"

/-- Decodes members one after the other, in the order they stand in. -/
def decodeMembers {α : Type} {bound : Nat}
    (decode : (s : Source) → sizeOf s < bound → Decoding α) :
    (members : List (String × Option Place × Source)) → (∀ x ∈ members, sizeOf x.2.2 < bound) →
    Decoding (List (String × α))
  | [], _ => .ok []
  | x :: rest, h => do
    let a ← decode x.2.2 (h x (by simp))
    return (x.1, a) :: (← decodeMembers decode rest fun y hy => h y (by simp [hy]))

/-- Decodes an object whose members all have one type. -/
def mapOf {α : Type} (s : Source) (decode : (t : Source) → sizeOf t < sizeOf s → Decoding α) :
    Decoding (List (String × α)) :=
  match s with
  | object members opened _ deep => do
    if deep then faulty .tooDeep opened
    decodeMembers decode members fun _ h => sizeOf_member h
  | s => s.mismatch "a map"

/-! ## Records -/

/-- How the walk over a record ended: at the brace of an object, or after so many items. -/
inductive Ending where
  | object (closed : Option Place)
  | list (count : Nat) (closed : Option Place)

/-- The name of a record and those of its fields, in order. -/
structure Layout where
  title : String
  fields : List String

/-- What a complaint about the length of a record expects. -/
def Layout.full (l : Layout) : String :=
  "struct " ++ l.title ++ " with " ++ toString l.fields.length ++ " elements"

/-- The complaint that a field is missing: by its name, or in a list by its index. -/
def Ending.missing {α : Type} (e : Ending) (l : Layout) (field : String) : Decoding α :=
  match e with
  | .object closed => .error ⟨.missingField field, closed⟩
  | .list _ closed => .error ⟨.wrongLength (l.fields.idxOf field) l.full, closed⟩

/-- The value of a field that has to be there. -/
def Ending.require {α : Type} (e : Ending) (l : Layout) (field : String) :
    Option α → Decoding α
  | some a => .ok a
  | none => e.missing l field

/-- Checks a field that may be missing from an object but not from a list. -/
def Ending.requireInList (e : Ending) (l : Layout) (field : String) : Decoding Unit :=
  match e with
  | .object _ => .ok ()
  | .list n _ => if n ≤ l.fields.idxOf field then e.missing l field else .ok ()

/-- Decodes the members of a record into a draft. -/
def foldMembers {δ : Type} {bound : Nat} (known : List String)
    (step : String → (s : Source) → sizeOf s < bound → δ → Decoding δ) :
    (members : List (String × Option Place × Source)) → (∀ x ∈ members, sizeOf x.2.2 < bound) →
    List String → δ → Decoding δ
  | [], _, _, d => .ok d
  | x :: rest, h, seen, d => do
    if let (none, broken f _ place) := (x.2.1, x.2.2) then faulty f place
    let next := foldMembers known step rest fun y hy => h y (by simp [hy])
    if !known.contains x.1 then
      x.2.2.skip
      next seen d
    else if seen.contains x.1 then .error ⟨.duplicateField x.1, x.2.1⟩
    else
      let d ← step x.1 x.2.2 (h x (by simp)) d
      next (x.1 :: seen) d

/-- The complaint about an item behind the last field of a record. -/
def surplus {α : Type} (count : Nat) : Option Place × Source → Decoding α
  | (none, _) => .error ⟨.wrongLength count "fewer elements in array", none⟩
  | (some place, broken .trailingComma _ _) => faulty .trailingComma place
  | (some place, broken .endInList _ _) => faulty .endInList place
  | (some place, _) => faulty .trailingCharacters place

/-- Decodes the items of a record written as a list into a draft. -/
def foldItems {δ : Type} {bound : Nat} (total : Nat)
    (step : String → (s : Source) → sizeOf s < bound → δ → Decoding δ) :
    List String → (items : List (Option Place × Source)) → (∀ x ∈ items, sizeOf x.2 < bound) →
    δ → Decoding δ
  | _, [], _, d => .ok d
  | [], x :: _, _, _ => surplus total x
  | field :: fields, x :: rest, h, d => do
    let d ← step field x.2 (h x (by simp)) d
    foldItems total step fields rest (fun y hy => h y (by simp [hy])) d

/-- Decodes a record into a draft, and tells how it ended. -/
def record {δ : Type} (s : Source) (l : Layout) (draft : δ)
    (step : String → (t : Source) → sizeOf t < sizeOf s → δ → Decoding δ) :
    Decoding (δ × Ending) :=
  match s with
  | object members opened closed deep => do
    if deep then faulty .tooDeep opened
    let d ← foldMembers l.fields step members (fun _ h => sizeOf_member h) [] draft
    return (d, .object closed)
  | list items opened closed deep => do
    if deep then faulty .tooDeep opened
    let d ← foldItems items.length step l.fields items (fun _ h => sizeOf_item h) draft
    return (d, .list items.length closed)
  | s => s.mismatch ("struct " ++ l.title)

end Json.Source

/-- Decodes a text: one value, and nothing but blanks behind it. -/
def Json.decodeText {α : Type} (text : String) (decode : Json.Source → Decoding α) :
    Decoding α := do
  let (source, extra) := Json.Source.ofText text
  let a ← decode source
  match extra with
  | none => return a
  | some place => .error ⟨.fault .trailingCharacters, some place⟩

/-- The value of a text. -/
def Json.parse (text : String) : Decoding Json := Json.decodeText text Json.Source.value

end RemoteScreen
