import RemoteScreen.Json.Printer
import RemoteScreen.Proofs.Number.Written

/-!
# Proofs/Json/Text — a value is told by its text

The texts of values are a prefix code: what begins with the text of a value, and does not go on with
another character of a number, begins with the text of no other value (`chars_append`).  So **values
with one text are equal** (`text_injective`), and members of an object need no order for that.
-/

namespace RemoteScreen

/-! ## Numbers -/

namespace Number

open Binary64

/-- What is written of a number without its sign. -/
def absChars : Number → List Char
  | int i => Nat.toDigits 10 i.natAbs
  | real x => x.absChars

/-- The number is written with a sign. -/
def isSigned : Number → Bool
  | int i => i < 0
  | real x => x.negative

theorem chars_eq (n : Number) :
    n.chars = (if n.isSigned then ['-'] else []) ++ n.absChars := by
  cases n with
  | int i => simp [chars, isSigned, absChars]
  | real x => rfl

/-- The text of a number starts with a digit after its sign. -/
theorem head_absChars (n : Number) : ∃ c cs, n.absChars = c :: cs ∧ c.isDigit = true := by
  cases n with
  | int i =>
    obtain ⟨c, cs, h⟩ := List.exists_cons_of_ne_nil
      (Nat.toDigits_ne_nil (n := i.natAbs) (b := 10))
    refine ⟨c, cs, h, allDigits_toDigits i.natAbs c ?_⟩
    rw [h]
    exact List.mem_cons_self
  | real x => exact x.head_absChars

/-- It has only characters of numbers. -/
theorem all_isNumeric_chars (n : Number) : n.chars.all isNumeric = true := by
  rw [chars_eq, List.all_append, Bool.and_eq_true]
  refine ⟨by split <;> rfl, ?_⟩
  cases n with
  | int i => exact (allDigits_toDigits _).all_isNumeric
  | real x => exact x.all_isNumeric_absChars

/-- A sign is not a digit, so it can be told from what it stands before. -/
theorem isSigned_and_absChars {m n : Number} (h : m.chars = n.chars) :
    m.isSigned = n.isSigned ∧ m.absChars = n.absChars := by
  obtain ⟨c, cs, hm, hc⟩ := m.head_absChars
  obtain ⟨d, ds, hn, hd⟩ := n.head_absChars
  rw [chars_eq, chars_eq, hm, hn] at h
  rw [hm, hn]
  cases hsm : m.isSigned <;> cases hsn : n.isSigned <;> rw [hsm, hsn] at h
  · exact ⟨rfl, h⟩
  · obtain rfl : c = '-' := (List.cons.inj h).1
    exact absurd hc (by decide)
  · obtain rfl : '-' = d := (List.cons.inj h).1
    exact absurd hd (by decide)
  · exact ⟨rfl, (List.cons.inj h).2⟩

/-- **Numbers with one text are equal.** -/
theorem chars_injective {m n : Number} (h : m.chars = n.chars) : m = n := by
  obtain ⟨hsign, habs⟩ := isSigned_and_absChars h
  have hforms (i : Int) (x : Binary64) : (int i).absChars ≠ (real x).absChars := by
    intro heq
    obtain ⟨c, hc, hnot⟩ := x.exists_not_isDigit_absChars
    have hmem : c ∈ Nat.toDigits 10 i.natAbs := by
      rw [show Nat.toDigits 10 i.natAbs = x.absChars from heq]
      exact hc
    rw [allDigits_toDigits i.natAbs c hmem] at hnot
    cases hnot
  match m, n with
  | int i, int j =>
    have hvalue := congrArg Numeral.digitsValue habs
    rw [absChars, absChars, digitsValue_toDigits, digitsValue_toDigits] at hvalue
    have hlt : i < 0 ↔ j < 0 := by simpa [isSigned] using hsign
    congr 1
    omega
  | real x, real y => rw [toChars_injective h]
  | int i, real x => exact absurd habs (hforms i x)
  | real x, int i => exact absurd habs.symm (hforms i x)

end Number

namespace Json

/-! ## Strings -/

/-- The value of a digit of base sixteen in lower case. -/
def hexValue (c : Char) : Nat := if c.isDigit then c.toNat - 48 else c.toNat - 87

/-- The first character that is meant, and what is left. -/
def unescape : List Char → Option (Char × List Char)
  | '\\' :: 'u' :: _ :: _ :: a :: b :: r =>
    some (Char.ofNat (16 * hexValue a + hexValue b), r)
  | '\\' :: 'b' :: r => some ('\x08', r)
  | '\\' :: 'f' :: r => some ('\x0c', r)
  | '\\' :: 'n' :: r => some ('\n', r)
  | '\\' :: 'r' :: r => some ('\r', r)
  | '\\' :: 't' :: r => some ('\t', r)
  | '\\' :: c :: r => some (c, r)
  | c :: r => some (c, r)
  | [] => none

/-- Two hexadecimal digits spell the control character. -/
theorem hexValue_hexDigit :
    ∀ n < 0x20, 16 * hexValue (hexDigit (n / 16)) + hexValue (hexDigit n) = n := by
  decide

/-- **A character is told by the way it is escaped.** -/
theorem unescape_escape (c : Char) (r : List Char) : unescape (escape c ++ r) = some (c, r) := by
  rw [escape]
  repeat' split
  all_goals first | (subst_vars; rfl) | skip
  · next hctl =>
    have := hexValue_hexDigit c.toNat hctl
    simp only [List.cons_append, List.nil_append, unescape, this, Char.ofNat_toNat]
  · next hb _ _ _ _ _ _ =>
    simp only [List.cons_append, List.nil_append]
    rw [unescape.eq_def]
    split <;> simp_all

/-- **An escaped character can be told from what follows it.** -/
theorem escape_append {c d : Char} {r r' : List Char}
    (h : escape c ++ r = escape d ++ r') : c = d ∧ r = r' := by
  have hread := unescape_escape c r
  rw [h, unescape_escape d r'] at hread
  obtain ⟨rfl, rfl⟩ := Prod.mk.inj (Option.some.inj hread)
  exact ⟨rfl, rfl⟩

/-- The quote at the end of a string is not a character of it. -/
theorem escape_ne_quote (c : Char) (r s : List Char) : escape c ++ r ≠ '"' :: s := by
  intro h
  rw [escape] at h
  repeat' split at h
  all_goals simp_all

/-- So can a whole string up to its closing quote. -/
theorem flatMap_escape_append {cs ds : List Char} {s t : List Char}
    (h : cs.flatMap escape ++ '"' :: s = ds.flatMap escape ++ '"' :: t) : cs = ds ∧ s = t := by
  induction cs generalizing ds with
  | nil =>
    cases ds with
    | nil => exact ⟨rfl, (List.cons.inj h).2⟩
    | cons d ds =>
      rw [List.flatMap_cons, List.append_assoc] at h
      exact absurd h.symm (escape_ne_quote d _ s)
  | cons c cs ih =>
    cases ds with
    | nil =>
      rw [List.flatMap_cons, List.append_assoc] at h
      exact absurd h (escape_ne_quote c _ t)
    | cons d ds =>
      rw [List.flatMap_cons, List.flatMap_cons, List.append_assoc, List.append_assoc] at h
      obtain ⟨rfl, htail⟩ := escape_append h
      obtain ⟨rfl, hrest⟩ := ih htail
      exact ⟨rfl, hrest⟩

/-- So can a quoted string. -/
theorem quote_append {k l : String} {s t : List Char} (h : quote k ++ s = quote l ++ t) :
    k = l ∧ s = t := by
  simp only [quote, List.cons_append, List.append_assoc, List.cons.injEq, true_and] at h
  obtain ⟨hk, hs⟩ := flatMap_escape_append h
  exact ⟨String.toList_inj.1 hk, hs⟩

/-! ## Values -/

/-- What kind of value begins with a character. -/
def kindOf (c : Char) : Option Nat :=
  if c = 'n' then some 0 else if c = 't' ∨ c = 'f' then some 1
  else if c.isDigit ∨ c = '-' then some 2 else if c = '"' then some 3
  else if c = '[' then some 4 else if c = '\x7b' then some 5 else none

/-- The kind of a value. -/
def kind : Json → Nat
  | null => 0
  | bool _ => 1
  | num _ => 2
  | str _ => 3
  | arr _ => 4
  | obj _ => 5

/-- The first character of a text gives the kind of value away. -/
theorem head_chars (j : Json) : ∃ c cs, j.chars = c :: cs ∧ kindOf c = some j.kind := by
  match j with
  | null => exact ⟨_, _, by rw [chars], rfl⟩
  | bool true => exact ⟨_, _, by rw [chars], rfl⟩
  | bool false => exact ⟨_, _, by rw [chars], rfl⟩
  | str s => exact ⟨_, _, by rw [chars, quote]; rfl, rfl⟩
  | arr xs => exact ⟨_, _, by rw [chars]; rfl, rfl⟩
  | obj xs => exact ⟨_, _, by rw [chars]; rfl, rfl⟩
  | num n =>
    rw [chars, Number.chars_eq, kind]
    split
    · exact ⟨_, _, rfl, rfl⟩
    · obtain ⟨c, cs, h, hc⟩ := n.head_absChars
      refine ⟨c, cs, h, ?_⟩
      have hne (d : Char) (hd : d.isDigit = false) : c ≠ d := by
        rintro rfl
        rw [hd] at hc
        cases hc
      simp [kindOf, hc, hne 'n' rfl, hne 't' rfl, hne 'f' rfl]

/-- Does not go on with a character of a number. -/
def Delimits (s : List Char) : Prop := ∀ c ∈ s.head?, Binary64.isNumeric c = false

theorem delimits_nil : Delimits [] := by simp [Delimits]

/-- A number can be told from what follows it, if that does not go on like a number. -/
theorem number_append {m n : Number} {s t : List Char} (hs : Delimits s) (ht : Delimits t)
    (h : m.chars ++ s = n.chars ++ t) : m = n ∧ s = t := by
  have htake (n : Number) {s : List Char} (hs : Delimits s) :
      (n.chars ++ s).takeWhile Binary64.isNumeric = n.chars := by
    rw [List.takeWhile_append_of_pos (List.all_eq_true.1 n.all_isNumeric_chars)]
    cases s with
    | nil => simp
    | cons c s => simp [hs c rfl]
  have hchars := htake m hs
  rw [h, htake n ht] at hchars
  obtain rfl := Number.chars_injective hchars
  exact ⟨rfl, List.append_cancel_left h⟩

/-- The items behind the first, each after a comma, and the bracket that ends them. -/
def itemTail : List Json → List Char → List Char
  | [], s => ']' :: s
  | x :: xs, s => ',' :: (chars x ++ itemTail xs s)

/-- The members behind the first, each after a comma, and the brace that ends them. -/
def fieldTail : List (String × Json) → List Char → List Char
  | [], s => '\x7d' :: s
  | (k, x) :: xs, s => ',' :: (quote k ++ ':' :: (chars x ++ fieldTail xs s))

theorem itemChars_cons (x : Json) (xs : List Json) (s : List Char) :
    itemChars (x :: xs) ++ ']' :: s = chars x ++ itemTail xs s := by
  induction xs generalizing x with
  | nil => rw [itemChars, itemTail]
  | cons y xs ih => rw [itemChars, itemTail, List.append_assoc, List.cons_append, ih]

theorem fieldChars_cons (k : String) (x : Json) (xs : List (String × Json)) (s : List Char) :
    fieldChars ((k, x) :: xs) ++ '\x7d' :: s = quote k ++ ':' :: (chars x ++ fieldTail xs s) := by
  induction xs generalizing k x with
  | nil => simp [fieldChars, fieldTail]
  | cons m xs ih =>
    obtain ⟨l, y⟩ := m
    rw [fieldChars, fieldTail]
    simp [ih]

theorem itemTail_delimits (xs : List Json) (s : List Char) : Delimits (itemTail xs s) := by
  cases xs <;> simp [Delimits, itemTail] <;> rfl

theorem fieldTail_delimits (xs : List (String × Json)) (s : List Char) :
    Delimits (fieldTail xs s) := by
  cases xs <;> simp [Delimits, fieldTail] <;> rfl

/-- Texts that are equal start values of one kind. -/
theorem kind_eq {a b : Json} {s t : List Char} (h : a.chars ++ s = b.chars ++ t) :
    a.kind = b.kind := by
  obtain ⟨c, cs, ha, hc⟩ := a.head_chars
  obtain ⟨d, ds, hb, hd⟩ := b.head_chars
  rw [ha, hb] at h
  rw [(List.cons.inj h).1, hd] at hc
  exact (Option.some.inj hc).symm

/-- No value begins like the end of a list. -/
theorem chars_append_ne (a : Json) (s t : List Char) {c : Char} (hc : kindOf c = none) :
    a.chars ++ s ≠ c :: t := by
  intro h
  obtain ⟨d, ds, ha, hd⟩ := a.head_chars
  rw [ha] at h
  rw [(List.cons.inj h).1, hc] at hd
  cases hd

mutual

/-- **The texts of values are a prefix code.** -/
theorem chars_append : (a b : Json) → {s t : List Char} → Delimits s → Delimits t →
    a.chars ++ s = b.chars ++ t → a = b ∧ s = t
  | a, b, s, t, hs, ht, h => by
    have hkind := kind_eq h
    match a, b with
    | null, null =>
      rw [chars] at h
      exact ⟨rfl, List.append_cancel_left h⟩
    | bool x, bool y =>
      cases x <;> cases y <;> simp only [chars] at h
      · exact ⟨rfl, List.append_cancel_left h⟩
      · cases (List.cons.inj h).1
      · cases (List.cons.inj h).1
      · exact ⟨rfl, List.append_cancel_left h⟩
    | num m, num n =>
      rw [chars, chars] at h
      obtain ⟨rfl, hst⟩ := number_append hs ht h
      exact ⟨rfl, hst⟩
    | str k, str l =>
      rw [chars, chars] at h
      obtain ⟨rfl, hst⟩ := quote_append h
      exact ⟨rfl, hst⟩
    | arr xs, arr ys =>
      simp only [chars, List.cons_append, List.append_assoc, List.nil_append,
        List.cons.injEq, true_and] at h
      obtain ⟨rfl, hst⟩ := items_append xs ys h
      exact ⟨rfl, hst⟩
    | obj xs, obj ys =>
      simp only [chars, List.cons_append, List.append_assoc, List.nil_append,
        List.cons.injEq, true_and] at h
      obtain ⟨rfl, hst⟩ := fields_append xs ys h
      exact ⟨rfl, hst⟩

/-- The items of a list can be told from what follows them. -/
theorem items_append : (xs ys : List Json) → {s t : List Char} →
    itemChars xs ++ ']' :: s = itemChars ys ++ ']' :: t → xs = ys ∧ s = t
  | [], [], _, _, h => ⟨rfl, (List.cons.inj h).2⟩
  | [], y :: ys, s, t, h => by
    rw [itemChars_cons] at h
    exact absurd h.symm (chars_append_ne y _ s rfl)
  | x :: xs, [], s, t, h => by
    rw [itemChars_cons] at h
    exact absurd h (chars_append_ne x _ t rfl)
  | x :: xs, y :: ys, s, t, h => by
    rw [itemChars_cons, itemChars_cons] at h
    obtain ⟨rfl, htail⟩ :=
      chars_append x y (itemTail_delimits xs s) (itemTail_delimits ys t) h
    obtain ⟨rfl, hst⟩ := itemTail_append xs ys htail
    exact ⟨rfl, hst⟩

theorem itemTail_append : (xs ys : List Json) → {s t : List Char} →
    itemTail xs s = itemTail ys t → xs = ys ∧ s = t
  | [], [], _, _, h => ⟨rfl, (List.cons.inj h).2⟩
  | [], y :: ys, _, _, h => by cases (List.cons.inj h).1
  | x :: xs, [], _, _, h => by cases (List.cons.inj h).1
  | x :: xs, y :: ys, s, t, h => by
    obtain ⟨rfl, htail⟩ := chars_append x y (itemTail_delimits xs s) (itemTail_delimits ys t)
      (List.cons.inj h).2
    obtain ⟨rfl, hst⟩ := itemTail_append xs ys htail
    exact ⟨rfl, hst⟩

/-- So can the fields of an object. -/
theorem fields_append : (xs ys : List (String × Json)) → {s t : List Char} →
    fieldChars xs ++ '\x7d' :: s = fieldChars ys ++ '\x7d' :: t → xs = ys ∧ s = t
  | [], [], _, _, h => ⟨rfl, (List.cons.inj h).2⟩
  | [], (l, y) :: ys, s, t, h => by
    rw [fieldChars_cons] at h
    cases (List.cons.inj h).1
  | (k, x) :: xs, [], s, t, h => by
    rw [fieldChars_cons] at h
    cases (List.cons.inj h).1
  | (k, x) :: xs, (l, y) :: ys, s, t, h => by
    rw [fieldChars_cons, fieldChars_cons] at h
    obtain ⟨rfl, hvalue⟩ := quote_append h
    obtain ⟨rfl, htail⟩ := chars_append x y (fieldTail_delimits xs s) (fieldTail_delimits ys t)
      (List.cons.inj hvalue).2
    obtain ⟨rfl, hst⟩ := fieldTail_append xs ys htail
    exact ⟨rfl, hst⟩

theorem fieldTail_append : (xs ys : List (String × Json)) → {s t : List Char} →
    fieldTail xs s = fieldTail ys t → xs = ys ∧ s = t
  | [], [], _, _, h => ⟨rfl, (List.cons.inj h).2⟩
  | [], (_, _) :: _, _, _, h => by cases (List.cons.inj h).1
  | (_, _) :: _, [], _, _, h => by cases (List.cons.inj h).1
  | (k, x) :: xs, (l, y) :: ys, s, t, h => by
    obtain ⟨rfl, hvalue⟩ := quote_append (List.cons.inj h).2
    obtain ⟨rfl, htail⟩ := chars_append x y (fieldTail_delimits xs s) (fieldTail_delimits ys t)
      (List.cons.inj hvalue).2
    obtain ⟨rfl, hst⟩ := fieldTail_append xs ys htail
    exact ⟨rfl, hst⟩

end

/-- **Values with one text are equal.** -/
theorem text_injective {a b : Json} (h : a.text = b.text) : a = b := by
  have hchars : a.chars ++ [] = b.chars ++ [] := by
    rw [List.append_nil, List.append_nil]
    exact String.ofList_inj.1 h
  exact (chars_append a b delimits_nil delimits_nil hchars).1

end Json

end RemoteScreen
