import RemoteScreen.Proofs.Json.Text

/-!
# Proofs/Json/Strings — where the strings of a text are

    {"a|b":[1,"\\"]}      outside ─"─▸ inside ─"─▸ outside,   inside ─\─▸ escaped ─▸ inside

Read character by character, the text of a value begins and ends **outside** of strings, and a bar
stands in it only **inside** of one (`scan_chars`).  Read from inside, the quotes of a text part
inside from outside the other way round; so **no text of a value ends with a bar and the text of
another one** (`chars_ne_append_bar`).
-/

namespace RemoteScreen.Json

/-- Where a reader of a text is: outside of strings, inside of one, or behind a backslash there. -/
inductive Quoting where
  | outside
  | inside
  | escaped
  deriving DecidableEq

namespace Quoting

/-- Where the reader is behind a character; nowhere if the character cannot stand there. -/
def next : Quoting → Char → Option Quoting
  | outside, c => if c = '"' then some inside else if c = '\\' ∨ c = '|' then none else some outside
  | inside, c => if c = '"' then some outside else if c = '\\' then some escaped else some inside
  | escaped, c => if c = '|' then none else some inside

/-- Where the reader is behind some characters. -/
def scan (p : Quoting) (cs : List Char) : Option Quoting := cs.foldlM next p

@[simp] theorem scan_nil (p : Quoting) : p.scan [] = some p := rfl

@[simp] theorem scan_cons (p : Quoting) (c : Char) (cs : List Char) :
    p.scan (c :: cs) = (p.next c).bind (·.scan cs) := List.foldlM_cons

theorem scan_append (p : Quoting) (cs ds : List Char) :
    p.scan (cs ++ ds) = (p.scan cs).bind (·.scan ds) := List.foldlM_append

/-! ## Read from outside -/

/-- Characters that are neither quotes, backslashes nor bars stay outside. -/
theorem scan_outside {cs : List Char} (h : ∀ c ∈ cs, c ≠ '"' ∧ c ≠ '\\' ∧ c ≠ '|') :
    outside.scan cs = some outside := by
  induction cs with
  | nil => rfl
  | cons c cs ih =>
    obtain ⟨hq, hs, hb⟩ := h c List.mem_cons_self
    have hc : outside.next c = some outside := by simp [next, hq, hs, hb]
    rw [scan_cons, hc]
    exact ih fun d hd => h d (List.mem_cons_of_mem c hd)

/-- A number opens no string. -/
theorem scan_number (n : Number) : outside.scan n.chars = some outside := by
  refine scan_outside fun c hc => ?_
  have hnum := List.all_eq_true.1 n.all_isNumeric_chars c hc
  refine ⟨?_, ?_, ?_⟩ <;> rintro rfl <;> exact absurd hnum (by decide)

theorem next_hexDigit (n : Nat) : inside.next (hexDigit n) = some inside := by
  have hdigits : ∀ k < 16, inside.next (Nat.digitChar k) = some inside := by decide
  exact hdigits (n % 16) (Nat.mod_lt n (by decide))

/-- However a character is escaped, it stays inside. -/
theorem scan_escape (c : Char) : inside.scan (escape c) = some inside := by
  rw [escape]
  repeat' split
  all_goals try rfl
  · have hcode : inside.scan ['\\', 'u', '0', '0'] = some inside := rfl
    rw [show ['\\', 'u', '0', '0', hexDigit (c.toNat / 16), hexDigit c.toNat]
        = ['\\', 'u', '0', '0'] ++ [hexDigit (c.toNat / 16), hexDigit c.toNat] from rfl,
      scan_append, hcode]
    simp [next_hexDigit]
  · next hq hs _ _ _ _ _ _ => simp [next, hq, hs]

/-- **Escaped text leaves the string it stands in open.** -/
theorem scan_flatMap_escape (cs : List Char) : inside.scan (cs.flatMap escape) = some inside := by
  induction cs with
  | nil => rfl
  | cons c cs ih => rw [List.flatMap_cons, scan_append, scan_escape, Option.bind_some, ih]

/-- A quoted string is closed at its end. -/
theorem scan_quote (s : String) : outside.scan (quote s) = some outside := by
  have hopen : outside.next '"' = some inside := rfl
  rw [quote, List.cons_append, scan_cons, hopen, Option.bind_some, scan_append,
    scan_flatMap_escape]
  rfl

/-- A text that ends outside strings leaves the scan as it was. -/
theorem scan_outside_append {cs : List Char} (hc : outside.scan cs = some outside)
    (ds : List Char) : outside.scan (cs ++ ds) = outside.scan ds := by
  rw [scan_append, hc, Option.bind_some]

mutual

/-- **The text of a value begins and ends outside**, and each of its characters stands where it
can. -/
theorem scan_chars : (j : Json) → outside.scan j.chars = some outside
  | null | bool true | bool false => by rw [chars]; rfl
  | num n => by rw [chars, scan_number]
  | str s => by rw [chars, scan_quote]
  | arr items => by
    have hopen : outside.scan ['['] = some outside := rfl
    rw [chars, ← List.singleton_append, List.append_assoc, scan_outside_append hopen,
      scan_outside_append (scan_itemChars items)]
    rfl
  | obj fields => by
    have hopen : outside.scan ['\x7b'] = some outside := rfl
    rw [chars, ← List.singleton_append, List.append_assoc, scan_outside_append hopen,
      scan_outside_append (scan_fieldChars fields)]
    rfl

/-- The items of a list end outside strings. -/
theorem scan_itemChars : (items : List Json) → outside.scan (itemChars items) = some outside
  | [] => rfl
  | [x] => by rw [itemChars, scan_chars x]
  | x :: y :: rest => by
    have hcomma : outside.scan [','] = some outside := rfl
    rw [itemChars, scan_outside_append (scan_chars x), ← List.singleton_append,
      scan_outside_append hcomma, scan_itemChars (y :: rest)]

theorem scan_fieldChars : (fields : List (String × Json)) →
    outside.scan (fieldChars fields) = some outside
  | [] => rfl
  | [(k, x)] => by
    have hcolon : outside.scan [':'] = some outside := rfl
    rw [fieldChars, scan_outside_append (scan_quote k), ← List.singleton_append,
      scan_outside_append hcolon, scan_chars x]
  | (k, x) :: m :: rest => by
    have hcolon : outside.scan [':'] = some outside := rfl
    have hcomma : outside.scan [','] = some outside := rfl
    rw [fieldChars, List.append_assoc, scan_outside_append (scan_quote k),
      ← List.singleton_append, List.append_assoc, scan_outside_append hcolon,
      scan_outside_append (scan_chars x), ← List.singleton_append, scan_outside_append hcomma,
      scan_fieldChars (m :: rest)]

end

/-! ## Read from inside -/

/-- Behind a bar that stands where it can is the inside of a string. -/
theorem next_bar {p q : Quoting} (h : p.next '|' = some q) : q = inside := by
  cases p with
  | outside | escaped => simp [next] at h
  | inside => exact (Option.some.inj h).symm

/-- Of two readers one is outside and the other one inside. -/
def Across (p q : Quoting) : Prop := p = outside ∧ q = inside ∨ p = inside ∧ q = outside

theorem Across.symm {p q : Quoting} (h : Across p q) : Across q p :=
  Or.symm (h.imp And.symm And.symm)

/-- A quote takes both readers across, and a backslash is not where both can go on. -/
theorem across_next {c : Char} {p q : Quoting} (hp : outside.next c = some p)
    (hq : inside.next c = some q) : Across p q := by
  by_cases hquote : c = '"'
  · subst hquote
    exact .inr ⟨(Option.some.inj hp).symm, (Option.some.inj hq).symm⟩
  · by_cases hslash : c = '\\'
    · subst hslash
      simp [next] at hp
    · rw [next, if_neg hquote] at hp
      rw [next, if_neg hquote, if_neg hslash] at hq
      split at hp
      · cases hp
      · exact .inl ⟨(Option.some.inj hp).symm, (Option.some.inj hq).symm⟩

/-- **Readers on either side of a quote never agree**, as long as both can go on. -/
theorem Across.scan {cs : List Char} {p q p' q' : Quoting} (h : Across p q)
    (hp : p.scan cs = some p') (hq : q.scan cs = some q') : Across p' q' := by
  induction cs generalizing p q with
  | nil =>
    obtain rfl := Option.some.inj hp
    obtain rfl := Option.some.inj hq
    exact h
  | cons c cs ih =>
    rw [scan_cons, Option.bind_eq_some_iff] at hp hq
    obtain ⟨p₁, hp₁, hp⟩ := hp
    obtain ⟨q₁, hq₁, hq⟩ := hq
    refine ih ?_ hp hq
    rcases h with ⟨rfl, rfl⟩ | ⟨rfl, rfl⟩
    · exact across_next hp₁ hq₁
    · exact (across_next hq₁ hp₁).symm

end Quoting

/-- **No text of a value ends with a bar and the text of another one.** -/
theorem chars_ne_append_bar (a b : Json) (before : List Char) :
    a.chars ≠ before ++ '|' :: b.chars := by
  intro h
  have ha := Quoting.scan_chars a
  rw [h, Quoting.scan_append, Option.bind_eq_some_iff] at ha
  obtain ⟨p, -, ha⟩ := ha
  rw [Quoting.scan_cons, Option.bind_eq_some_iff] at ha
  obtain ⟨q, hq, ha⟩ := ha
  obtain rfl := Quoting.next_bar hq
  have hacross : Quoting.Across .outside .inside := .inl ⟨rfl, rfl⟩
  rcases hacross.scan (Quoting.scan_chars b) ha with ⟨-, h⟩ | ⟨h, -⟩ <;> cases h

end RemoteScreen.Json
