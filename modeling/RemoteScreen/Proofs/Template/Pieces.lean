import RemoteScreen.Template

/-!
# Proofs/Template/Pieces — the placeholders of a text

    \x7b \x7b \x7b name \x7d \x7d \x7d    ⟶    \x7b · ⟨name⟩ · \x7d

A **placeholder** stands wherever a body without braces, and not empty, is enclosed in double
braces.  That says nothing of a search: a text has all the placeholders that it has.

* `HoleAt.apart` — **placeholders do not overlap**;
* `cuts_iff` — so a text is cut at its placeholders in one way, and cutting it from the left is that
  way: **none is missed, and no other is made up**.
-/

namespace RemoteScreen.Template

/-- What a piece stands for in its template. -/
def Piece.source : Piece → List Char
  | char c => [c]
  | hole body => '\x7b' :: '\x7b' :: (body ++ ['\x7d', '\x7d'])

/-- What can be the body of a placeholder. -/
structure IsBody (body : List Char) : Prop where
  ne_nil : body ≠ []
  plain : ∀ c ∈ body, isBrace c = false

/-- A placeholder with a body stands behind so many characters of a text. -/
structure HoleAt (cs : List Char) (i : Nat) (body : List Char) : Prop where
  isBody : IsBody body
  stands : (Piece.hole body).source <+: cs.drop i

variable {cs rest body other : List Char} {i j : Nat} {p : Piece} {ps : List Piece}

theorem Piece.source_length_pos (p : Piece) : 0 < p.source.length := by
  cases p <;> simp [source]

/-! ## One placeholder -/

/-- A body is what stands before two closing braces, without a brace in it. -/
theorem body?_eq_some_iff :
    body? cs = some (body, rest) ↔ IsBody body ∧ cs = body ++ '\x7d' :: '\x7d' :: rest := by
  constructor
  · intro h
    have happend := List.takeWhile_append_dropWhile (p := (!isBrace ·)) (l := cs)
    have hplain : ∀ c ∈ cs.takeWhile (!isBrace ·), (!isBrace c) = true :=
      List.all_eq_true.1 List.all_takeWhile
    rw [body?] at h
    split at h
    · next r hd =>
      split at h
      · cases h
      · next hempty =>
        cases h
        exact ⟨⟨by simpa using hempty, by simpa using hplain⟩, by rw [← hd, happend]⟩
    · cases h
  · rintro ⟨hb, rfl⟩
    have hall : ∀ c ∈ body, (!isBrace c) = true := fun c hc => by simp [hb.plain c hc]
    rw [body?, List.takeWhile_append_of_pos hall, List.dropWhile_append_of_pos hall]
    simp [List.takeWhile, List.dropWhile, isBrace, hb.ne_nil]

/-- Of what a placeholder is made, only its beginning opens. -/
theorem IsBody.opens (hb : IsBody body) {k : Nat}
    (h : (Piece.hole body).source[k]? = some '\x7b') : k = 0 ∨ k = 1 := by
  match k with
  | 0 | 1 => simp
  | k + 2 =>
    have hmem : '\x7b' ∈ body ++ ['\x7d', '\x7d'] := List.mem_of_getElem? h
    rcases List.mem_append.1 hmem with hmem | hmem
    · exact absurd (hb.plain _ hmem) (by decide)
    · simp at hmem

theorem holeAt_append :
    HoleAt (p.source ++ cs) (p.source.length + i) body ↔ HoleAt cs i body := by
  have hdrop : (p.source ++ cs).drop (p.source.length + i) = cs.drop i :=
    List.drop_length_add_append i
  exact ⟨fun ⟨hb, h⟩ => ⟨hb, hdrop ▸ h⟩, fun ⟨hb, h⟩ => ⟨hb, hdrop ▸ h⟩⟩

theorem holeAt_drop : HoleAt (cs.drop i) j body ↔ HoleAt cs (i + j) body := by
  have hdrop : (cs.drop i).drop j = cs.drop (i + j) := List.drop_drop
  exact ⟨fun ⟨hb, h⟩ => ⟨hb, hdrop ▸ h⟩, fun ⟨hb, h⟩ => ⟨hb, hdrop ▸ h⟩⟩

namespace HoleAt

theorem lt_length (h : HoleAt cs i body) : i < cs.length := by
  have hlength := h.stands.length_le
  have := (Piece.hole body).source_length_pos
  rw [List.length_drop] at hlength
  omega

theorem body?_eq (h : HoleAt cs i body) :
    ∃ rest, cs.drop i = '\x7b' :: '\x7b' :: (body ++ '\x7d' :: '\x7d' :: rest)
      ∧ body? (body ++ '\x7d' :: '\x7d' :: rest) = some (body, rest) := by
  obtain ⟨rest, hrest⟩ := h.stands
  exact ⟨rest, by simpa [Piece.source] using hrest.symm, body?_eq_some_iff.2 ⟨h.isBody, rfl⟩⟩

/-- A placeholder has one body. -/
theorem unique (hb : HoleAt cs i body) (ho : HoleAt cs i other) : body = other := by
  obtain ⟨rest, hrest, hbody⟩ := hb.body?_eq
  obtain ⟨rest', hrest', hother⟩ := ho.body?_eq
  simp only [hrest, List.cons.injEq, true_and] at hrest'
  rw [hrest', hother] at hbody
  exact congrArg Prod.fst (Option.some.inj hbody).symm

/-- A hole in a text is there character by character. -/
theorem getElem? (h : HoleAt cs i body) {k : Nat} (hk : k < (Piece.hole body).source.length) :
    cs[i + k]? = (Piece.hole body).source[k]? := by
  rw [← List.getElem?_drop, List.prefix_iff_getElem?.1 h.stands k hk, List.getElem?_eq_getElem hk]

/-- **Placeholders do not overlap.** -/
theorem apart (hi : HoleAt cs i body) (hj : HoleAt cs j other) (hij : i ≤ j) :
    i = j ∧ body = other ∨ i + (Piece.hole body).source.length ≤ j := by
  obtain ⟨k, rfl⟩ := Nat.exists_eq_add_of_le hij
  by_cases hk : k < (Piece.hole body).source.length
  · have hfirst : cs[i + k]? = some '\x7b' := hj.getElem? (k := 0) (by simp [Piece.source])
    have hsecond : cs[i + k + 1]? = some '\x7b' := hj.getElem? (k := 1) (by simp [Piece.source])
    rcases hi.isBody.opens ((hi.getElem? hk).symm.trans hfirst) with rfl | rfl
    · exact .inl ⟨rfl, hi.unique hj⟩
    · have htwo : 2 < (Piece.hole body).source.length := by simp [Piece.source]
      have := hi.isBody.opens ((hi.getElem? htwo).symm.trans hsecond)
      omega
  · exact .inr (Nat.add_le_add_left (Nat.not_lt.1 hk) i)

end HoleAt

/-! ## Cutting a text -/

/-- A text begins with a piece: with a placeholder if one stands there. -/
def Piece.First (p : Piece) (rest : List Char) : Prop :=
  ∀ body, HoleAt (p.source ++ rest) 0 body ↔ p = .hole body

theorem IsBody.first (hb : IsBody body) (rest : List Char) : (Piece.hole body).First rest := by
  have hstands : HoleAt ((Piece.hole body).source ++ rest) 0 body := ⟨hb, List.prefix_append _ _⟩
  exact fun other => ⟨fun h => congrArg _ (hstands.unique h), fun h => by cases h; exact hstands⟩

/-- Every text that goes on begins with a piece. -/
theorem exists_first (c : Char) (cs : List Char) :
    ∃ p rest, c :: cs = Piece.source p ++ rest ∧ p.First rest := by
  by_cases h : ∃ body, HoleAt (c :: cs) 0 body
  · obtain ⟨body, hb, rest, hrest⟩ := h
    exact ⟨.hole body, rest, hrest.symm, hb.first rest⟩
  · exact ⟨.char c, cs, rfl, fun body => ⟨fun hb => absurd ⟨body, hb⟩ h, nofun⟩⟩

namespace Piece.First

/-- The placeholders of a text are the one that it begins with and those of its rest. -/
theorem holeAt_iff (h : p.First rest) : HoleAt (p.source ++ rest) i body ↔
    i = 0 ∧ p = .hole body ∨ ∃ k, i = p.source.length + k ∧ HoleAt rest k body := by
  constructor
  · intro hi
    have hlength : i = 0 ∨ p.source.length ≤ i := by
      cases p with
      | char c => exact Nat.eq_zero_or_pos i
      | hole other =>
        rcases ((h other).2 rfl).apart hi (Nat.zero_le i) with ⟨hzero, -⟩ | hlength
        · exact .inl hzero.symm
        · exact .inr (by simpa using hlength)
    rcases hlength with rfl | hlength
    · exact .inl ⟨rfl, (h body).1 hi⟩
    · obtain ⟨k, rfl⟩ := Nat.exists_eq_add_of_le hlength
      exact .inr ⟨k, rfl, holeAt_append.1 hi⟩
  · rintro (⟨rfl, hp⟩ | ⟨k, rfl, hk⟩)
    · exact (h body).2 hp
    · exact holeAt_append.2 hk

theorem pieces (h : p.First rest) : pieces (p.source ++ rest) = p :: pieces rest := by
  cases p with
  | hole body =>
    have hbody : body? (body ++ '\x7d' :: '\x7d' :: rest) = some (body, rest) :=
      body?_eq_some_iff.2 ⟨((h body).2 rfl).isBody, rfl⟩
    have hsource : (Piece.hole body).source ++ rest
        = '\x7b' :: '\x7b' :: (body ++ '\x7d' :: '\x7d' :: rest) := by simp [source]
    rw [hsource, Template.pieces]
    split
    · next body' rest' heq =>
      cases hbody.symm.trans heq
      rfl
    · next heq => cases hbody.symm.trans heq
  | char c =>
    change Template.pieces (c :: rest) = _
    rw [Template.pieces.eq_def]
    split
    · contradiction
    · next cs heq =>
      obtain ⟨rfl, rfl⟩ := List.cons.inj heq
      split
      · next body rest' hbody =>
        obtain ⟨hb, hcs⟩ := body?_eq_some_iff.1 hbody
        have := (h body).1 ⟨hb, rest', by simp [source, hcs]⟩
        cases this
      · rfl
    · next heq =>
      obtain ⟨rfl, rfl⟩ := List.cons.inj heq
      rfl

end Piece.First

/-- Text in which no placeholder begins is cut into characters. -/
theorem pieces_append_of_no_hole (front rest : List Char)
    (h : ∀ k body, k < front.length → ¬ HoleAt (front ++ rest) k body) :
    pieces (front ++ rest) = front.map .char ++ pieces rest := by
  induction front with
  | nil => rfl
  | cons c front ih =>
    have hfirst : (Piece.char c).First (front ++ rest) :=
      fun body => ⟨fun hb => absurd hb (h 0 body (Nat.succ_pos _)), nofun⟩
    have hpieces := hfirst.pieces
    have hrest := ih fun k body hk hb =>
      h (k + 1) body (Nat.succ_lt_succ hk) (Nat.add_comm 1 k ▸ (holeAt_append (p := .char c)).2 hb)
    rw [hrest] at hpieces
    exact hpieces

theorem flatMap_fill_char (context : Json) (cs : List Char) :
    (cs.map Piece.char).flatMap (Piece.fill context) = cs := by
  induction cs with
  | nil => rfl
  | cons c cs ih => simp [Piece.fill, ih]

/-- The pieces are an induction over the text: what it begins with, and its rest. -/
theorem pieces_induction {motive : List Char → Prop} (nil : motive [])
    (cons : ∀ (p : Piece) (rest : List Char), p.First rest → motive rest →
      motive (p.source ++ rest))
    (cs : List Char) : motive cs := by
  induction hn : cs.length using Nat.strongRecOn generalizing cs with
  | ind n ih =>
    cases cs with
    | nil => exact nil
    | cons c cs =>
      obtain ⟨p, rest, hcs, hp⟩ := exists_first c cs
      have hlength := congrArg List.length hcs
      rw [List.length_append] at hlength
      have := p.source_length_pos
      rw [hcs]
      exact cons p rest hp (ih rest.length (by omega) rest rfl)

/-- A text cut into pieces: a placeholder wherever one stands, and characters between them. -/
structure Cuts (cs : List Char) (ps : List Piece) : Prop where
  source : ps.flatMap Piece.source = cs
  holes : ∀ i body, HoleAt cs i body ↔
    ∃ front back, ps = front ++ .hole body :: back ∧ (front.flatMap Piece.source).length = i

theorem cuts_nil : Cuts [] [] where
  source := rfl
  holes i body := by
    constructor
    · rintro ⟨-, rest, hrest⟩
      simp [Piece.source] at hrest
    · rintro ⟨front, back, h, -⟩
      simp at h

/-- A cut begins with the piece that the text begins with, and goes on as a cut of the rest. -/
theorem cuts_cons_iff :
    Cuts cs (p :: ps) ↔ ∃ rest, cs = p.source ++ rest ∧ p.First rest ∧ Cuts rest ps := by
  constructor
  · rintro ⟨rfl, hholes⟩
    have hfirst : p.First (ps.flatMap Piece.source) := by
      intro body
      rw [← List.flatMap_cons, hholes]
      constructor
      · rintro ⟨front, back, h, hzero⟩
        cases front with
        | nil => exact (List.cons.inj h).1
        | cons q front =>
          have := q.source_length_pos
          simp only [List.flatMap_cons, List.length_append] at hzero
          omega
      · rintro rfl
        exact ⟨[], ps, rfl, rfl⟩
    refine ⟨_, List.flatMap_cons, hfirst, rfl, fun i body => ?_⟩
    rw [← holeAt_append (p := p), ← List.flatMap_cons, hholes]
    constructor
    · rintro ⟨front, back, h, hi⟩
      cases front with
      | nil =>
        have := p.source_length_pos
        simp only [List.flatMap_nil, List.length_nil] at hi
        omega
      | cons q front =>
        obtain ⟨rfl, rfl⟩ := List.cons.inj h
        exact ⟨front, back, rfl, by simpa using hi⟩
    · rintro ⟨front, back, rfl, rfl⟩
      exact ⟨p :: front, back, rfl, by simp⟩
  · rintro ⟨rest, rfl, hp, rfl, hholes⟩
    refine ⟨List.flatMap_cons, fun i body => ?_⟩
    rw [hp.holeAt_iff]
    constructor
    · rintro (⟨rfl, rfl⟩ | ⟨k, rfl, hk⟩)
      · exact ⟨[], ps, rfl, rfl⟩
      · obtain ⟨front, back, rfl, rfl⟩ := (hholes k body).1 hk
        exact ⟨p :: front, back, rfl, by simp⟩
    · rintro ⟨front, back, h, rfl⟩
      cases front with
      | nil => exact .inl ⟨rfl, (List.cons.inj h).1⟩
      | cons q front =>
        obtain ⟨rfl, rfl⟩ := List.cons.inj h
        exact .inr ⟨_, by simp, (hholes _ body).2 ⟨front, back, rfl, rfl⟩⟩

/-- **A text is cut into its pieces.** -/
theorem cuts_pieces (cs : List Char) : Cuts cs (pieces cs) := by
  induction cs using pieces_induction with
  | nil => simpa [pieces] using cuts_nil
  | cons p rest hp ih =>
    rw [hp.pieces]
    exact cuts_cons_iff.2 ⟨rest, rfl, hp, ih⟩

/-- **A text is cut at its placeholders in one way.** -/
theorem cuts_iff : Cuts cs ps ↔ ps = pieces cs := by
  constructor
  · intro h
    induction ps generalizing cs with
    | nil =>
      obtain rfl : [] = cs := h.source
      simp [pieces]
    | cons p ps ih =>
      obtain ⟨rest, rfl, hp, hrest⟩ := cuts_cons_iff.1 h
      rw [hp.pieces, ih hrest]
  · rintro rfl
    exact cuts_pieces cs

theorem isBody_of_mem_pieces (h : .hole body ∈ pieces cs) : IsBody body := by
  obtain ⟨front, back, heq⟩ := List.append_of_mem h
  exact (((cuts_pieces cs).holes _ body).2 ⟨front, back, heq, rfl⟩).isBody

/-- A text is one placeholder as a whole when that is its only piece. -/
theorem pieces_eq_hole_iff :
    pieces cs = [.hole body] ↔ IsBody body ∧ cs = (Piece.hole body).source := by
  constructor
  · intro h
    refine ⟨isBody_of_mem_pieces (h ▸ List.mem_singleton_self _), ?_⟩
    rw [← (cuts_pieces cs).source, h, List.flatMap_singleton]
  · rintro ⟨hb, rfl⟩
    simpa [pieces] using (hb.first []).pieces

theorem pieces_eq_hole_iff_holeAt : pieces cs = [.hole body] ↔
    HoleAt cs 0 body ∧ cs.length = (Piece.hole body).source.length := by
  rw [pieces_eq_hole_iff]
  constructor
  · rintro ⟨hb, rfl⟩
    exact ⟨⟨hb, List.prefix_rfl⟩, rfl⟩
  · rintro ⟨h, hlength⟩
    exact ⟨h.isBody, (h.stands.eq_of_length hlength.symm).symm⟩

/-- A text has a placeholder when one stands somewhere in it. -/
theorem hasHole_iff {s : String} : hasHole s = true ↔ ∃ i body, HoleAt s.toList i body := by
  rw [hasHole, List.any_eq_true]
  constructor
  · rintro ⟨p, hp, hhole⟩
    cases p with
    | char c => cases hhole
    | hole body =>
      obtain ⟨front, back, heq⟩ := List.append_of_mem hp
      exact ⟨_, body, ((cuts_pieces _).holes _ body).2 ⟨front, back, heq, rfl⟩⟩
  · rintro ⟨i, body, h⟩
    obtain ⟨front, back, heq, -⟩ := ((cuts_pieces _).holes i body).1 h
    exact ⟨.hole body, by simp [heq], rfl⟩

end RemoteScreen.Template
