import RemoteScreen.Proofs.Template.Search

/-!
# Proofs/Template/Exact — substitution touches the placeholders and nothing else

    H i ␣ \x7b\x7b name \x7d\x7d !        \x7b\x7b name \x7d\x7d        \x7b\x7b nobody \x7d\x7d
    │ │ │      │        │             │                  │
    H i ␣     Ann       !        the value        the text itself

A text is cut at its placeholders in one way, and each of its pieces is filled by itself.  The cases
in which the value comes in with its type are those of a single piece.
-/

namespace RemoteScreen

namespace Template

/-- The text of what is found at a path: a text as it is, none for null and for nothing, and what is
printed for anything else. -/
def shown : Option Json → List Char
  | none | some .null => []
  | some (.str s) => s.toList
  | some v => v.chars

theorem Piece.fill_hole (context : Json) (body : List Char) :
    (hole body).fill context = shown (context.resolve (String.ofList body)) := by
  rw [fill]
  cases context.resolve (String.ofList body) with
  | none => rfl
  | some v => cases v <;> rfl

/-- What a text stands for in a context, told by the placeholders that stand in it. -/
structure Exact (context : Json) (s : String) : Prop where
  /-- Placeholders do not overlap. -/
  apart : ∀ i j body other, HoleAt s.toList i body → HoleAt s.toList j other → i ≤ j →
    i = j ∧ body = other ∨ i + (Piece.hole body).source.length ≤ j
  /-- The text can be cut at its placeholders. -/
  cut : ∃ ps, Cuts s.toList ps
  /-- However it is cut, the text of its value stands for each placeholder, and for each other
  character the character itself, in their order. -/
  filled : ∀ ps, Cuts s.toList ps → (fill context s).toList = ps.flatMap fun
    | .char c => [c]
    | .hole body => shown (context.resolve (String.ofList body))
  /-- The same comes of replacing what the pattern of a placeholder finds. -/
  searched : ∀ out, Replaced context s.toList 0 out ↔ out = (fill context s).toList
  /-- A text that is one placeholder stands for the value, or for itself where there is none. -/
  whole : ∀ body, IsBody body → s.toList = (Piece.hole body).source →
    Json.interpolate context (.str s) = (context.resolve (String.ofList body)).getD (.str s)
  /-- Any other text stands for a text. -/
  inline : (∀ body, IsBody body → s.toList ≠ (Piece.hole body).source) →
    Json.interpolate context (.str s) = .str (fill context s)

/-- **The pieces of a text cut it exactly.** -/
theorem exact_of_pieces (context : Json) (s : String) : Exact context s where
  apart _ _ _ _ hi hj hij := hi.apart hj hij
  cut := ⟨_, cuts_pieces _⟩
  filled ps hps := by
    rw [fill, String.toList_ofList, cuts_iff.1 hps]
    refine List.flatMap_congr fun p _ => ?_
    cases p with
    | char c => rfl
    | hole body => exact Piece.fill_hole context body
  searched _ := replaced_iff
  whole body hb hs := by
    rw [Json.interpolate, expand, pieces_eq_hole_iff.2 ⟨hb, hs⟩]
  inline hs := by
    rw [Json.interpolate, expand]
    split
    · next body hpieces =>
      obtain ⟨hb, heq⟩ := pieces_eq_hole_iff.1 hpieces
      exact absurd heq (hs body hb)
    · rfl

end Template

namespace Json

theorem interpolateItems_eq_map (context : Json) (items : List Json) :
    interpolateItems context items = items.map (interpolate context) := by
  induction items with
  | nil => rfl
  | cons x xs ih => rw [interpolateItems, ih, List.map_cons]

theorem interpolateFields_eq_map (context : Json) (fields : Fields) :
    interpolateFields context fields = fields.map fun m => (m.1, interpolate context m.2) := by
  induction fields with
  | nil => rfl
  | cons m ms ih => rw [interpolateFields, ih, List.map_cons]

/-- **Substitution is exact**: in a text it touches the placeholders, in a list or an object every
item and every value, and nothing in any other value. -/
theorem interpolate_exact (context : Json) :
    (∀ s, Template.Exact context s)
      ∧ (∀ items, interpolate context (arr items) = arr (items.map (interpolate context)))
      ∧ (∀ fields, interpolate context (obj fields)
        = obj (fields.map fun m => (m.1, interpolate context m.2)))
      ∧ interpolate context null = null
      ∧ (∀ b, interpolate context (bool b) = bool b)
      ∧ ∀ n, interpolate context (num n) = num n := by
  refine ⟨Template.exact_of_pieces context, fun items => ?_, fun fields => ?_, rfl, fun _ => rfl,
    fun _ => rfl⟩
  · rw [interpolate, interpolateItems_eq_map]
  · rw [interpolate, interpolateFields_eq_map]

/-- Of three braces in a row, the inner two make a placeholder. -/
example : interpolate (obj [("name", str "Ann")]) (str "\x7b\x7b\x7bname\x7d\x7d\x7d")
    = str "\x7bAnn\x7d" := by
  decide +kernel

end Json

end RemoteScreen
