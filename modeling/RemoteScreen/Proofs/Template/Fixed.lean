import RemoteScreen.Proofs.Json.Text
import RemoteScreen.Proofs.Path.Write
import RemoteScreen.Proofs.Template.Pieces

/-!
# Proofs/Template/Fixed — what is resolved stays

    "Hi \x7b\x7bname\x7d\x7d"  ⟶  "Hi Ann"  ⟶  "Hi Ann"
    "\x7b\x7btags\x7d\x7d"     ⟶  ["a"]     ⟶  ["a"]
    "\x7b\x7bgone\x7d\x7d"     ⟶  "\x7b\x7bgone\x7d\x7d"  ⟶  the same

A value without placeholders stands for itself.  Substitution is a single pass, so a second one is
safe only where the first brings in no placeholder: a text that it makes has to have none, and a
text that it keeps is one that it keeps again.  All this is about texts alone, so `Json.texts` of a
value are all that is looked at.
-/

namespace RemoteScreen

namespace Json

/-! ## The texts of a value -/

mutual

/-- The texts in a value, without the keys of its objects. -/
def texts : Json → List String
  | str s => [s]
  | arr items => itemTexts items
  | obj fields => fieldTexts fields
  | _ => []

/-- The texts in some items. -/
def itemTexts : List Json → List String
  | [] => []
  | x :: xs => texts x ++ itemTexts xs

/-- The texts in the values of some members. -/
def fieldTexts : List (String × Json) → List String
  | [] => []
  | (_, x) :: xs => texts x ++ fieldTexts xs

end

variable {context : Json}

mutual

/-- A value stands for itself if its texts do. -/
theorem interpolate_of_texts : (v : Json) →
    (∀ s ∈ v.texts, Template.expand context s = str s) → interpolate context v = v
  | str s, h => h s (List.mem_singleton_self s)
  | arr items, h => by rw [interpolate, interpolateItems_of_texts items h]
  | obj fields, h => by rw [interpolate, interpolateFields_of_texts fields h]
  | null, _ | bool _, _ | num _, _ => rfl

theorem interpolateItems_of_texts : (items : List Json) →
    (∀ s ∈ itemTexts items, Template.expand context s = str s) →
    interpolateItems context items = items
  | [], _ => rfl
  | x :: xs, h => by
    rw [interpolateItems, interpolate_of_texts x fun s hs => h s (List.mem_append_left _ hs),
      interpolateItems_of_texts xs fun s hs => h s (List.mem_append_right _ hs)]

theorem interpolateFields_of_texts : (fields : List (String × Json)) →
    (∀ s ∈ fieldTexts fields, Template.expand context s = str s) →
    interpolateFields context fields = fields
  | [], _ => rfl
  | (_, x) :: xs, h => by
    rw [interpolateFields, interpolate_of_texts x fun s hs => h s (List.mem_append_left _ hs),
      interpolateFields_of_texts xs fun s hs => h s (List.mem_append_right _ hs)]

end

mutual

/-- The texts of what a value stands for are those of what its texts stand for. -/
theorem texts_interpolate : (v : Json) → (interpolate context v).texts
    = v.texts.flatMap fun s => (Template.expand context s).texts
  | str s => by simp [interpolate, texts]
  | arr items => by rw [interpolate, texts, texts, itemTexts_interpolate items]
  | obj fields => by rw [interpolate, texts, texts, fieldTexts_interpolate fields]
  | null | bool _ | num _ => rfl

/-- The texts of interpolated items are those their texts expand to. -/
theorem itemTexts_interpolate : (items : List Json) → itemTexts (interpolateItems context items)
    = (itemTexts items).flatMap fun s => (Template.expand context s).texts
  | [] => rfl
  | x :: xs => by
    rw [interpolateItems, itemTexts, itemTexts, texts_interpolate x, itemTexts_interpolate xs,
      List.flatMap_append]

theorem fieldTexts_interpolate : (fields : List (String × Json)) →
    fieldTexts (interpolateFields context fields)
      = (fieldTexts fields).flatMap fun s => (Template.expand context s).texts
  | [] => rfl
  | (_, x) :: xs => by
    rw [interpolateFields, fieldTexts, fieldTexts, texts_interpolate x, fieldTexts_interpolate xs,
      List.flatMap_append]

end

mutual

/-- A value has a hole if one of its texts has. -/
theorem hasHole_eq_any_texts : (v : Json) → v.hasHole = v.texts.any Template.hasHole
  | str s => by simp [hasHole, texts]
  | arr items => by rw [hasHole, texts, itemsHaveHole_eq_any_texts items]
  | obj fields => by rw [hasHole, texts, fieldsHaveHole_eq_any_texts fields]
  | null | bool _ | num _ => rfl

theorem itemsHaveHole_eq_any_texts : (items : List Json) →
    itemsHaveHole items = (itemTexts items).any Template.hasHole
  | [] => rfl
  | x :: xs => by
    rw [itemsHaveHole, itemTexts, hasHole_eq_any_texts x, itemsHaveHole_eq_any_texts xs,
      List.any_append]

theorem fieldsHaveHole_eq_any_texts : (fields : List (String × Json)) →
    fieldsHaveHole fields = (fieldTexts fields).any Template.hasHole
  | [] => rfl
  | (_, x) :: xs => by
    rw [fieldsHaveHole, fieldTexts, hasHole_eq_any_texts x, fieldsHaveHole_eq_any_texts xs,
      List.any_append]

end

theorem texts_subset_itemTexts {x : Json} {items : List Json} (h : x ∈ items) :
    x.texts ⊆ itemTexts items := by
  induction items with
  | nil => cases h
  | cons y ys ih =>
    rcases List.mem_cons.1 h with rfl | h
    · exact List.subset_append_left _ _
    · exact List.Subset.trans (ih h) (List.subset_append_right _ _)

theorem texts_subset_fieldTexts {m : String × Json} {fields : List (String × Json)}
    (h : m ∈ fields) : m.2.texts ⊆ fieldTexts fields := by
  induction fields with
  | nil => cases h
  | cons first rest ih =>
    rcases List.mem_cons.1 h with rfl | h
    · exact List.subset_append_left _ _
    · exact List.Subset.trans (ih h) (List.subset_append_right _ _)

/-- What stands at a path has no texts but those of the whole. -/
theorem texts_subset_of_resolve {path : String} {v r : Json} (h : v.resolve path = some r) :
    r.texts ⊆ v.texts := by
  refine resolve_keeps (P := fun x => x.texts ⊆ v.texts) (fun fields m hm hf => ?_)
    (fun items x hx hi => ?_) (List.Subset.refl _) h
  · exact List.Subset.trans (texts_subset_fieldTexts hm) hf
  · exact List.Subset.trans (texts_subset_itemTexts hx) hi

/-- The value is not made of others. -/
def isScalar : Json → Bool
  | arr _ | obj _ => false
  | _ => true

end Json

namespace Template

/-! ## One text -/

variable {context : Json} {s : String}

/-- A text without holes is cut into characters. -/
theorem pieces_of_no_hole (h : ∀ i body, ¬ HoleAt s.toList i body) :
    pieces s.toList = s.toList.map .char := by
  have hpieces := pieces_append_of_no_hole s.toList [] fun k body _ hb =>
    h k body (by rwa [List.append_nil] at hb)
  simpa [pieces] using hpieces

/-- A text without placeholders stands for itself. -/
theorem expand_of_no_hole (h : ∀ i body, ¬ HoleAt s.toList i body) : expand context s = .str s := by
  have hpieces := pieces_of_no_hole h
  have hfill : fill context s = s := by
    rw [fill, hpieces, flatMap_fill_char, String.ofList_toList]
  rw [expand]
  split
  · next body hbody =>
    exact absurd (pieces_eq_hole_iff_holeAt.1 hbody).1 (h 0 body)
  · rw [hfill]

/-- Without a doubled brace there is nothing to look for. -/
theorem expand_of_no_doubled (h : ¬ ['\x7b', '\x7b'] <:+: s.toList) : expand context s = .str s :=
  expand_of_no_hole fun i body hb =>
    h (((List.prefix_append _ (body ++ ['\x7d', '\x7d'])).trans hb.stands).isInfix.trans
      (List.drop_suffix i _).isInfix)

/-- A text without an opening brace stays as it is. -/
theorem expand_of_no_open (h : '\x7b' ∉ s.toList) : expand context s = .str s :=
  expand_of_no_doubled fun hin => h (hin.subset List.mem_cons_self)

/-- Braces open only where placeholders do. -/
def Tidy (s : String) : Prop := ∀ ps, Cuts s.toList ps → Piece.char '\x7b' ∉ ps

/-- What comes in for a placeholder inside a longer text is the text of a single value. -/
def Inlines (context : Json) (s : String) : Prop :=
  ∀ i body, HoleAt s.toList i body → s.toList ≠ (Piece.hole body).source →
    ∀ v, context.resolve (String.ofList body) = some v → v.isScalar = true

/-- A text is tidy if no brace is left over among its pieces. -/
theorem tidy_iff : Tidy s ↔ Piece.char '\x7b' ∉ pieces s.toList :=
  ⟨fun h => h _ (cuts_pieces _), fun h _ hps => cuts_iff.1 hps ▸ h⟩

instance : Decidable (Tidy s) := decidable_of_iff _ tidy_iff.symm

/-- What comes in for a piece is the text of a single value. -/
def Piece.inlines (context : Json) : Piece → Bool
  | char _ => true
  | hole body => (context.resolve (String.ofList body)).all Json.isScalar

theorem inlines_iff : Inlines context s ↔
    ∀ p ∈ pieces s.toList, pieces s.toList ≠ [p] → p.inlines context = true := by
  constructor
  · intro h p hp hne
    cases p with
    | char c => rfl
    | hole body =>
      obtain ⟨front, back, heq⟩ := List.append_of_mem hp
      have hstands := ((cuts_pieces _).holes _ body).2 ⟨front, back, heq, rfl⟩
      rw [Piece.inlines, Option.all_eq_true]
      exact h _ body hstands fun hs => hne (pieces_eq_hole_iff.2 ⟨hstands.isBody, hs⟩)
  · intro h i body hstands hne
    obtain ⟨front, back, heq, -⟩ := ((cuts_pieces _).holes i body).1 hstands
    have hinlines := h (.hole body) (by simp [heq]) fun hs => hne (pieces_eq_hole_iff.1 hs).2
    rwa [Piece.inlines, Option.all_eq_true] at hinlines

instance : Decidable (Inlines context s) := decidable_of_iff _ inlines_iff.symm

/-- Nothing opens in the text of a single value, if nothing opens in its texts. -/
theorem open_notMem_display {v : Json} (hv : v.isScalar = true)
    (h : ∀ t ∈ v.texts, '\x7b' ∉ t.toList) : '\x7b' ∉ display v := by
  cases v with
  | null => simp [display]
  | bool b => cases b <;> simp [display, Json.chars]
  | num n =>
    intro hmem
    have := List.all_eq_true.1 n.all_isNumeric_chars _ hmem
    exact absurd this (by decide)
  | str t => exact h t (List.mem_singleton_self t)
  | arr _ | obj _ => cases hv

/-- **Nothing opens in what was filled in.** -/
theorem open_notMem_fill (hs : Tidy s) (hc : ∀ t ∈ context.texts, '\x7b' ∉ t.toList)
    (hin : Inlines context s) (hwhole : ∀ body, pieces s.toList ≠ [.hole body]) :
    '\x7b' ∉ (fill context s).toList := by
  rw [fill, String.toList_ofList, List.mem_flatMap]
  rintro ⟨p, hp, hopen⟩
  cases p with
  | char c =>
    obtain rfl := List.mem_singleton.1 hopen
    exact tidy_iff.1 hs hp
  | hole body =>
    have hinlines := inlines_iff.1 hin _ hp (hwhole body)
    rw [Piece.inlines, Option.all_eq_true] at hinlines
    rw [Piece.fill] at hopen
    cases hresolve : context.resolve (String.ofList body) with
    | none => simp [hresolve] at hopen
    | some v =>
      rw [hresolve] at hopen
      exact open_notMem_display (hinlines v hresolve)
        (fun t ht => hc t (Json.texts_subset_of_resolve hresolve ht)) hopen

/-- The texts of what a text stands for stand for themselves. -/
theorem expand_texts_expand (hs : Tidy s) (hc : ∀ t ∈ context.texts, '\x7b' ∉ t.toList)
    (hin : Inlines context s) : ∀ t ∈ (expand context s).texts, expand context t = .str t := by
  intro t ht
  by_cases hwhole : ∃ body, pieces s.toList = [.hole body]
  · obtain ⟨body, hbody⟩ := hwhole
    have hexpand : expand context s = (context.resolve (String.ofList body)).getD (.str s) := by
      rw [expand, hbody]
    cases hresolve : context.resolve (String.ofList body) with
    | none =>
      rw [hresolve, Option.getD_none] at hexpand
      rw [hexpand, Json.texts, List.mem_singleton] at ht
      rw [ht, hexpand]
    | some v =>
      rw [hresolve, Option.getD_some] at hexpand
      rw [hexpand] at ht
      exact expand_of_no_open (hc t (Json.texts_subset_of_resolve hresolve ht))
  · have hexpand : expand context s = .str (fill context s) := by
      rw [expand]
      split
      · next body hbody => exact absurd ⟨body, hbody⟩ hwhole
      · rfl
    rw [hexpand, Json.texts, List.mem_singleton] at ht
    rw [ht]
    exact expand_of_no_open (open_notMem_fill hs hc hin fun body hb => hwhole ⟨body, hb⟩)

end Template

namespace Json

/-- A value and a context between which a second substitution finds nothing to do: braces open only
at placeholders, none opens in the texts that come in, and what comes into a longer text is
single. -/
structure Steady (context v : Json) : Prop where
  tidy : ∀ s ∈ v.texts, Template.Tidy s
  plain : ∀ t ∈ context.texts, '\x7b' ∉ t.toList
  inlines : ∀ s ∈ v.texts, Template.Inlines context s

/-- **What makes a value steady**, said of its texts. -/
theorem steady_iff {context v : Json} : Steady context v ↔
    (∀ s ∈ v.texts, Template.Tidy s) ∧ (∀ t ∈ context.texts, '\x7b' ∉ t.toList)
      ∧ ∀ s ∈ v.texts, Template.Inlines context s :=
  ⟨fun h => ⟨h.tidy, h.plain, h.inlines⟩, fun ⟨ht, hp, hi⟩ => ⟨ht, hp, hi⟩⟩

instance (context v : Json) : Decidable (Steady context v) := decidable_of_iff _ steady_iff.symm

/-- **What is resolved stays**: a value without placeholders is its own substitution, and where the
texts that come in open no braces one substitution is as good as two. -/
theorem interpolate_fixed (context v : Json) :
    (v.hasHole = false → interpolate context v = v)
      ∧ (Steady context v →
        interpolate context (interpolate context v) = interpolate context v) := by
  constructor
  · intro h
    refine interpolate_of_texts v fun s hs => Template.expand_of_no_hole fun i body hb => ?_
    rw [hasHole_eq_any_texts, List.any_eq_false] at h
    exact h s hs (Template.hasHole_iff.2 ⟨i, body, hb⟩)
  · intro h
    refine interpolate_of_texts _ fun t ht => ?_
    rw [texts_interpolate, List.mem_flatMap] at ht
    obtain ⟨s, hs, ht⟩ := ht
    exact Template.expand_texts_expand (h.tidy s hs) h.plain (h.inlines s hs) t ht

/-- A greeting, a list that comes in whole, and a name that nobody has. -/
theorem interpolate_fixed_greeting :
    let context := obj [("name", str "Ann"), ("tags", arr [str "a", num (.int 1)])]
    let v := arr [str "Hi \x7b\x7bname\x7d\x7d!", str "\x7b\x7btags\x7d\x7d",
      str "\x7b\x7bgone\x7d\x7d"]
    let resolved := arr [str "Hi Ann!", arr [str "a", num (.int 1)], str "\x7b\x7bgone\x7d\x7d"]
    interpolate context v = resolved ∧ interpolate context resolved = resolved
      ∧ hasHole (str "Hi Ann!") = false ∧ interpolate context (str "Hi Ann!") = str "Hi Ann!" := by
  intro context v resolved
  have hv : interpolate context v = resolved := by decide +kernel
  have hfixed := (interpolate_fixed context v).2 (by decide +kernel)
  rw [hv] at hfixed
  exact ⟨hv, hfixed, by decide +kernel, (interpolate_fixed context _).1 (by decide +kernel)⟩

end Json

end RemoteScreen
