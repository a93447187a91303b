import RemoteScreen.Primitive

/-!
# Proofs/Primitive — what a built-in primitive leaves alone

A built-in primitive finishes every draft, and what it makes of it differs in the kind and in the
properties at most (`Primitive.builtins_finish`).  Of the properties it leaves alone the one that
tells that an element is disabled.
-/

namespace RemoteScreen

namespace Element

/-- An element is a draft with another kind, maybe, and other properties. -/
structure Finishes (draft e : Element) : Prop where
  key : e.key = draft.key
  style : e.style = draft.style
  children : e.children = draft.children
  handlers : e.handlers = draft.handlers
  enabled : e.enabled = draft.enabled
  disabled : e.props.get? "disabled" = draft.props.get? "disabled"

namespace Finishes

theorem refl (draft : Element) : draft.Finishes draft := ⟨rfl, rfl, rfl, rfl, rfl, rfl⟩

theorem trans {draft e e' : Element} (h : draft.Finishes e) (h' : e.Finishes e') :
    draft.Finishes e' where
  key := h'.key.trans h.key
  style := h'.style.trans h.style
  children := h'.children.trans h.children
  handlers := h'.handlers.trans h.handlers
  enabled := h'.enabled.trans h.enabled
  disabled := h'.disabled.trans h.disabled

/-- A property other than the one for disabled elements leaves a draft finished. -/
theorem withProp (draft : Element) {name : String} (hn : name ≠ "disabled") (v : Json) :
    draft.Finishes (draft.withProp name v) :=
  ⟨rfl, rfl, rfl, rfl, rfl, Keyed.get?_insert_of_ne _ _ hn⟩

end Finishes

end Element

/-- A factory finishes every draft. -/
def Factory.Finishes (factory : Factory) : Prop :=
  ∀ draft, ∃ e, factory draft = .ok e ∧ draft.Finishes e

/-- Each of these factories finishes every draft. -/
def AllFinish (primitives : Keyed Factory) : Prop :=
  ∀ kind factory, primitives.get? kind = some factory → factory.Finishes

/-- What is built is a finished draft. -/
theorem AllFinish.of_built {primitives : Keyed Factory} (hf : AllFinish primitives) {kind : String}
    {factory : Factory} (hknown : primitives.get? kind = some factory) {draft e : Element}
    (he : factory draft = .ok e) : draft.Finishes e := by
  obtain ⟨e', he', hfinishes⟩ := hf kind factory hknown draft
  cases he.symm.trans he'
  exact hfinishes

namespace Primitive

theorem finishes_placeholder (draft : Element) (reason : String) :
    draft.Finishes (placeholder draft reason) := by
  refine ⟨rfl, rfl, rfl, rfl, rfl, ?_⟩
  rw [placeholder, Keyed.get?_insert_of_ne _ _ (by decide), Keyed.get?_insert_of_ne _ _ (by decide)]

/-- Taking a property under one of its names leaves whether the element is disabled. -/
theorem get?_takeFirst {names : List String} (hn : "disabled" ∉ names) (props : Fields) :
    (takeFirst props names).2.get? "disabled" = props.get? "disabled" := by
  induction names with
  | nil => rfl
  | cons name names ih =>
    rw [List.mem_cons, not_or] at hn
    rw [takeFirst]
    split
    · exact Keyed.get?_erase_of_ne _ (Ne.symm hn.1)
    · exact ih hn.2

/-- Properties are taken out of a draft. -/
theorem finishes_takeFirst (draft : Element) (names : List String) (hn : "disabled" ∉ names) :
    draft.Finishes { draft with props := (takeFirst draft.props names).2 } :=
  ⟨rfl, rfl, rfl, rfl, rfl, get?_takeFirst hn _⟩

theorem plain_finishes : Factory.Finishes plain := fun draft => ⟨draft, rfl, .refl draft⟩

/-- A text only finishes its draft. -/
theorem text_finishes : Factory.Finishes text := by
  intro draft
  have htaken := finishes_takeFirst draft ["text", "content", "children"] (by decide)
  exact ⟨_, rfl, htaken.trans (.withProp _ (by decide) _)⟩

theorem image_finishes : Factory.Finishes image := by
  intro draft
  have htaken := finishes_takeFirst draft ["source", "uri"] (by decide)
  simp only [image]
  split
  · exact ⟨_, rfl, htaken.trans (.withProp _ (by decide) _)⟩
  · exact ⟨_, rfl, htaken.trans (finishes_placeholder _ _)⟩

theorem switch_finishes : Factory.Finishes switch := fun _ =>
  ⟨_, rfl, .withProp _ (by decide) _⟩

theorem icon_finishes : Factory.Finishes icon := by
  intro draft
  rw [icon]
  split
  · split
    · exact ⟨_, rfl, finishes_placeholder _ _⟩
    · exact ⟨_, rfl, .refl _⟩
  · exact ⟨_, rfl, finishes_placeholder _ _⟩

/-- The factories of the built-in primitives. -/
theorem factory_of_builtins {kind : String} {factory : Factory}
    (hf : builtins.get? kind = some factory) :
    factory = plain ∨ factory = text ∨ factory = image ∨ factory = switch ∨ factory = icon := by
  have hmem : (kind, factory) ∈ plainKinds.map (·, plain)
      ++ [("Text", text), ("Image", image), ("Switch", switch), ("Icon", icon)] :=
    Keyed.mem_ofList (Keyed.mem_of_get? hf)
  rcases List.mem_append.1 hmem with hplain | hother
  · obtain ⟨_, _, heq⟩ := List.mem_map.1 hplain
    exact .inl (Prod.mk.inj heq).2.symm
  · simp only [List.mem_cons, Prod.mk.injEq, List.not_mem_nil, or_false] at hother
    exact .inr (hother.imp And.right (.imp And.right (.imp And.right And.right)))

/-- **Every built-in primitive finishes every draft.** -/
theorem builtins_finish : AllFinish builtins := by
  intro kind factory hf
  obtain rfl | rfl | rfl | rfl | rfl := factory_of_builtins hf
  · exact plain_finishes
  · exact text_finishes
  · exact image_finishes
  · exact switch_finishes
  · exact icon_finishes

end Primitive

end RemoteScreen
