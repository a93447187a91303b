import RemoteScreen.Library.Standard
import RemoteScreen.Proofs.Json.Text
import RemoteScreen.Proofs.Render.Fresh

/-!
# Proofs/Render/Registry — when a registered primitive shows

A stamp tells the data of a rendering and who gets its actions, and not the factories that were
there.  So a kept result outlives the factory that it was built by, and what was kept of a node of
unknown kind, which is nothing, outlives the registration of the kind
(`Interpreter.not_rendered_anew`).

A stamp is **stale** when there has been a rendering under it before a kind was last registered, and
the memo has not been cleared since.  Under a stamp that is not stale, **a tree shows what it shows
with nothing kept, by the factories that are there now** (`Interpreter.Course.render_anew`).
-/

namespace RemoteScreen

/-- The scopes over all data, each with its text in its stamp. -/
def Scopes.ofData : Scopes where
  mem scope := ∃ context sink, scope = .ofData context sink
  told := by
    rintro _ _ ⟨c, k, rfl⟩ ⟨c', k', rfl⟩ hstamp
    obtain ⟨htext, rfl⟩ := Stamp.content.inj hstamp
    rw [Json.text_injective htext]

/-- What renders one tree after the other: the factories, and what has been kept. -/
structure Interpreter where
  rules : RenderRules
  memo : Memo := []

namespace Interpreter

/-- Renders a tree. -/
def render (i : Interpreter) (scope : Scope) (tree : List Node) :
    Except BuildFailure (List Element) × Interpreter :=
  let (outcome, s) := renderTree i.rules scope tree { memo := i.memo }
  (outcome, { i with memo := s.memo })

/-- Registers a factory for a kind, in place of the one that the kind had. -/
def register (i : Interpreter) (kind : String) (factory : Factory) : Interpreter :=
  { i with rules := { i.rules with primitives := i.rules.primitives.insert kind factory } }

/-- Drops what is kept. -/
def clear (i : Interpreter) : Interpreter := { i with memo := [] }

/-- **What an interpreter goes through**, with the stamps that it has rendered under since nothing
was kept, and those of them that are stale. -/
inductive Course (scopes : Scopes) : Interpreter → List Stamp → List Stamp → Prop where
  | begin (rules : RenderRules) : Course scopes { rules } [] []
  | render {i seen stale} (c : Course scopes i seen stale) {scope : Scope} (hs : scopes.mem scope)
      (tree : List Node) (ht : Number.negZero ∉ Node.allNumbers tree) :
      Course scopes (i.render scope tree).2 (scope.stamp :: seen) stale
  | register {i seen stale} (c : Course scopes i seen stale) (kind : String) (factory : Factory) :
      Course scopes (i.register kind factory) seen seen
  | clear {i seen stale} (c : Course scopes i seen stale) : Course scopes i.clear [] []

variable {scopes : Scopes} {i : Interpreter} {seen stale : List Stamp}

/-- How it stands with what is kept: it was kept under the stamp of a scope that was rendered in,
and unless that is stale, it is what shows in the scope. -/
def Kept (scopes : Scopes) (i : Interpreter) (seen stale : List Stamp) : Prop :=
  ∀ position entry, (position, entry) ∈ i.memo → entry.stamp ∈ seen
    ∧ (entry.stamp ∉ stale → Memo.SoundAt i.rules scopes position entry)

/-- Entries kept under a stamp that is not stale are true. -/
theorem Kept.trueOf (hk : Kept scopes i seen stale) {scope : Scope} (hs : scopes.mem scope)
    (hstale : scope.stamp ∉ stale) : i.memo.TrueOf i.rules scope := by
  intro position entry hmem hst
  obtain ⟨scope', hs', hst', hshows⟩ := (hk position entry hmem).2 (hst ▸ hstale)
  rwa [← scopes.told scope' scope hs' hs (hst'.trans hst)]

/-- Rendering keeps what shows, or adds to what is stale. -/
theorem Kept.render (hk : Kept scopes i seen stale) {scope : Scope} (hs : scopes.mem scope)
    {tree : List Node} (ht : Number.negZero ∉ Node.allNumbers tree) :
    Kept scopes (i.render scope tree).2 (scope.stamp :: seen) stale := by
  have hr := renderTree_renders i.rules scope tree { memo := i.memo }
  intro position entry hmem
  rcases hr.stamps _ hmem with hold | hst
  · obtain ⟨hseen, hsound⟩ := hk position entry hold
    exact ⟨List.mem_cons_of_mem _ hseen, hsound⟩
  · have hst : entry.stamp = scope.stamp := hst
    refine ⟨hst ▸ List.mem_cons_self, fun hfresh => ?_⟩
    have htrue := (hr.faithful ht (hk.trueOf hs (hst ▸ hfresh))).2
    exact ⟨scope, hs, hst.symm, htrue position entry hmem hst⟩

/-- **Along a course only stale entries can be wrong.** -/
theorem Course.kept (c : Course scopes i seen stale) : Kept scopes i seen stale := by
  induction c with
  | begin rules => exact fun _ _ hmem => by cases hmem
  | render _ hs tree ht ih => exact ih.render hs ht
  | register _ kind factory ih =>
    exact fun position entry hmem =>
      ⟨(ih position entry hmem).1, fun hfresh => absurd (ih position entry hmem).1 hfresh⟩
  | clear _ _ => exact fun _ _ hmem => by cases hmem

/-- **A registered primitive shows where nothing stale is kept.**  Whatever has been rendered,
registered and cleared: in a scope whose stamp is not stale, a tree without a negative zero shows
what an interpreter shows that keeps nothing and has the factories that are there now. -/
theorem Course.render_anew (c : Course scopes i seen stale) {scope : Scope} (hs : scopes.mem scope)
    (hstale : scope.stamp ∉ stale) {tree : List Node}
    (ht : Number.negZero ∉ Node.allNumbers tree) :
    (i.render scope tree).1 = (Interpreter.render { rules := i.rules } scope tree).1 := by
  have hr := renderTree_renders i.rules scope tree { memo := i.memo }
  refine (hr.faithful ht (c.kept.trueOf hs hstale)).1.trans ?_
  exact (renderTree_of_nil i.rules scope tree rfl).symm

/-- A badge, which is no built-in primitive. -/
def badge : List Node := [Node.new "Badge"]

/-- A screen without data. -/
def blank : Scope := .ofData (.obj []) 0

/-- An interpreter that has rendered a badge, and has been told of badges after that. -/
def late : Interpreter :=
  (Interpreter.render { rules := ⟨Primitive.builtins, {}, Pattern.dialect⟩ } blank badge).2.register
    "Badge" Primitive.plain

theorem mem_blank : Scopes.ofData.mem blank := ⟨_, _, rfl⟩

/-- A badge rendered before it is registered leaves its stamp stale. -/
theorem course_late : Course .ofData late [blank.stamp] [blank.stamp] :=
  .register
    (.render (.begin ⟨Primitive.builtins, {}, Pattern.dialect⟩) mem_blank badge (by decide +kernel))
    _ _

/-- Over other data, the badge shows. -/
theorem render_anew_badge :
    let other : Scope := .ofData (.obj [("unread", .str "3")]) 0
    (late.render other badge).1 = (Interpreter.render { rules := late.rules } other badge).1
      ∧ (late.render other badge).1.toOption.map (·.map Element.kind) = some ["Badge"] :=
  ⟨course_late.render_anew ⟨_, _, rfl⟩ (by decide +kernel) (by decide +kernel), by decide +kernel⟩

/-- **Not every rendering shows what an interpreter shows that keeps nothing**: over the same data,
the badge stays away. -/
theorem not_rendered_anew :
    ¬ ∀ (i : Interpreter) (seen stale : List Stamp), Course .ofData i seen stale →
      ∀ scope, Scopes.ofData.mem scope → ∀ tree, Number.negZero ∉ Node.allNumbers tree →
        (i.render scope tree).1 = (Interpreter.render { rules := i.rules } scope tree).1 := by
  intro h
  have hlate := h late _ _ course_late blank mem_blank badge (by decide +kernel)
  have hnone : (late.render blank badge).1.toOption.map List.length = some 0 := by decide +kernel
  have hone : (Interpreter.render { rules := late.rules } blank badge).1.toOption.map List.length
      = some 1 := by decide +kernel
  rw [hlate, hone] at hnone
  exact absurd hnone (by decide)

end Interpreter

end RemoteScreen
