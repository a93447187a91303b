import RemoteScreen.Library.Standard
import RemoteScreen.Proofs.Json.Text
import RemoteScreen.Proofs.Path.Take
import RemoteScreen.Proofs.Render.Fresh

/-!
# Proofs/Render/Reads — a tree reads the paths that it names

The guards of nodes name paths, and so do the placeholders in their properties.  What a tree shows
is decided by what these paths lead to: **data that agrees on them shows the same**
(`renderTree_reads`).  A text that comes in for a placeholder names nothing, whatever it reads like.
-/

namespace RemoteScreen

/-! ## The paths that are named -/

namespace Condition

mutual

/-- The paths that a condition names, and those nested in it. -/
def paths : Condition → List String
  | ⟨_, field, _, conditions⟩ => field.toList ++ allPaths conditions

/-- The paths that some conditions name. -/
def allPaths : List Condition → List String
  | [] => []
  | c :: cs => paths c ++ allPaths cs

end

end Condition

/-- The path in the piece, if it is a placeholder. -/
def Template.Piece.path? : Piece → Option String
  | char _ => none
  | hole body => some (String.ofList body)

/-- The paths that the placeholders of a text name. -/
def Template.paths (s : String) : List String := (pieces s.toList).filterMap Piece.path?

namespace Json

mutual

/-- The paths that the placeholders in a value name. -/
def paths : Json → List String
  | str s => Template.paths s
  | arr items => itemPaths items
  | obj fields => fieldPaths fields
  | _ => []

/-- The paths that the placeholders in some items name. -/
def itemPaths : List Json → List String
  | [] => []
  | x :: xs => paths x ++ itemPaths xs

/-- The paths that the placeholders in some members name. -/
def fieldPaths : List (String × Json) → List String
  | [] => []
  | (_, x) :: xs => paths x ++ fieldPaths xs

end

end Json

/-- The paths that the guards of a node name. -/
def Guards.paths (g : Guards) : List String :=
  [g.show, g.hide, g.enable, g.disable].flatMap fun c => c.toList.flatMap Condition.paths

namespace Node

mutual

/-- **The paths that a node and all below it name**, in their guards and in their properties. -/
def paths : Node → List String
  | ⟨_, _, props, _, children, _, guards⟩ =>
    guards.paths ++ Json.fieldPaths props ++ allPaths children

/-- The paths that some nodes and all below them name. -/
def allPaths : List Node → List String
  | [] => []
  | n :: ns => paths n ++ allPaths ns

end

end Node

/-! ## What agrees on them -/

/-- Two data agree on paths that lead to the same in both. -/
def Json.AgreeOn (ps : List String) (c c' : Json) : Prop := ∀ p ∈ ps, c.resolve p = c'.resolve p

variable {c c' : Json}

namespace Json.AgreeOn

variable {ps qs : List String}

theorem append (h : AgreeOn (ps ++ qs) c c') : AgreeOn ps c c' ∧ AgreeOn qs c c' :=
  ⟨fun p hp => h p (List.mem_append_left _ hp), fun p hp => h p (List.mem_append_right _ hp)⟩

/-- Texts tell values apart. -/
theorem of_text (h : ∀ p ∈ ps, (c.resolve p).map text = (c'.resolve p).map text) :
    AgreeOn ps c c' :=
  fun p hp => Option.map_injective (fun _ _ => text_injective) (h p hp)

end Json.AgreeOn

open Json (AgreeOn)

namespace Condition

theorem fieldValue_congr {field : Option String} (h : AgreeOn field.toList c c') :
    fieldValue c field = fieldValue c' field := by
  cases field with
  | none => rfl
  | some p => exact h p (by simp)

variable (patterns : Patterns)

mutual

/-- **A condition says the same about data that agrees on its paths.** -/
theorem test_congr : (cond : Condition) → AgreeOn cond.paths c c' →
    cond.test patterns c = cond.test patterns c'
  | ⟨operator, field, value, []⟩, h => by
    rw [paths] at h
    rw [test, test, fieldValue_congr h.append.1]
    rfl
  | ⟨operator, field, value, first :: rest⟩, h => by
    rw [paths] at h
    have hfirst := test_congr first (by rw [allPaths] at h; exact h.append.2.append.1)
    rw [test, test, fieldValue_congr h.append.1, testAll_congr (first :: rest) h.append.2,
      testAny_congr (first :: rest) h.append.2]
    simp only [hfirst]

theorem testAll_congr : (conds : List Condition) → AgreeOn (allPaths conds) c c' →
    testAll patterns c conds = testAll patterns c' conds
  | [], _ => rfl
  | cond :: conds, h => by
    rw [allPaths] at h
    rw [testAll, testAll, test_congr cond h.append.1, testAll_congr conds h.append.2]

theorem testAny_congr : (conds : List Condition) → AgreeOn (allPaths conds) c c' →
    testAny patterns c conds = testAny patterns c' conds
  | [], _ => rfl
  | cond :: conds, h => by
    rw [allPaths] at h
    rw [testAny, testAny, test_congr cond h.append.1, testAny_congr conds h.append.2]

end

/-- A condition holds alike where the data agree on its paths. -/
theorem holds_congr {cond : Condition} (h : AgreeOn cond.paths c c') :
    cond.holds patterns c = cond.holds patterns c' := by
  rw [holds, holds, test_congr patterns cond h]

end Condition

namespace Template

/-- A template is filled alike where they agree on its placeholders. -/
theorem fill_congr {s : String} (h : AgreeOn (paths s) c c') : fill c s = fill c' s := by
  have hpieces : (pieces s.toList).flatMap (Piece.fill c)
      = (pieces s.toList).flatMap (Piece.fill c') := by
    rw [List.flatMap_def, List.flatMap_def]
    refine congrArg List.flatten (List.map_congr_left fun piece hp => ?_)
    cases piece with
    | char ch => rfl
    | hole body =>
      rw [Piece.fill, Piece.fill, h _ (List.mem_filterMap.2 ⟨.hole body, hp, rfl⟩)]
  rw [fill, fill, hpieces]

/-- **A text stands for the same in data that agrees on the paths of its placeholders**: what comes
in for them is not read again. -/
theorem expand_congr {s : String} (h : AgreeOn (paths s) c c') : expand c s = expand c' s := by
  rw [expand, expand]
  split
  · next body hp => rw [h _ (by simp [paths, hp, Piece.path?])]
  · rw [fill_congr h]

end Template

namespace Json

mutual

/-- **Interpolation reads nothing but the paths in a value.** -/
theorem interpolate_congr : (v : Json) → AgreeOn v.paths c c' → interpolate c v = interpolate c' v
  | str s, h => Template.expand_congr h
  | arr items, h => by rw [interpolate, interpolate, interpolateItems_congr items h]
  | obj fields, h => by rw [interpolate, interpolate, interpolateFields_congr fields h]
  | null, _ | bool _, _ | num _, _ => rfl

theorem interpolateItems_congr : (items : List Json) → AgreeOn (itemPaths items) c c' →
    interpolateItems c items = interpolateItems c' items
  | [], _ => rfl
  | x :: xs, h => by
    rw [itemPaths] at h
    rw [interpolateItems, interpolateItems, interpolate_congr x h.append.1,
      interpolateItems_congr xs h.append.2]

theorem interpolateFields_congr : (fields : List (String × Json)) →
    AgreeOn (fieldPaths fields) c c' → interpolateFields c fields = interpolateFields c' fields
  | [], _ => rfl
  | (k, x) :: xs, h => by
    rw [fieldPaths] at h
    rw [interpolateFields, interpolateFields, interpolate_congr x h.append.1,
      interpolateFields_congr xs h.append.2]

end

end Json

namespace Guards

variable {g : Guards} (patterns : Patterns)

/-- The conditions of guards hold alike where the data agree on their paths. -/
theorem agreeOn_paths (h : AgreeOn g.paths c c') :
    ∀ cond, (g.show = some cond ∨ g.hide = some cond ∨ g.enable = some cond
      ∨ g.disable = some cond) → cond.holds patterns c = cond.holds patterns c' := by
  intro cond hcond
  refine Condition.holds_congr patterns fun p hp => h p ?_
  rw [paths, List.mem_flatMap]
  rcases hcond with hc | hc | hc | hc
  all_goals exact ⟨some cond, by simp [hc], by simpa using hp⟩

theorem lets_congr (h : AgreeOn g.paths c c') : g.lets patterns c = g.lets patterns c' := by
  have hall := agreeOn_paths patterns h
  rw [lets, lets]
  cases hs : g.show <;> cases hh : g.hide <;> simp_all

theorem disables_congr (h : AgreeOn g.paths c c') :
    g.disables patterns c = g.disables patterns c' := by
  have hall := agreeOn_paths patterns h
  rw [disables, disables]
  cases he : g.enable <;> cases hd : g.disable <;> simp_all

end Guards

/-! ## What a tree shows -/

variable {rules : RenderRules} {scope scope' : Scope}

mutual

/-- **A node shows the same in data that agrees on its paths.** -/
theorem elementAt_reads (hs : scope.sink = scope'.sink) (depth : Nat) : (node : Node) →
    AgreeOn node.paths scope.context scope'.context →
    elementAt rules scope depth node = elementAt rules scope' depth node
  | ⟨kind, id, props, style, children, actions, guards⟩, h => by
    rw [Node.paths] at h
    obtain ⟨⟨hguards, hprops⟩, hchildren⟩ := And.imp_left AgreeOn.append h.append
    have hdraft (elements : List Element) :
        Node.draft ⟨kind, id, props, style, children, actions, guards⟩ rules.patterns scope elements
          = Node.draft ⟨kind, id, props, style, children, actions, guards⟩ rules.patterns scope'
            elements := by
      rw [Node.draft, Node.draft, Node.propsIn, Node.propsIn,
        Json.interpolateFields_congr props hprops, Guards.disables_congr _ hguards, hs]
    rw [elementAt, elementAt, elementsAt_reads hs depth children hchildren,
      Guards.lets_congr _ hguards]
    simp only [hdraft]

/-- The children render alike where the data agree on all their paths. -/
theorem elementsAt_reads (hs : scope.sink = scope'.sink) (depth : Nat) : (nodes : List Node) →
    AgreeOn (Node.allPaths nodes) scope.context scope'.context →
    elementsAt rules scope depth nodes = elementsAt rules scope' depth nodes
  | [], _ => rfl
  | node :: rest, h => by
    rw [Node.allPaths] at h
    rw [elementsAt, elementsAt, elementAt_reads hs (depth + 1) node h.append.1,
      elementsAt_reads hs depth rest h.append.2]

end

/-- **Scopes with one context and one sink show the same.** -/
theorem elementsAt_congr (hc : scope.context = scope'.context) (hs : scope.sink = scope'.sink)
    (depth : Nat) (nodes : List Node) :
    elementsAt rules scope depth nodes = elementsAt rules scope' depth nodes :=
  elementsAt_reads hs depth nodes fun p _ => by rw [hc]

/-! ## What is written where nothing is read -/

/-- Neither of two paths leads to where the other one leads, or through it. -/
def Path.Apart (p q : String) : Prop :=
  segments p = [] ∨ ¬ segments p <+: segments q ∧ ¬ segments q <+: segments p

instance (p q : String) : Decidable (Path.Apart p q) :=
  inferInstanceAs (Decidable (_ ∨ _ ∧ _))

namespace Json

/-- Data agrees on the paths that are apart from where it is written to. -/
theorem agreeOn_set {c v : Json} {q : String} (hc : (c.take? q).isSome) {ps : List String}
    (h : ∀ p ∈ ps, Path.Apart p q) : AgreeOn ps c (c.set q v) := by
  intro p hp
  obtain ⟨⟨taken, left⟩, htake⟩ := Option.isSome_iff_exists.1 hc
  have hlist : c.NoListAbove (Path.segments q) := (takeAt?_eq_some_iff.1 htake).noListAbove
  rw [resolve, resolve]
  rcases h p hp with hnil | ⟨hpq, hqp⟩
  · rw [hnil]
  · split
    · rfl
    · exact (at?_setAt_of_diverge hlist hqp hpq).symm

end Json

/-- **Rendering reads only the paths that the tree names.**  With nothing kept, a tree shows the
same, or fails in the same way, in any two data in which the paths of its guards and of its
placeholders lead to values of one text, or nowhere.  So a value can be written over without a
difference if no path of the tree leads to it, through it or above it, also when the text of another
value mentions it. -/
theorem renderTree_reads (rules : RenderRules) {scope scope' : Scope}
    (hs : scope.sink = scope'.sink) (tree : List Node) :
    ((∀ p ∈ Node.allPaths tree, (scope.context.resolve p).map Json.text
        = (scope'.context.resolve p).map Json.text) →
      (renderTree rules scope tree {}).1 = (renderTree rules scope' tree {}).1)
    ∧ ∀ q v, scope'.context = scope.context.set q v → (scope.context.take? q).isSome →
      (∀ p ∈ Node.allPaths tree, Path.Apart p q) →
      (renderTree rules scope tree {}).1 = (renderTree rules scope' tree {}).1 := by
  have hsame (h : AgreeOn (Node.allPaths tree) scope.context scope'.context) :
      (renderTree rules scope tree {}).1 = (renderTree rules scope' tree {}).1 := by
    rw [renderTree_of_nil rules scope tree rfl, renderTree_of_nil rules scope' tree rfl]
    exact elementsAt_reads hs 0 tree h
  refine ⟨fun h => hsame (.of_text h), fun q v hq hc h => hsame ?_⟩
  rw [hq]
  exact Json.agreeOn_set hc h

/-- Somebody with a secret, which their account of themselves mentions. -/
def withSecret (secret : String) : Json :=
  .obj [("user", .obj [("bio", .str "I like \x7b\x7buser.secret\x7d\x7d"),
    ("secret", .str secret)])]

/-- The account, by itself and inside a longer text. -/
def account : List Node :=
  [(Node.new "Text").withProp "text" (.str "\x7b\x7buser.bio\x7d\x7d"),
   (Node.new "Text").withProp "text" (.str "Bio: \x7b\x7buser.bio\x7d\x7d")]

/-- The account shows, and does not change with the secret. -/
theorem renderTree_reads_account :
    let shown (secret : String) := (renderTree ⟨Primitive.builtins, {}, Pattern.dialect⟩
      (.ofData (withSecret secret) 0) account {}).1
    shown "hunter2" = shown "swordfish"
      ∧ (shown "hunter2").toOption.map (·.map Element.text)
        = some [some "I like \x7b\x7buser.secret\x7d\x7d",
          some "Bio: I like \x7b\x7buser.secret\x7d\x7d"] := by
  have hsink : (Scope.ofData (withSecret "hunter2") 0).sink
      = (Scope.ofData (withSecret "swordfish") 0).sink := rfl
  refine ⟨(renderTree_reads ⟨Primitive.builtins, {}, Pattern.dialect⟩ hsink account).2 "user.secret"
    (.str "swordfish") ?_ ?_ ?_, by decide +kernel⟩
  · show withSecret "swordfish" = (withSecret "hunter2").set "user.secret" (.str "swordfish")
    decide +kernel
  · show ((withSecret "hunter2").take? "user.secret").isSome
    decide +kernel
  · decide +kernel

end RemoteScreen
