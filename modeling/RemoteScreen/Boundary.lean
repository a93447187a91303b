import RemoteScreen.Primitive

/-!
# Boundary — what shows when rendering fails

A failure trips the boundary.  From then on a fallback shows, without another try, until its retry
button is pressed or the boundary is reset.
-/

namespace RemoteScreen

/-- Whether rendering has failed since the last reset, and how. -/
inductive Boundary where
  | clear
  | tripped (message : String)
  deriving DecidableEq, Inhabited

/-- What shows: a tree, or the fallback in its place. -/
inductive RenderOutput where
  | tree (elements : List Element)
  | fallback (element : Element)
  deriving Inhabited

namespace RenderOutput

/-- The fallback shows. -/
def isFallback : RenderOutput → Bool
  | tree _ => false
  | fallback _ => true

/-- The elements that show. -/
def elements : RenderOutput → List Element
  | tree es => es
  | fallback e => [e]

end RenderOutput

/-- What comes out of a boundary: what shows, the failure that has just tripped it, and its state
afterwards. -/
structure Contained where
  output : RenderOutput
  failure : Option RenderError
  boundary : Boundary

namespace Boundary

/-- Rendering has failed. -/
def isTripped : Boundary → Bool
  | clear => false
  | tripped _ => true

/-- The kind of the fallback. -/
def fallbackKind : String := "ErrorFallback"

/-- The key of the retry button. -/
def retryKey : String := "error-boundary-retry"

/-- What the fallback says. -/
def apology : String := "Something went wrong"

/-- The fallback for a failure. -/
def fallback (message : String) : Element :=
  let button := (((Element.new "Button").withProp "title" (.str "Retry")).withHandler "onPress"
    .resetBoundary).withKey retryKey
  ((((Element.new fallbackKind).withProp "message" (.str apology)).withProp "error"
    (.str message)).withChild ((Element.new "Text").withProp "text" (.str apology))).withChild
    button

/-- What comes out for a rendering that was tried. -/
def contain : Except BuildFailure (List Element) → Contained
  | .ok elements => ⟨.tree elements, none, clear⟩
  | .error failure =>
    let e := failure.toError
    ⟨.fallback (fallback e.message), some e, tripped e.message⟩

/-- Renders unless a failure stands. -/
def guard {σ : Type} (b : Boundary) (render : σ → Except BuildFailure (List Element) × σ) (s : σ) :
    Contained × σ :=
  match b with
  | tripped message => (⟨.fallback (fallback message), none, b⟩, s)
  | clear =>
    let (outcome, s) := render s
    (contain outcome, s)

end Boundary

end RemoteScreen
