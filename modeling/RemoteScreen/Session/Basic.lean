import RemoteScreen.Boundary
import RemoteScreen.Engine.Flight
import RemoteScreen.Error
import RemoteScreen.Render.Basic

/-!
# Session/Basic — a screen that shows, and what is done on it

A session puts rendering, the boundary and the engine together.  What handlers do goes through the
session: an **override** is asked first, and the engine runs what it does not handle.
-/

namespace RemoteScreen

/-- What an override says to an action. -/
inductive OverrideAnswer where
  | handled
  | declined
  | broken (message : String)
  deriving DecidableEq

/-- Is asked before the engine, with the action as it was declared and the overlay. -/
abbrev Override := Action → Option Json → OverrideAnswer

/-- A screen that shows, and what is done on it. -/
structure Session (σ : Type) where
  engine : Engine σ
  primitives : Keyed Factory := Primitive.builtins
  renderer : RendererConfig := {}
  memo : Memo := []
  boundary : Boundary := .clear
  override : Option Override := none

namespace Dispatch

/-- The action as an override gets it: with the value entered, and with its templates as they
are. -/
def raw (d : Dispatch) : Action :=
  match d.input with
  | some v => { d.action with payload := d.action.payload.insert "value" v }
  | none => d.action

end Dispatch

namespace Session

variable {σ : Type}

/-- A session with some settings, and what others bring. -/
def new (library : Library) (config : Config) (context : Context) (host : σ) : Session σ :=
  { engine := .new library config.engine context host, renderer := config.renderer }

/-- Changes the engine. -/
def onEngine (s : Session σ) (f : Engine σ → Engine σ) : Session σ :=
  { s with engine := f s.engine }

/-- Adds to the journal. -/
def note (s : Session σ) (r : Record) : Session σ := s.onEngine (·.note r)

/-- Who gets the actions of a session. -/
def sink : Nat := 0

/-- What rendering works with. -/
def rules (s : Session σ) : RenderRules := ⟨s.primitives, s.renderer, s.engine.patterns⟩

/-- Takes over what rendering has carried along. -/
def absorb (s : Session σ) (r : RenderState) : Session σ :=
  let metrics := { s.engine.metrics with cacheHits := s.engine.metrics.cacheHits + r.hits }
  let journal := s.engine.journal ++ r.built.map fun b => .built b.1 b.2
  { s with memo := r.memo, engine := { s.engine with metrics, journal } }

/-- Renders a tree in the shared data with an overlay. -/
def render (s : Session σ) (tree : List Node) (overlay : Option Json) :
    RenderOutput × Session σ :=
  let scope := Scope.ofContext s.engine.context overlay sink
  let (out, r) := s.boundary.guard (renderTree s.rules scope tree) { memo := s.memo }
  let s := { s.absorb r with boundary := out.boundary }
  match out.failure with
  | some e => (out.output, s.note (.renderFailed e))
  | none => (out.output, s)

/-- Renders a screen in a state. -/
def renderScreen (s : Session σ) (screen : Screen) (status : ScreenStatus) :
    RenderOutput × Session σ :=
  s.render (screen.treeFor status) (Screen.overlayFor status)

/-- Renders a screen that the host knows by name. -/
def renderNamed (h : Host σ) (s : Session σ) (name : String) : Option (RenderOutput × Session σ) :=
  if h.offers .screens then
    (h.screen? name).map fun screen => s.renderScreen screen (h.status name)
  else none

/-- Drops kept elements, and what the engine remembers of actions. -/
def clearCache (s : Session σ) : Session σ := { s.onEngine (·.clearCache) with memo := [] }

/-- Clears the boundary. -/
def resetBoundary (s : Session σ) : Session σ := { s with boundary := .clear }

end Session

end RemoteScreen
