import RemoteScreen.Json.Decode

/-!
# Config — the settings of a session

Everything has a default.  Times are whole milliseconds.
-/

namespace RemoteScreen

/-- Settings of rendering. -/
structure RendererConfig where
  /-- Nodes deeper than this are left out. -/
  maxDepth : Nat := 10
  /-- How many results are kept before all are dropped. -/
  memoCapacity : Nat := 512
  deriving DecidableEq, Inhabited

/-- Settings of running actions. -/
structure EngineConfig where
  /-- How many durations are kept before the oldest are dropped. -/
  windowCap : Nat := 100
  /-- How many durations stay then. -/
  windowKeep : Nat := 50
  apiTimeout : Nat := 30000
  defaultVibration : Nat := 400
  eventBufferSize : Nat := 64
  deriving DecidableEq, Inhabited

/-- The settings of a session. -/
structure Config where
  renderer : RendererConfig := {}
  engine : EngineConfig := {}
  deriving DecidableEq, Inhabited

namespace RendererConfig

/-- How settings of rendering are written. -/
def layout : Json.Source.Layout := ⟨"RendererConfig", ["max_depth", "memo_capacity"]⟩

/-- The value that stands for settings of rendering. -/
def toJson (c : RendererConfig) : Json :=
  .obj (Keyed.ofList [("max_depth", .ofNat c.maxDepth), ("memo_capacity", .ofNat c.memoCapacity)])

/-- Decodes settings of rendering. -/
def decode (s : Json.Source) : Decoding RendererConfig := do
  let (c, _) ← s.record layout ({} : RendererConfig) fun field t _ c =>
    match field with
    | "max_depth" => return { c with maxDepth := ← t.count }
    | "memo_capacity" => return { c with memoCapacity := ← t.count }
    | _ => return c
  return c

end RendererConfig

namespace EngineConfig

/-- How settings of running actions are written. -/
def layout : Json.Source.Layout :=
  ⟨"EngineConfig", ["metrics_window_cap", "metrics_window_keep", "api_timeout",
    "default_vibration", "event_buffer_size"]⟩

/-- The value that stands for settings of running actions. -/
def toJson (c : EngineConfig) : Json :=
  .obj (Keyed.ofList
    [("metrics_window_cap", .ofNat c.windowCap), ("metrics_window_keep", .ofNat c.windowKeep),
     ("api_timeout", .ofNat c.apiTimeout), ("default_vibration", .ofNat c.defaultVibration),
     ("event_buffer_size", .ofNat c.eventBufferSize)])

/-- Decodes settings of running actions. -/
def decode (s : Json.Source) : Decoding EngineConfig := do
  let (c, _) ← s.record layout ({} : EngineConfig) fun field t _ c =>
    match field with
    | "metrics_window_cap" => return { c with windowCap := ← t.count }
    | "metrics_window_keep" => return { c with windowKeep := ← t.count }
    | "api_timeout" => return { c with apiTimeout := ← t.nat64 }
    | "default_vibration" => return { c with defaultVibration := ← t.nat64 }
    | "event_buffer_size" => return { c with eventBufferSize := ← t.count }
    | _ => return c
  return c

end EngineConfig

namespace Config

/-- How settings are written. -/
def layout : Json.Source.Layout := ⟨"SduiConfig", ["renderer", "engine"]⟩

/-- The value that stands for settings. -/
def toJson (c : Config) : Json :=
  .obj (Keyed.ofList [("renderer", c.renderer.toJson), ("engine", c.engine.toJson)])

/-- Decodes settings. -/
def decode (s : Json.Source) : Decoding Config := do
  let (c, _) ← s.record layout ({} : Config) fun field t _ c =>
    match field with
    | "renderer" => return { c with renderer := ← RendererConfig.decode t }
    | "engine" => return { c with engine := ← EngineConfig.decode t }
    | _ => return c
  return c

/-- The settings that a value stands for. -/
def ofJson (j : Json) : Decoding Config := decode (.ofJson j)

/-- Why settings cannot be used. -/
inductive Flaw where
  | noDepth
  | keepBeyondCap (keep cap : Nat)
  deriving DecidableEq

/-- The wording of why settings cannot be used. -/
def Flaw.message : Flaw → String
  | noDepth => "renderer.max_depth must be greater than 0"
  | keepBeyondCap keep cap =>
    "engine.metrics_window_keep (" ++ toString keep ++ ") exceeds engine.metrics_window_cap ("
      ++ toString cap ++ ")"

/-- The first reason why settings cannot be used. -/
def flaw? (c : Config) : Option Flaw :=
  if c.renderer.maxDepth = 0 then some .noDepth
  else if c.engine.windowCap < c.engine.windowKeep then
    some (.keepBeyondCap c.engine.windowKeep c.engine.windowCap)
  else none

end Config

end RemoteScreen
