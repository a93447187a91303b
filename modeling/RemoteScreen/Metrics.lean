import RemoteScreen.Json.Decode

/-!
# Metrics — counters, and a window of durations

Counters of what has been run, and the durations of the latest runs in whole nanoseconds.  When the
window passes its cap, only its newest durations stay.
-/

namespace RemoteScreen

/-- Counters, and the latest durations, the oldest first. -/
structure Metrics where
  cap : Nat
  keep : Nat
  executed : Nat := 0
  succeeded : Nat := 0
  failed : Nat := 0
  retried : Nat := 0
  cacheHits : Nat := 0
  durations : List Nat := []
  deriving DecidableEq

/-- A reading of the metrics; the average is in milliseconds. -/
structure MetricsReading where
  executed : Nat
  succeeded : Nat
  failed : Nat
  retried : Nat
  cacheHits : Nat
  average : Binary64
  deriving DecidableEq

namespace Metrics

/-- Metrics with a window; both its sizes count as one at least. -/
def new (cap keep : Nat) : Metrics := { cap := max cap 1, keep := max (min keep cap) 1 }

instance : Inhabited Metrics := ⟨new 100 50⟩

/-- One more run was begun. -/
def countExecuted (m : Metrics) : Metrics := { m with executed := m.executed + 1 }

/-- One more run succeeded. -/
def countSucceeded (m : Metrics) : Metrics := { m with succeeded := m.succeeded + 1 }

/-- One more run failed. -/
def countFailed (m : Metrics) : Metrics := { m with failed := m.failed + 1 }

/-- One more attempt is to be repeated. -/
def countRetried (m : Metrics) : Metrics := { m with retried := m.retried + 1 }

/-- One more result was taken from a cache. -/
def countCacheHit (m : Metrics) : Metrics := { m with cacheHits := m.cacheHits + 1 }

/-- Adds a duration to the window. -/
def record (m : Metrics) (duration : Nat) : Metrics :=
  let all := m.durations ++ [duration]
  { m with durations := if m.cap < all.length then all.drop (all.length - m.keep) else all }

/-- Forgets everything but the sizes of the window. -/
def reset (m : Metrics) : Metrics := { cap := m.cap, keep := m.keep }

/-- A natural number in the binary format; zero for one beyond all of them. -/
private def real (n : Nat) : Binary64 := (Binary64.ofInt? n).getD (.zero false)

/-- A duration in milliseconds: the seconds, and the nanoseconds behind them in seconds, added and
scaled, with a rounding at every step. -/
def milliseconds (duration : Nat) : Binary64 :=
  let billion := 1000000000
  let ms? := do
    let rest ← (real (duration % billion)).div? (real billion)
    let seconds ← (real (duration / billion)).add? rest
    seconds.mul? (real 1000)
  ms?.getD (.zero false)

/-- The average duration in milliseconds, summed from the oldest on; zero of an empty window. -/
def average (m : Metrics) : Binary64 :=
  if m.durations.isEmpty then .zero false
  else
    let total : Binary64 :=
      m.durations.foldl (fun t d => (t.add? (milliseconds d)).getD t) (.zero false)
    (total.div? (real m.durations.length)).getD (.zero false)

/-- The counters and the average. -/
def reading (m : Metrics) : MetricsReading :=
  { executed := m.executed, succeeded := m.succeeded, failed := m.failed, retried := m.retried
    cacheHits := m.cacheHits, average := m.average }

end Metrics

namespace MetricsReading

/-- How a reading is written. -/
def layout : Json.Source.Layout :=
  ⟨"MetricsSnapshot", ["actionsExecuted", "actionsSucceeded", "actionsFailed", "retryAttempts",
    "cacheHits", "averageExecutionTime"]⟩

/-- The parts of a reading by name, in their fixed order. -/
def parts (r : MetricsReading) : List (String × Json) :=
  layout.fields.zip
    [.ofNat r.executed, .ofNat r.succeeded, .ofNat r.failed, .ofNat r.retried,
     .ofNat r.cacheHits, .num (.real r.average)]

/-- The value that stands for a reading. -/
def toJson (r : MetricsReading) : Json := .obj (Keyed.ofList r.parts)

/-- A reading on its way in. -/
structure Draft where
  executed : Option Nat := none
  succeeded : Option Nat := none
  failed : Option Nat := none
  retried : Option Nat := none
  cacheHits : Option Nat := none
  average : Option Binary64 := none

/-- Decodes a reading. -/
def decode (s : Json.Source) : Decoding MetricsReading := do
  let (d, ending) ← s.record layout ({} : Draft) fun field t _ d =>
    match field with
    | "actionsExecuted" => return { d with executed := some (← t.nat64) }
    | "actionsSucceeded" => return { d with succeeded := some (← t.nat64) }
    | "actionsFailed" => return { d with failed := some (← t.nat64) }
    | "retryAttempts" => return { d with retried := some (← t.nat64) }
    | "cacheHits" => return { d with cacheHits := some (← t.nat64) }
    | "averageExecutionTime" => return { d with average := some (← t.real) }
    | _ => return d
  return {
    executed := ← ending.require layout "actionsExecuted" d.executed
    succeeded := ← ending.require layout "actionsSucceeded" d.succeeded
    failed := ← ending.require layout "actionsFailed" d.failed
    retried := ← ending.require layout "retryAttempts" d.retried
    cacheHits := ← ending.require layout "cacheHits" d.cacheHits
    average := ← ending.require layout "averageExecutionTime" d.average }

/-- The text of a reading for a reader: a part a line, in their fixed order. -/
def pretty (r : MetricsReading) : String :=
  let line (p : String × Json) : String := "  " ++ (Json.str p.1).text ++ ": " ++ p.2.text
  "\x7b\n" ++ String.intercalate ",\n" (r.parts.map line) ++ "\n\x7d"

end MetricsReading

end RemoteScreen
