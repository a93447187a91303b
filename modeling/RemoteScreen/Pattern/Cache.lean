import RemoteScreen.Pattern.Basic

/-!
# Pattern/Cache — compiled patterns, kept for the next time

The cache keeps what each pattern compiled to, up to a capacity; when it is full, the next new
pattern empties it first.  Patterns that do not compile are not kept.
-/

namespace RemoteScreen

namespace Pattern

/-- Compiled patterns by their text. -/
structure Cache where
  entries : List (String × Compiled)

namespace Cache

/-- How many patterns are kept. -/
def capacity : Nat := 256

/-- Nothing kept. -/
def empty : Cache := ⟨[]⟩

instance : Inhabited Cache := ⟨empty⟩

/-- What a pattern compiles to, or what is wrong with it, from the cache if it is there. -/
def fetch (patterns : Patterns) (cache : Cache) (pattern : String) :
    Except String Compiled × Cache :=
  match cache.entries.lookup pattern with
  | some compiled => (.ok compiled, cache)
  | none =>
    match patterns pattern with
    | .error message => (.error message, cache)
    | .ok compiled =>
      let kept := if capacity ≤ cache.entries.length then [] else cache.entries
      (.ok compiled, ⟨(pattern, compiled) :: kept⟩)

end Cache

end Pattern

end RemoteScreen
