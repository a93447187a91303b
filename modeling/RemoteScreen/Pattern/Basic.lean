/-!
# Pattern/Basic — patterns as others read them

What a pattern says is the business of a library.  All that matters here is what a pattern comes to:
a test of texts, or what is wrong with it.
-/

namespace RemoteScreen

/-- A compiled pattern: whether some part of a text matches. -/
abbrev Pattern.Compiled := String → Bool

/-- What a pattern compiles to, or what is wrong with it. -/
abbrev Patterns := String → Except String Pattern.Compiled

end RemoteScreen
