import RemoteScreen.Pattern.Basic
import RemoteScreen.Url.Basic

/-!
# Library — what others bring

What patterns and addresses mean is left to libraries.  Nothing is known of them but what they
answer.
-/

namespace RemoteScreen

/-- What others bring. -/
structure Library where
  patterns : Patterns
  /-- The address that a text stands for. -/
  url? : String → Option Url

end RemoteScreen
