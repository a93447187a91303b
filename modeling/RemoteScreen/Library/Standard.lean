import RemoteScreen.Library
import RemoteScreen.Pattern.Parser
import RemoteScreen.Url.Reader

/-!
# Library/Standard — the library of a preview

A dialect of patterns and a reader of addresses, as far as a preview needs them.  No other part
rests on what they do.
-/

namespace RemoteScreen

/-- The dialect of patterns of a preview. -/
def Pattern.dialect : Patterns := fun pattern =>
  match parse? pattern with
  | some r => .ok fun text => r.isMatch text.toList
  | none => .error "regex parse error"

/-- The library of a preview. -/
def Library.standard : Library where
  patterns := Pattern.dialect
  url? := Url.parse?

end RemoteScreen
