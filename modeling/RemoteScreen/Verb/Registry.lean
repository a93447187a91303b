import RemoteScreen.Keyed
import RemoteScreen.Library
import RemoteScreen.Verb.Data
import RemoteScreen.Verb.Device
import RemoteScreen.Verb.Form
import RemoteScreen.Verb.Request

/-!
# Verb/Registry — verbs by name
-/

namespace RemoteScreen.Verb

/-- The built-in verbs, with what others bring. -/
def builtins (library : Library) : Keyed Verb :=
  Keyed.ofList
    [("navigate", navigate), ("updateState", updateState), ("dispatch", dispatch),
     ("refresh", refresh), ("showAlert", showAlert), ("openUrl", openUrl), ("share", share),
     ("vibrate", vibrate), ("apiCall", apiCall library.url?), ("storage", storage),
     ("validateForm", validateForm library.patterns), ("analytics", analytics), ("log", log)]

end RemoteScreen.Verb
