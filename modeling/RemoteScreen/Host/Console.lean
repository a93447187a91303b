import RemoteScreen.Host.Basic
import RemoteScreen.Text.Quoted

/-!
# Host/Console — a host that only tells

Everything is written to the log and accepted; an alert is answered by its first button.  The store
is kept in memory, no server can be reached, and there are no screens.
-/

namespace RemoteScreen

/-- A store in memory. -/
abbrev Store := Keyed Json

namespace Vibration

/-- A time in the largest unit that it fills. -/
def timeText (ms : Nat) : String :=
  if ms = 0 then "0ns"
  else if ms < 1000 then toString ms ++ "ms"
  else
    let digits := (toString (1000 + ms % 1000)).toList.drop 1
    let places := (digits.reverse.dropWhile (· = '0')).reverse
    toString (ms / 1000)
      ++ (if places.isEmpty then "" else "." ++ String.ofList places) ++ "s"

/-- A vibration with everything spelled out. -/
def shown : Vibration → String
  | once d => "Duration(" ++ timeText d ++ ")"
  | pattern ds again =>
    "Pattern \x7b pattern: [" ++ String.intercalate ", " (ds.map timeText) ++ "], repeat: "
      ++ (if again then "true" else "false") ++ " \x7d"

end Vibration

namespace Console

/-- The beginnings of the addresses that can be opened. -/
def openable : List String := ["http://", "https://", "tel:", "mailto:"]

/-- An address can be opened. -/
def canOpen (url : String) : Bool := openable.any fun s => s.toList.isPrefixOf url.toList

/-- The text of the button that answers an alert. -/
def pressed (buttons : List AlertButton) : String := (buttons.head?.map (·.text)).getD "OK"

/-- What is written to the log of a call. -/
def entryOf : Call → Option LogEntry
  | .navigate mode route params =>
    some ⟨.info, "navigate",
      [("mode", mode.name), ("route", route), ("params", params.text)]⟩
  | .dispatch a =>
    some ⟨.info, "dispatch", [("action_type", a.type), ("payload", a.payload.text)]⟩
  | .alert title message _ =>
    some ⟨.info, "alert", [("title", title), ("message", Text.quotedOption message)]⟩
  | .openUrl url => if canOpen url then some ⟨.info, "open url", [("url", url)]⟩ else none
  | .share title message url =>
    some ⟨.info, "share",
      [("title", Text.quotedOption title), ("message", Text.quotedOption message),
       ("url", Text.quotedOption url)]⟩
  | .vibrate v => some ⟨.info, "vibrate", [("vibration", v.shown)]⟩
  | .track event properties =>
    some ⟨.info, "analytics", [("event", event), ("properties", properties.text)]⟩
  | .log entry => some entry
  | .canOpen _ | .storeGet _ | .storeSet _ _ | .storeRemove _ | .refresh _ | .send _
  | .custom _ _ _ => none

/-- Why an address is not opened. -/
def cannotOpen (url : String) : HostError := .failed ("cannot open " ++ url)

/-- Why a request gets no answer. -/
def unreachable (url : String) : String := "error sending request for url (" ++ url ++ ")"

/-- The reply to a call. -/
def reply (c : Call) (store : Store) : c.Reply × Store :=
  match c with
  | .alert _ _ buttons => (.ok (pressed buttons), store)
  | .canOpen url => (.ok (canOpen url), store)
  | .openUrl url => (if canOpen url then .ok () else .error (cannotOpen url), store)
  | .storeGet key => (.ok (store.get? key), store)
  | .storeSet key v => (.ok (), store.insert key v)
  | .storeRemove key => (.ok (), store.erase key)
  | .send r => (.error (unreachable r.url), store)
  | .custom .. => (.ok (), store)
  | .track .. | .log _ => ((), store)
  | .navigate .. | .dispatch _ | .share .. | .vibrate _ | .refresh _ => (.ok (), store)

/-- The console as a host. -/
def host : Host Store :=
  { offers := fun c => c != .screens
    delay := fun _ _ => 0
    reply
    screen? := fun _ => none
    status := fun _ => .loading }

end Console

end RemoteScreen
