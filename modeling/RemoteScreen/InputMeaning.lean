import RemoteScreen.Action.Basic

/-!
# InputMeaning — what a text input is for

Guessed from words in the input's id and placeholder.  What is typed into an input of known meaning
is also kept under a fixed key of the host's state.
-/

namespace RemoteScreen

/-- What a text input is for. -/
inductive InputMeaning where
  | phone
  | code
  deriving DecidableEq, Repr

namespace InputMeaning

/-- The name of a meaning. -/
def name : InputMeaning → String
  | phone => "Phone"
  | code => "Otp"

/-- The key of the host's state that holds what is typed. -/
def stateKey : InputMeaning → String
  | phone => "phoneNumber"
  | code => "otp"

/-- The words that tell a meaning. -/
def words : InputMeaning → List String
  | phone => ["phone", "mobile"]
  | code => ["otp", "code", "verification"]

/-- A text has a word in it, in either case.  The words are of ASCII letters and none of them is
spelled in part by the lower case of another letter, so the case of ASCII letters decides. -/
def mentions (text : List Char) (word : String) : Bool :=
  let rec go : List Char → Bool
    | [] => word.isEmpty
    | c :: cs => word.toList.isPrefixOf (c :: cs) || go cs
  go (text.map Char.toLower)

/-- The meaning of a text input with an id and properties. -/
def infer (id : Option String) (props : Fields) : Option InputMeaning :=
  let placeholder := props.get? "placeholder" >>= Json.str?
  let hints := String.intercalate " " ([id, placeholder].filterMap fun hint => hint)
  [phone, code].find? fun m => m.words.any (mentions hints.toList)

/-- The action that keeps what is typed. -/
def stateUpdate (m : InputMeaning) (componentId : Option String) : Action :=
  { type := "updateState", payload := [("key", .str m.stateKey)], componentId }

end InputMeaning

end RemoteScreen
