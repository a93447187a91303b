import RemoteScreen.Json.Decode
import RemoteScreen.Url.Basic
import RemoteScreen.Verb.Basic

/-!
# Verb/Request — asking a server

A request whose method, address or headers cannot be written is not sent.  An answer counts if its
status does; its body, as a value if it is one and as a text otherwise, can be written to the shared
data.
-/

namespace RemoteScreen.Verb

/-- Characters of the names of methods and headers. -/
def isTokenChar (c : Char) : Bool :=
  c.isAlphanum || "!#$%&'*+-.^_\x60|~".toList.contains c

/-- A name of a method or a header. -/
def isToken (cs : List Char) : Bool := !cs.isEmpty && cs.all isTokenChar

/-- The upper case of a character, as far as it has to do with names of methods: a letter beyond
ASCII is looked at only if its upper case is in ASCII. -/
def upper (c : Char) : List Char :=
  match c with
  | 'ı' => ['I']
  | 'ſ' => ['S']
  | 'ß' => ['S', 'S']
  | 'ﬀ' => ['F', 'F']
  | 'ﬁ' => ['F', 'I']
  | 'ﬂ' => ['F', 'L']
  | 'ﬃ' => ['F', 'F', 'I']
  | 'ﬄ' => ['F', 'F', 'L']
  | 'ﬅ' | 'ﬆ' => ['S', 'T']
  | c => [c.toUpper]

/-- The method that a payload asks for. -/
def methodOf (i : VerbInput) : Except VerbError String :=
  let name := ((i.optional "method").getD "GET").toList.flatMap upper
  if isToken name then .ok (String.ofList name)
  else .error (.invalidField "method" "invalid HTTP method")

/-- A header can be written. -/
def headerFits (h : String × String) : Bool :=
  isToken h.1.toList && h.2.toList.all fun c => c == '\t' || (0x20 ≤ c.toNat && c.toNat ≠ 0x7F)

/-- The headers that a payload asks for, with their names in lower case. -/
def headersOf (i : VerbInput) : List (String × String) :=
  ((i.payload.get? "headers" >>= Json.fields?).getD []).map fun (name, v) => (name, v.plainText)

/-- The body that a payload asks for, and whether it is a value. -/
def bodyOf (i : VerbInput) : Option (String × Bool) :=
  match i.payload.get? "body" with
  | none | some .null => none
  | some (.str raw) => some (raw, false)
  | some v => some (v.text, true)

/-- Why a request cannot be written. -/
def malformed : VerbError := .network "builder error"

/-- Why a request cannot go to an address. -/
def notAskable (u : Url) : VerbError := .network ("builder error for url (" ++ u.text ++ ")")

/-- The request that a payload asks for, given how addresses are read. -/
def requestOf (url? : String → Option Url) (i : VerbInput) : Except VerbError Request := do
  let address ← i.required "url"
  let method ← methodOf i
  let url ← match url? address with
    | some url => pure url
    | none => .error malformed
  if (url.host.getD "").isEmpty then .error (notAskable url)
  let given := headersOf i
  if !given.all headerFits then .error malformed
  if !url.isAskable then .error (notAskable url)
  let named := given.map fun h => (String.ofList (h.1.toList.map Char.toLower), h.2)
  let body := bodyOf i
  let typed := named.any (·.1 == "content-type")
  let headers :=
    if body.any (·.2) && !typed then named ++ [("content-type", "application/json")] else named
  let timeout := (i.payload.get? "timeoutMs" >>= Json.nat?).getD i.config.apiTimeout
  return { method, url := url.text, headers, body := body.map (·.1), timeout }

/-- The value of a body: the one it is the text of, or else the text itself. -/
def valueOfBody (body : String) : Json :=
  match Json.parse body with
  | .ok v => v
  | .error _ => .str body

/-- Asks a server. -/
def apiCall (url? : String → Option Url) : Verb := fun i =>
  Script.withValue (requestOf url? i) fun request =>
    .call (.send request) fun
      | .error m => .fail (.network m)
      | .ok response =>
        if response.status < 200 || 299 < response.status then .fail (.http response.status)
        else
          match i.optional "storeAs" with
          | none => .ok
          | some path =>
            match response.body with
            | .error m => .fail (.network m)
            | .ok body => .write path (valueOfBody body) .ok

end RemoteScreen.Verb
