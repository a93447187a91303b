/-!
# Url/Basic — addresses of servers

How an address is read is the business of a library; here are the parts that it is read into.
-/

namespace RemoteScreen

/-- An address. -/
structure Url where
  scheme : String
  /-- The host with the number of its service; none where the scheme's addresses have no host. -/
  host : Option String
  path : String
  query : Option String
  fragment : Option String
  deriving DecidableEq

namespace Url

/-- An address in one form. -/
def text (u : Url) : String :=
  u.scheme ++ ":"
    ++ (match u.host with
      | some h => "//" ++ h
      | none => "")
    ++ u.path
    ++ (match u.query with
      | some q => "?" ++ q
      | none => "")
    ++ (match u.fragment with
      | some f => "#" ++ f
      | none => "")

/-- The address is one of a server that can be asked. -/
def isAskable (u : Url) : Bool := u.scheme == "http" || u.scheme == "https"

end Url

end RemoteScreen
