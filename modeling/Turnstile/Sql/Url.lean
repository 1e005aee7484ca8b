import Turnstile.Text.Quoted
import Turnstile.Text.Url

/-!
Addresses of databases. The query may say how the connection is protected.
-/

namespace Turnstile.DatabaseUrl

def protections : List String :=
  ["disable", "allow", "prefer", "require", "verify-ca", "verify-full"]

/-- What is wrong with the query of an address. -/
def queryFault? (query : List (String × String)) : Option String :=
  query.findSome? fun (name, value) =>
    if (name == "sslmode" || name == "ssl-mode") &&
        !protections.contains (String.ofList (value.toList.map Char.toLower)) then
      some ("error with configuration: unknown value " ++ Text.quote value ++
        " for \x60ssl_mode\x60")
    else none

/-- The address can be used, or why it cannot. -/
def check (s : String) : Except String Unit :=
  match Url.ofText s with
  | .error e => .error ("error with configuration: " ++ e.message)
  | .ok url =>
    match queryFault? url.query with
    | some fault => .error ("error with configuration: " ++ fault)
    | none => .ok ()

end Turnstile.DatabaseUrl
