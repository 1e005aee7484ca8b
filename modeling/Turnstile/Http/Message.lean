import Turnstile.Json.Basic
import Turnstile.Error

/-!
Responses. Header names are in lower case; a header may stand several times.
-/

namespace Turnstile

/-- What a message carries. -/
inductive Body where
  | empty
  | json (j : Json)
  | text (s : String)

/-- A response. -/
structure Response where
  status : Nat
  headers : List (String × String)
  body : Body

namespace Response

def ofJson (status : Nat) (j : Json) : Response :=
  ⟨status, [("content-type", "application/json")], .json j⟩

def ofText (status : Nat) (s : String) : Response :=
  ⟨status, [("content-type", "text/plain; charset=utf-8")], .text s⟩

def ofStatus (status : Nat) : Response := ⟨status, [], .empty⟩

/-- All values of a header, in order. -/
def header (r : Response) (name : String) : List String :=
  (r.headers.filter (·.1 == name)).map (·.2)

end Response

/-- A body that holds one message. -/
def messageBody (s : String) : Json := .obj [("message", .str s)]

/-- What a caller reads of an error: a code, a text, and for broken rules of a request the rules. -/
def ApiError.body (e : ApiError) : Json :=
  let details := match e with
    | .validation fields => [("details", .str (FieldError.text fields))]
    | _ => []
  .obj ([("code", .str e.code), ("error", .str e.publicMessage)] ++ details)

/-- The response to a failed request. -/
def ApiError.response (e : ApiError) : Response := .ofJson e.status e.body

end Turnstile
