import Turnstile.Json.Shape
import Turnstile.Email.Address
import Turnstile.Error

/-!
Rules for the fields of requests. All rules of a request are checked, and every broken one is reported.
-/

namespace Turnstile

/-- A rule for one field, with the text that is reported when it is broken. -/
structure FieldRule where
  isKept : Bool
  error : FieldError

namespace FieldRule

/-- A field must have from `low` to `high` characters. -/
def length (field message value : String) (low : Nat) (high : Option Nat := none) : FieldRule :=
  ⟨low ≤ value.length && high.all (value.length ≤ ·), ⟨field, message⟩⟩

/-- A field must be an e-mail address. -/
def email (field message value : String) : FieldRule :=
  ⟨EmailAddress.isValid value, ⟨field, message⟩⟩

/-- Check all rules. -/
def checkAll (rules : List FieldRule) : Except ServiceError Unit :=
  match rules.filter fun r => !r.isKept with
  | [] => .ok ()
  | broken => .error (.validation (broken.map (·.error)))

end FieldRule

/-- Requests that come as JSON of a given form, and have rules. -/
class Request (α : Type) where
  shape : Shape
  ofJson : Json → α
  rules : α → List FieldRule

namespace Request

/-- The rules of a request are kept. -/
def check {α : Type} [Request α] (a : α) : Except ServiceError Unit :=
  FieldRule.checkAll (rules a)

/-- The text of a member, empty if it is missing. -/
def text (j : Json) (name : String) : String := ((j.get? name).bind Json.asText?).getD ""

/-- The integers of a member, none if it is missing. -/
def ints (j : Json) (name : String) : List Int :=
  ((j.get? name).bind Json.asItems?).getD [] |>.filterMap Json.asInt?

/-- Read a request from text that is nothing else. -/
def ofText? (α : Type) [Request α] (s : String) : Option α :=
  match (shape α).read s with
  | .ok j => some (ofJson j)
  | .error _ => none

/-- Read a request from the start of a text. -/
def ofStart (α : Type) [Request α] (s : String) : Except Json.ReadError α :=
  ((shape α).readStart s.toList).map fun r => ofJson r.1

end Request

end Turnstile
