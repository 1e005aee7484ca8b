import Turnstile.Request.Rules

/-!
Requests about logins and accounts.
-/

namespace Turnstile

/-- Log in with an e-mail address or a phone number. -/
structure LoginRequest where
  identity : String
  password : String

structure RegisterRequest where
  name : String
  phone : String
  email : String
  password : String

structure RefreshRequest where
  refreshToken : String

instance : Request LoginRequest where
  shape := .record [("identity", .text, false), ("password", .text, false)]
  ofJson j := ⟨Request.text j "identity", Request.text j "password"⟩
  rules r := [
    .length "identity" "Email or phone is required" r.identity 1 (some 255),
    .length "password" "Password is required" r.password 1]

instance : Request RegisterRequest where
  shape := .record [("name", .text, false), ("phone", .text, false), ("email", .text, false),
    ("password", .text, false)]
  ofJson j :=
    ⟨Request.text j "name", Request.text j "phone", Request.text j "email",
      Request.text j "password"⟩
  rules r := [
    .length "name" "Name is required" r.name 1 (some 100),
    .length "phone" "Phone must be 6 to 20 characters" r.phone 6 (some 20),
    .email "email" "Invalid email format" r.email,
    .length "password" "Password must be at least 8 characters" r.password 8]

instance : Request RefreshRequest where
  shape := .record [("refresh_token", .text, false)]
  ofJson j := ⟨Request.text j "refresh_token"⟩
  rules r := [.length "refresh_token" "Refresh token is required" r.refreshToken 1]

end Turnstile
