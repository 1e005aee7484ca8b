import Turnstile.Proofs.Json.Narrowing
import Turnstile.Token.Issuer

/-!
The session of a token that was accepted once. For its session alone less is read of a token than
for all of its claims, and less is checked, so whatever was accepted names its session at any time.
-/

namespace Turnstile

open Json

/-! ### Registered claims -/

namespace RegisteredClaims

/-- Claims that are given in order begin with the session, and there is no expiry. -/
theorem expiresAt_of_array {text : String} {items : List Char} {j : Json} {c : RegisteredClaims}
    (hstart : skipSpace text.toList = '[' :: items) (hclaims : TokenClaims.shape.read text = .ok j)
    (h : ofText text = .ok c) : c.expiresAt = none := by
  unfold ofText at h
  split at h
  case h_2 => cases h
  rename_i registered hregistered
  split at h
  case isFalse => cases h
  cases h
  rcases Shape.of_read_record hclaims with ⟨_, items₁, r₁, hitems₁, hinOrder₁, -⟩ |
    ⟨_, _, _, hobject, -⟩
  case inr => cases hstart.symm.trans hobject
  rcases Shape.of_read_record hregistered with ⟨_, items₂, r₂, hitems₂, hinOrder₂, rfl⟩ |
    ⟨_, _, _, hobject, -⟩
  case inr => cases hstart.symm.trans hobject
  cases hstart.symm.trans hitems₁
  cases hstart.symm.trans hitems₂
  -- The first item is a text where the session is read, and so it is where the expiry is read.
  rcases Shape.of_readInOrder hinOrder₁ with ⟨-, hmay⟩ | ⟨fuel₁, value, _, _, _, hvalue₁, hread₁, -⟩
  · cases hmay
  rcases Shape.of_readInOrder hinOrder₂ with ⟨hnone, -⟩ |
    ⟨fuel₂, _, exp, _, more, hvalue₂, hread₂, hfound⟩
  · cases hvalue₁.symm.trans hnone
  cases hvalue₁.symm.trans hvalue₂
  obtain ⟨s, rfl⟩ := Shape.any_of_text hread₁ hread₂
  rw [ofJson, hfound]
  rfl

end RegisteredClaims

namespace Expectation

variable {now : Int} {issuer : String} {c : RegisteredClaims}

/-- What passes all checks has an expiry and names no audience. -/
theorem of_check (h : check ⟨some now, some issuer⟩ c = .ok ()) :
    c.expiresAt.isSome = true ∧ c.hasAudience = false := by
  obtain ⟨expiresAt, notBefore, subject, name, hasAudience⟩ := c
  -- Only with all four claims there are further checks.
  cases expiresAt with
  | none => cases h
  | some expiry =>
  cases notBefore with
  | none => cases h
  | some start =>
  cases name with
  | none => cases h
  | some name =>
  cases subject with
  | none => cases h
  | some subject =>
  refine ⟨rfl, ?_⟩
  cases hasAudience with
  | false => rfl
  | true =>
    unfold check at h
    simp only [missing?, Option.isNone_some, Bool.false_eq_true, if_false] at h
    by_cases hexpired : (expiry : Int) < now
    · simp only [hexpired, if_true] at h
      cases h
    · by_cases himmature : now < (start : Int)
      · simp only [hexpired, himmature, if_true, if_false] at h
        cases h
      · simp only [hexpired, himmature, if_false] at h
        split at h <;> cases h

theorem check_of_hasAudience (h : c.hasAudience = false) : check ⟨none, none⟩ c = .ok () := by
  unfold check
  simp only [h]
  rfl

end Expectation

/-! ### The session -/

namespace TokenClaims

theorem skips_of_member {members : List (String × Shape × Bool)} (h : shape = .record members)
    {m : String × Shape × Bool} (hm : m ∈ members) : m.2.1.Skips := by
  cases h
  exact Shape.skips_of_isScalar (List.all_eq_true (p := fun m => m.2.1.isScalar).mp rfl m hm)

theorem sessionId_of_ofJson? {j : Json} {c : TokenClaims} (h : ofJson? j = some c) :
    (j.get? "jti").bind asText? = some c.sessionId := by
  unfold ofJson? at h
  obtain ⟨sessionId, hid, h⟩ := Option.bind_eq_some_iff.mp h
  obtain ⟨subject, -, h⟩ := Option.bind_eq_some_iff.mp h
  obtain ⟨role, -, h⟩ := Option.bind_eq_some_iff.mp h
  obtain ⟨issuer, -, h⟩ := Option.bind_eq_some_iff.mp h
  obtain ⟨issuedAt, -, h⟩ := Option.bind_eq_some_iff.mp h
  obtain ⟨notBefore, -, h⟩ := Option.bind_eq_some_iff.mp h
  obtain ⟨expiresAt, -, h⟩ := Option.bind_eq_some_iff.mp h
  obtain ⟨kind, -, h⟩ := Option.bind_eq_some_iff.mp h
  cases h
  exact hid

/-- Claims that are given by name say their session where they are read for it alone. -/
theorem sessionOfText_of_object {text : String} {object : List Char} {j : Json} {c : TokenClaims}
    (hstart : skipSpace text.toList = '\x7b' :: object) (hread : shape.read text = .ok j)
    (hclaims : ofJson? j = some c) : sessionOfText text = .ok c.sessionId := by
  obtain ⟨found, rfl, hnarrowed⟩ := Shape.read_narrowed (fun name => name == "jti")
    (fun m hm _ => skips_of_member rfl hm) hstart hread
  have hfind := Shape.find?_narrowed (fun name => name == "jti") found "jti"
  rw [if_pos (beq_self_eq_true "jti")] at hfind
  have hid : ((Json.obj (Shape.narrowed (fun name => name == "jti") found)).get? "jti").bind
      asText? = some c.sessionId := by
    dsimp only [get?]
    rw [hfind]
    exact sessionId_of_ofJson? hclaims
  have hread : sessionShape.read text = _ := hnarrowed
  unfold sessionOfText
  rw [hread]
  dsimp only
  rw [hid]
  rfl

theorem of_ofText {text : String} {c : TokenClaims} (h : ofText text = .ok c) :
    ∃ j, shape.read text = .ok j ∧ ofJson? j = some c := by
  unfold ofText at h
  split at h
  · rename_i j hread
    cases hclaims : ofJson? j with
    | none =>
      rw [hclaims] at h
      cases h
    | some claims =>
      rw [hclaims] at h
      cases h
      exact ⟨j, hread, hclaims⟩
  · cases h

end TokenClaims

/-- A token that is accepted at some moment names its session at any time, to everybody who has
the same keys. -/
theorem TokenIssuer.sessionOf_of_verify {i j : TokenIssuer} (hkeys : i.keys = j.keys) {now : Instant}
    {token : String} {c : TokenClaims} (h : i.verify now token = .ok c) :
    j.sessionOf token = .ok c.sessionId := by
  obtain ⟨text, htext, h⟩ := of_bind_ok h
  obtain ⟨claims, hclaims, h⟩ := of_bind_ok h
  obtain ⟨registered, hregistered, h⟩ := of_bind_ok h
  obtain ⟨⟨⟩, hcheck, h⟩ := of_bind_ok h
  cases h
  obtain ⟨hexpiry, haudience⟩ := Expectation.of_check hcheck
  obtain ⟨json, hread, hjson⟩ := TokenClaims.of_ofText hclaims
  have hsession : TokenClaims.sessionOfText text = .ok c.sessionId := by
    rcases Shape.of_read_record hread with ⟨_, _, _, hstart, -⟩ | ⟨_, _, _, hstart, -⟩
    · rw [RegisteredClaims.expiresAt_of_array hstart hread hregistered] at hexpiry
      cases hexpiry
    · exact TokenClaims.sessionOfText_of_object hstart hread hjson
  unfold sessionOf
  rw [← hkeys, htext]
  simp only [bind, Except.bind, hsession, hregistered, Expectation.check_of_hasAudience haudience]
  rfl

end Turnstile
