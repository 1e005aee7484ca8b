import Turnstile.Token.Validity
import Turnstile.Proofs.Json.Shape

/-!
Claims that were written are read back: all of them, the session alone, and those by which
it is decided whether a token counts.
-/

namespace Turnstile.TokenClaims

/-- The claims with their names, as they are written. -/
def fields (c : TokenClaims) : List (String × Json) :=
  [("jti", .str c.sessionId), ("sub", .str c.subject), ("role", .str c.role),
    ("iss", .str c.issuer), ("iat", .int c.issuedAt), ("nbf", .int c.notBefore),
    ("exp", .int c.expiresAt), ("typ", .str c.kind.text)]

/-- The times of the claims are numbers of 64 bits. -/
structure Writable (c : TokenClaims) : Prop where
  issuedAt : Text.minInt64 ≤ c.issuedAt ∧ c.issuedAt ≤ Text.maxInt64
  notBefore : Text.minInt64 ≤ c.notBefore ∧ c.notBefore ≤ Text.maxInt64
  expiresAt : Text.minInt64 ≤ c.expiresAt ∧ c.expiresAt ≤ Text.maxInt64

variable {c : TokenClaims}

theorem Writable.plain (h : c.Writable) : ∀ f ∈ c.fields, f.2.Plain := by
  intro f hf
  simp only [fields, List.mem_cons, List.not_mem_nil, or_false] at hf
  rcases hf with rfl | rfl | rfl | rfl | rfl | rfl | rfl | rfl
  · exact .str _
  · exact .str _
  · exact .str _
  · exact .str _
  · exact .int (Shape.natAbs_of_int64 h.issuedAt)
  · exact .int (Shape.natAbs_of_int64 h.notBefore)
  · exact .int (Shape.natAbs_of_int64 h.expiresAt)
  · exact .str _

theorem fields_distinct (c : TokenClaims) : (c.fields.map (·.1)).Nodup := by
  change ["jti", "sub", "role", "iss", "iat", "nbf", "exp", "typ"].Nodup
  decide

/-- All claims are read back. -/
theorem ofText_toJson (h : c.Writable) : ofText c.toJson.text = .ok c := by
  have hread : shape.read c.toJson.text = .ok (.obj c.fields) := by
    refine Shape.read_record ⟨c.fields_distinct, h.plain, ?_⟩ rfl
    intro f hf m hm
    simp only [List.mem_cons, List.not_mem_nil, or_false] at hf
    rcases hf with rfl | rfl | rfl | rfl | rfl | rfl | rfl | rfl
    all_goals
      cases hm
      refine ⟨?_, by decide⟩
    · exact .text _
    · exact .text _
    · exact .text _
    · exact .text _
    · exact Shape.takes_int64 h.issuedAt
    · exact Shape.takes_int64 h.notBefore
    · exact Shape.takes_int64 h.expiresAt
    · refine .choice ?_
      cases c.kind <;> decide
  have hclaims : ofJson? (.obj c.fields) = some c := by
    cases c with
    | mk sessionId subject role issuer issuedAt notBefore expiresAt kind =>
      cases kind <;> rfl
  unfold ofText
  rw [hread]
  dsimp only
  rw [hclaims]
  rfl

/-- The session alone is read back. -/
theorem sessionOfText_toJson (h : c.Writable) :
    sessionOfText c.toJson.text = .ok c.sessionId := by
  have hread : sessionShape.read c.toJson.text = .ok (.obj [("jti", .str c.sessionId)]) := by
    refine Shape.read_record ⟨c.fields_distinct, h.plain, ?_⟩ rfl
    intro f hf m hm
    simp only [List.mem_cons, List.not_mem_nil, or_false] at hf
    rcases hf with rfl | rfl | rfl | rfl | rfl | rfl | rfl | rfl
    all_goals cases hm
    exact ⟨.text _, by decide⟩
  unfold sessionOfText
  rw [hread]
  rfl

/-- The claims that decide whether a token counts. -/
def registered (c : TokenClaims) : RegisteredClaims where
  expiresAt := some c.expiresAt.toNat
  notBefore := some c.notBefore.toNat
  subject := some c.subject
  issuer := some c.issuer
  hasAudience := false

theorem registered_ofText (h : c.Writable) (hfrom : 0 ≤ c.notBefore) (hto : 0 ≤ c.expiresAt) :
    RegisteredClaims.ofText c.toJson.text = .ok c.registered := by
  have hread : RegisteredClaims.shape.read c.toJson.text =
      .ok (.obj [("sub", .str c.subject), ("iss", .str c.issuer), ("nbf", .int c.notBefore),
        ("exp", .int c.expiresAt)]) := by
    refine Shape.read_record ⟨c.fields_distinct, h.plain, ?_⟩ rfl
    intro f hf m hm
    simp only [List.mem_cons, List.not_mem_nil, or_false] at hf
    rcases hf with rfl | rfl | rfl | rfl | rfl | rfl | rfl | rfl
    all_goals cases hm
    · exact ⟨.optional (.any (.str _)), by decide⟩
    · exact ⟨.optional (.any (.str _)), by decide⟩
    · exact ⟨.any (.int (Shape.natAbs_of_int64 h.notBefore)), by decide⟩
    · exact ⟨.any (.int (Shape.natAbs_of_int64 h.expiresAt)), by decide⟩
  have htime : ∀ n : Int, 0 ≤ n → RegisteredClaims.time? (.int n) = some n.toNat :=
    fun n hn => if_pos hn
  unfold RegisteredClaims.ofText
  rw [hread]
  change Except.ok (RegisteredClaims.mk (RegisteredClaims.time? (.int c.expiresAt))
    (RegisteredClaims.time? (.int c.notBefore)) _ _ _) = _
  rw [htime _ hto, htime _ hfrom]
  rfl

end Turnstile.TokenClaims
