import Turnstile.Token.Issuer
import Turnstile.Proofs.Time
import Turnstile.Proofs.Token.Claims
import Turnstile.Proofs.Token.Keys

/-!
Tokens from the moment of their issue on: what a pair of tokens says is read back from it, each
token counts in its own role from its first to its last second and at no other time, and the
session that it belongs to can be read from it always.
-/

namespace Turnstile

/-- Answered as an invalid token. -/
def IsRefused {α : Type} (answer : Except TokenError α) : Prop :=
  ∃ reason, answer.mapError TokenError.toService = .error (.invalidToken reason)

theorem isRefused_error {α : Type} (e : TokenError) :
    IsRefused (Except.error e : Except TokenError α) :=
  ⟨e.reason, rfl⟩

/-- The token of a pair in the given role. -/
def TokenPair.token (pair : TokenPair) : TokenKind → String
  | .access => pair.accessToken
  | .refresh => pair.refreshToken

/-- The token stands for the claims: it is accepted as what they say while they count, and their
session is read from it at any time. -/
structure TokenIssuer.Honours (i : TokenIssuer) (token : String) (claims : TokenClaims) : Prop where
  counts : ∀ now : Instant, claims.notBefore ≤ now.seconds → now.seconds ≤ claims.expiresAt →
    i.verifyKind now token claims.kind = .ok claims
  outside : ∀ now : Instant, now.seconds < claims.notBefore ∨ claims.expiresAt < now.seconds →
    IsRefused (i.verifyKind now token claims.kind)
  otherKind : ∀ (now : Instant) (kind : TokenKind), kind ≠ claims.kind →
    IsRefused (i.verifyKind now token kind)
  session : i.sessionOf token = .ok claims.sessionId

/-! ### Checks -/

section Checks

variable {c : TokenClaims} {i : TokenIssuer} {token : String}

/-- Claims that were written are checked by their times alone. -/
theorem check_registered (hfrom : 0 ≤ c.notBefore) (hto : 0 ≤ c.expiresAt) (now : Int) :
    Expectation.check ⟨some now, some c.issuer⟩ c.registered =
      if c.expiresAt < now then .error .expired
      else if now < c.notBefore then .error .immature
      else .ok () := by
  unfold Expectation.check TokenClaims.registered
  simp only [Expectation.missing?, Int.toNat_of_nonneg hfrom, Int.toNat_of_nonneg hto,
    Option.isNone_some, Bool.false_eq_true, if_false, ne_eq, not_true_eq_false]
  by_cases hexpired : c.expiresAt < now
  · simp only [hexpired, if_true]
    rfl
  · by_cases himmature : now < c.notBefore
    · simp only [hexpired, himmature, if_true, if_false]
      rfl
    · simp only [hexpired, himmature, if_false]
      rfl

/-- The claims of a token that is opened count within their times. -/
theorem verify_of_claimsText (htext : CompactToken.claimsText i.keys token = .ok c.toJson.text)
    (hissuer : c.issuer = i.name) (hc : c.Writable) (hfrom : 0 ≤ c.notBefore)
    (hto : 0 ≤ c.expiresAt) (now : Instant) :
    i.verify now token =
      if c.expiresAt < now.seconds then .error .expired
      else if now.seconds < c.notBefore then .error .immature
      else .ok c := by
  unfold TokenIssuer.verify
  simp only [bind, Except.bind, htext, TokenClaims.ofText_toJson hc,
    TokenClaims.registered_ofText hc hfrom hto, ← hissuer, check_registered hfrom hto]
  by_cases hexpired : c.expiresAt < now.seconds
  · simp only [hexpired, if_true]
  · by_cases himmature : now.seconds < c.notBefore
    · simp only [hexpired, himmature, if_true, if_false]
    · simp only [hexpired, himmature, if_false]
      rfl

theorem sessionOf_of_claimsText
    (htext : CompactToken.claimsText i.keys token = .ok c.toJson.text) (hc : c.Writable)
    (hfrom : 0 ≤ c.notBefore) (hto : 0 ≤ c.expiresAt) :
    i.sessionOf token = .ok c.sessionId := by
  unfold TokenIssuer.sessionOf
  simp only [bind, Except.bind, htext, TokenClaims.sessionOfText_toJson hc,
    TokenClaims.registered_ofText hc hfrom hto]
  rfl

theorem verifyKind_of_verify {now : Instant} (h : i.verify now token = .ok c) :
    i.verifyKind now token c.kind = .ok c := by
  unfold TokenIssuer.verifyKind
  simp only [bind, Except.bind, h, ne_eq, not_true_eq_false, if_false]
  rfl

theorem verifyKind_of_verify_error {now : Instant} {e : TokenError}
    (h : i.verify now token = .error e) (kind : TokenKind) :
    IsRefused (i.verifyKind now token kind) := by
  unfold TokenIssuer.verifyKind
  rw [h]
  exact isRefused_error e

theorem verifyKind_of_ne {now : Instant} {kind : TokenKind} (h : i.verify now token = .ok c)
    (hkind : kind ≠ c.kind) : IsRefused (i.verifyKind now token kind) := by
  unfold TokenIssuer.verifyKind
  simp only [bind, Except.bind, h, if_pos hkind.symm]
  exact isRefused_error (.wrongKind kind c.kind)

/-- A token that is opened to claims of this issuer stands for them. -/
theorem honours_of_claimsText (htext : CompactToken.claimsText i.keys token = .ok c.toJson.text)
    (hissuer : c.issuer = i.name) (hc : c.Writable) (hfrom : 0 ≤ c.notBefore)
    (hto : 0 ≤ c.expiresAt) : i.Honours token c := by
  have hverify := verify_of_claimsText htext hissuer hc hfrom hto
  have hcounts : ∀ now : Instant, c.notBefore ≤ now.seconds → now.seconds ≤ c.expiresAt →
      i.verify now token = .ok c := by
    intro now hafter hbefore
    rw [hverify, if_neg (Int.not_lt.mpr hbefore), if_neg (Int.not_lt.mpr hafter)]
  have houtside : ∀ now : Instant, now.seconds < c.notBefore ∨ c.expiresAt < now.seconds →
      ∃ e, i.verify now token = .error e := by
    intro now h
    by_cases hexpired : c.expiresAt < now.seconds
    · exact ⟨.expired, (hverify now).trans (if_pos hexpired)⟩
    · exact ⟨.immature, by rw [hverify, if_neg hexpired, if_pos (h.resolve_right hexpired)]⟩
  refine ⟨fun now hafter hbefore => ?_, fun now h => ?_, fun now kind hkind => ?_,
    sessionOf_of_claimsText htext hc hfrom hto⟩
  · exact verifyKind_of_verify (hcounts now hafter hbefore)
  · obtain ⟨e, he⟩ := houtside now h
    exact verifyKind_of_verify_error he c.kind
  · by_cases hwithin : c.notBefore ≤ now.seconds ∧ now.seconds ≤ c.expiresAt
    · exact verifyKind_of_ne (hcounts now hwithin.1 hwithin.2) hkind
    · obtain ⟨e, he⟩ := houtside now (by omega)
      exact verifyKind_of_verify_error he kind

end Checks

/-! ### Issuing -/

section Issuing

variable {i : TokenIssuer} {issued : Instant} {kind : TokenKind}

/-- What the token of a kind says that is issued for a session. -/
def TokenIssuer.issuedClaims (i : TokenIssuer) (issued : Instant) (kind : TokenKind)
    (sessionId : String) (userId : Int) (role : String) : TokenClaims where
  sessionId := sessionId
  subject := toString userId
  role := role
  issuer := i.name
  issuedAt := issued.seconds
  notBefore := issued.seconds
  expiresAt := issued.seconds + i.lifetime kind
  kind := kind

variable {sessionId role : String} {userId : Int}

/-- Times that the calendar has are written as numbers of 64 bits. -/
theorem issuedClaims_writable (hissued : 0 ≤ issued.seconds) (hlifetime : 0 < i.lifetime kind)
    (hexpiry : (issued.later (i.lifetime kind)).InCalendar) :
    (i.issuedClaims issued kind sessionId userId role).Writable := by
  have hlast : Instant.last.seconds ≤ Text.maxInt64 := by decide
  have hle := hexpiry.seconds_le
  rw [Instant.seconds_later] at hle
  have hmin : Text.minInt64 ≤ 0 := by decide
  refine ⟨?_, ?_, ?_⟩
  all_goals
    unfold TokenIssuer.issuedClaims
    dsimp only
    omega

theorem issue_eq {expiry : Instant} (h : issued.addSeconds? (i.lifetime kind) = some expiry) :
    i.issue issued kind sessionId userId role =
      (CompactToken.make i.keys (i.issuedClaims issued kind sessionId userId role)).mapError
        fun reason => .error (.internal ("Failed to encode token: " ++ reason)) := by
  obtain ⟨rfl, -⟩ := Instant.of_addSeconds? h
  unfold TokenIssuer.issue TokenIssuer.claims
  rw [h]
  dsimp only [bind, Except.bind]
  rw [Instant.seconds_later]
  rfl

/-- With paired keys a token is issued, and it stands for its claims. -/
theorem issue_honoured (hkeys : i.keys.Paired) (hissued : 0 ≤ issued.seconds)
    (hlifetime : 0 < i.lifetime kind) (hdate : (issued.addSeconds? (i.lifetime kind)).isSome) :
    ∃ token, i.issue issued kind sessionId userId role = .ok token ∧
      i.Honours token (i.issuedClaims issued kind sessionId userId role) := by
  obtain ⟨expiry, hexpiry⟩ := Option.isSome_iff_exists.mp hdate
  have hcalendar := (Instant.of_addSeconds? hexpiry).1 ▸ (Instant.of_addSeconds? hexpiry).2
  obtain ⟨token, hmake, htext⟩ := CompactToken.claimsText_make hkeys
    (i.issuedClaims issued kind sessionId userId role)
  refine ⟨token, ?_, ?_⟩
  · rw [issue_eq hexpiry, hmake]
    rfl
  · exact honours_of_claimsText htext rfl (issuedClaims_writable hissued hlifetime hcalendar)
      hissued (Int.le_of_lt (Int.add_pos_of_nonneg_of_pos hissued hlifetime))

/-- With paired keys both tokens of a session are issued, and they stand for their claims. -/
theorem issuePair_honoured (hkeys : i.keys.Paired) (haccess : 0 < i.accessMinutes)
    (hrefresh : 0 < i.refreshDays) (hissued : 0 ≤ issued.seconds)
    (hdates : ∀ kind, (issued.addSeconds? (i.lifetime kind)).isSome) :
    ∃ pair, i.issuePair issued sessionId userId role = .ok pair ∧
      ∀ kind, i.Honours (pair.token kind) (i.issuedClaims issued kind sessionId userId role) := by
  have hlifetime : ∀ kind, 0 < i.lifetime kind := by
    intro kind
    cases kind with
    | access => exact Int.mul_pos haccess (by decide)
    | refresh => exact Int.mul_pos hrefresh (by decide)
  have htokens : ∀ kind, ∃ token, i.issue issued kind sessionId userId role = .ok token ∧
      i.Honours token (i.issuedClaims issued kind sessionId userId role) :=
    fun kind => issue_honoured hkeys hissued (hlifetime kind) (hdates kind)
  obtain ⟨accessToken, hissue, hhonours⟩ := htokens .access
  obtain ⟨refreshToken, hissue', hhonours'⟩ := htokens .refresh
  refine ⟨⟨sessionId, accessToken, refreshToken⟩, ?_, fun kind => ?_⟩
  · unfold TokenIssuer.issuePair
    rw [hissue, hissue']
    rfl
  · cases kind with
    | access => exact hhonours
    | refresh => exact hhonours'

end Issuing

/-- Both tokens of a pair are issued, with the claims that were asked for and a subject that names
the user, and stand for these claims: from the second of issue to the last second of the lifetime
each is accepted in its own role, at no other time and in no other role, and the session is read
from it at any time. -/
theorem issuePair_round_trip (i : TokenIssuer) (hkeys : i.keys.Paired)
    (haccess : 0 < i.accessMinutes) (hrefresh : 0 < i.refreshDays)
    (issued : Instant) (hissued : 0 ≤ issued.seconds)
    (hdates : ∀ kind, (issued.addSeconds? (i.lifetime kind)).isSome)
    (sessionId role : String) (userId : Int)
    (huser : Text.minInt64 ≤ userId ∧ userId ≤ Text.maxInt64) :
    ∃ pair, i.issuePair issued sessionId userId role = .ok pair ∧ ∀ kind,
      (i.issuedClaims issued kind sessionId userId role).userId = .ok userId ∧
      i.Honours (pair.token kind) (i.issuedClaims issued kind sessionId userId role) := by
  obtain ⟨pair, hpair, hhonours⟩ := issuePair_honoured hkeys haccess hrefresh hissued hdates
  refine ⟨pair, hpair, fun kind => ⟨?_, hhonours kind⟩⟩
  unfold TokenClaims.userId TokenIssuer.issuedClaims
  rw [Text.readInt64_toString huser.1 huser.2]

/-- An issuer of tokens that count for a quarter of an hour and for thirty days. -/
def mersenneIssuer : TokenIssuer where
  keys := .ofRsa TokenKeys.mersennePrivate TokenKeys.mersennePublic
  name := "access-service"
  accessMinutes := 15
  refreshDays := 30

theorem mersenneIssuer_round_trip :
    ∃ pair, mersenneIssuer.issuePair (.ofSeconds 1700000000) "session-1" 42 "member" = .ok pair ∧
      ∀ kind, (mersenneIssuer.issuedClaims (.ofSeconds 1700000000) kind "session-1" 42
          "member").userId = .ok 42 ∧
        mersenneIssuer.Honours (pair.token kind)
          (mersenneIssuer.issuedClaims (.ofSeconds 1700000000) kind "session-1" 42 "member") := by
  have hdates : ∀ kind, ((Instant.ofSeconds 1700000000).addSeconds?
      (mersenneIssuer.lifetime kind)).isSome := by
    intro kind
    cases kind <;> decide
  exact issuePair_round_trip mersenneIssuer (TokenKeys.ofRsa_paired TokenKeys.mersenne_matches)
    (by decide) (by decide) (.ofSeconds 1700000000) (by decide) hdates "session-1" "member" 42
    (by decide)

end Turnstile
