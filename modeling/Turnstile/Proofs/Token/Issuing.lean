import Turnstile.Token.Issuer

/-!
How issuing a pair of tokens ends: with both tokens of the session, or with the
fault of the first one that cannot be issued.
-/

namespace Turnstile

/-- Whether something can be signed is a matter of the keys, and not of what is signed. -/
def TokenKeys.Uniform (keys : TokenKeys) : Prop :=
  (∀ message, ∃ signature, keys.sign message = .ok signature) ∨
    ∃ reason, ∀ message, keys.sign message = .error reason

namespace TokenIssuer

variable {i : TokenIssuer} {now : Instant} {sessionId role : String} {userId : Int}

/-- Both tokens are issued, or one of them is not. -/
theorem issuePair_ends (i : TokenIssuer) (now : Instant) (sessionId : String) (userId : Int)
    (role : String) :
    (∃ accessToken refreshToken, i.issue now .access sessionId userId role = .ok accessToken ∧
      i.issue now .refresh sessionId userId role = .ok refreshToken ∧
      i.issuePair now sessionId userId role = .ok ⟨sessionId, accessToken, refreshToken⟩) ∨
    ∃ kind f, i.issue now kind sessionId userId role = .error f ∧
      i.issuePair now sessionId userId role = .error f := by
  unfold issuePair
  cases haccess : i.issue now .access sessionId userId role with
  | error f => exact .inr ⟨.access, f, haccess, rfl⟩
  | ok accessToken =>
    cases hrefresh : i.issue now .refresh sessionId userId role with
    | error f => exact .inr ⟨.refresh, f, hrefresh, rfl⟩
    | ok refreshToken => exact .inl ⟨accessToken, refreshToken, rfl, rfl, rfl⟩

theorem issuePair_sessionId {pair : TokenPair}
    (h : i.issuePair now sessionId userId role = .ok pair) : pair.sessionId = sessionId := by
  rcases i.issuePair_ends now sessionId userId role with ⟨_, _, -, -, hpair⟩ | ⟨_, _, -, hpair⟩
  · rw [hpair] at h
    cases h
    rfl
  · rw [hpair] at h
    cases h

theorem issue_error {kind : TokenKind} {f : Failure}
    (h : i.issue now kind sessionId userId role = .error f) :
    f = .fault .timeOutOfRange ∨ ∃ reason, f = .error (.internal reason) := by
  unfold issue claims at h
  cases hdate : now.addSeconds? (i.lifetime kind) with
  | none =>
    rw [hdate] at h
    exact .inl (Except.error.inj h).symm
  | some expiry =>
    rw [hdate] at h
    dsimp only [Bind.bind, Except.bind] at h
    generalize CompactToken.make _ _ = made at h
    cases made with
    | ok token => cases h
    | error reason => exact .inr ⟨_, (Except.error.inj h).symm⟩

/-- Tokens are not issued where they cannot be dated or signed. -/
theorem issuePair_error {f : Failure} (h : i.issuePair now sessionId userId role = .error f) :
    f = .fault .timeOutOfRange ∨ ∃ reason, f = .error (.internal reason) := by
  rcases i.issuePair_ends now sessionId userId role with
    ⟨_, _, -, -, hpair⟩ | ⟨_, _, hissue, hpair⟩
  · rw [hpair] at h
    cases h
  · rw [hpair] at h
    cases h
    exact issue_error hissue

/-- Whether a token can be issued does not depend on the session that it names. -/
theorem issue_uniform (h : i.keys.Uniform) (now : Instant) (kind : TokenKind) (userId : Int)
    (role : String) :
    (∀ sessionId, ∃ token, i.issue now kind sessionId userId role = .ok token) ∨
      ∃ f, ∀ sessionId, i.issue now kind sessionId userId role = .error f := by
  unfold issue claims CompactToken.make
  cases now.addSeconds? (i.lifetime kind) with
  | none => exact .inr ⟨_, fun _ => rfl⟩
  | some expiry =>
    dsimp only [Bind.bind, Except.bind]
    rcases h with hsigns | ⟨reason, hfails⟩
    · refine .inl fun sessionId => ?_
      obtain ⟨signature, hsignature⟩ := hsigns _
      rw [hsignature]
      exact ⟨_, rfl⟩
    · refine .inr ⟨.error (.internal ("Failed to encode token: " ++ reason)), fun sessionId => ?_⟩
      rw [hfails]
      rfl

/-- Whether a pair can be issued does not depend on the session that it is for. -/
theorem issuePair_uniform (h : i.keys.Uniform) (now : Instant) (userId : Int) (role : String) :
    (∀ sessionId, ∃ pair, i.issuePair now sessionId userId role = .ok pair) ∨
      ∃ f, ∀ sessionId, i.issuePair now sessionId userId role = .error f := by
  unfold issuePair
  rcases issue_uniform h now .access userId role with haccess | ⟨f, haccess⟩
  · rcases issue_uniform h now .refresh userId role with hrefresh | ⟨f, hrefresh⟩
    · refine .inl fun sessionId => ?_
      obtain ⟨accessToken, ha⟩ := haccess sessionId
      obtain ⟨refreshToken, hr⟩ := hrefresh sessionId
      rw [ha, hr]
      exact ⟨_, rfl⟩
    · refine .inr ⟨f, fun sessionId => ?_⟩
      obtain ⟨accessToken, ha⟩ := haccess sessionId
      rw [ha, hrefresh]
      rfl
  · refine .inr ⟨f, fun sessionId => ?_⟩
    rw [haccess]
    rfl

/-- A token that was accepted as one of a kind is verified and of that kind. -/
theorem of_verifyKind {token : String} {kind : TokenKind} {claims : TokenClaims}
    (h : i.verifyKind now token kind = .ok claims) :
    i.verify now token = .ok claims ∧ claims.kind = kind := by
  unfold verifyKind at h
  cases hverify : i.verify now token with
  | error e =>
    rw [hverify] at h
    cases h
  | ok found =>
    rw [hverify] at h
    by_cases hkind : found.kind = kind
    · simp only [Bind.bind, Except.bind, hkind, ne_eq, not_true_eq_false, if_false] at h
      cases h
      exact ⟨rfl, hkind⟩
    · simp only [Bind.bind, Except.bind, hkind, ne_eq, not_false_eq_true, if_true] at h
      cases h

end TokenIssuer

end Turnstile
