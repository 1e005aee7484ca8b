import Turnstile.Proofs.Text
import Turnstile.Proofs.Token.RoundTrip

/-!
Tokens as callers send them. A token holds no white space, so it is found in the value of an
authorization header, with or without the word before it. What was issued is what counts.
-/

namespace Turnstile

/-! ### Characters of tokens -/

namespace CompactToken

/-- What was made is what was signed, and the signature. -/
theorem of_make {keys : TokenKeys} {claims : TokenClaims} {token : String}
    (h : make keys claims = .ok token) :
    ∃ signature, keys.sign (utf8 (signedPart claims)) = .ok signature ∧ token =
      String.ofList (signedPart claims ++ '.' :: Base64.urlSafe.encode signature) := by
  cases hsign : keys.sign (utf8 (signedPart claims)) with
  | error reason =>
    unfold signedPart at hsign
    unfold make at h
    simp only [bind, Except.bind, hsign] at h
    cases h
  | ok signature =>
    rw [make_of_sign hsign] at h
    exact ⟨signature, rfl, (Except.ok.inj h).symm⟩

theorem ne_empty_of_make {keys : TokenKeys} {claims : TokenClaims} {token : String}
    (h : make keys claims = .ok token) : token ≠ "" := by
  obtain ⟨signature, -, rfl⟩ := of_make h
  simp [String.ofList_eq_empty_iff]

/-- The characters of a token are digits of base 64 and dots. -/
theorem char_of_make {keys : TokenKeys} {claims : TokenClaims} {token : String}
    (h : make keys claims = .ok token) :
    ∀ c ∈ token.toList, c = '.' ∨ ∃ n < 64, c = Base64.urlSafe.digit n := by
  obtain ⟨signature, -, rfl⟩ := of_make h
  rw [String.toList_ofList]
  intro c hc
  simp only [signedPart, encodeText, List.append_assoc, List.cons_append, List.mem_append,
    List.mem_cons] at hc
  rcases hc with hc | hdot | hc | hdot | hc
  · exact .inr (Base64.exists_digit_of_mem_encode hc)
  · exact .inl hdot
  · exact .inr (Base64.exists_digit_of_mem_encode hc)
  · exact .inl hdot
  · exact .inr (Base64.exists_digit_of_mem_encode hc)

theorem isBlank_of_make {keys : TokenKeys} {claims : TokenClaims} {token : String}
    (h : make keys claims = .ok token) : ∀ c ∈ token.toList, Text.isBlank c = false := by
  have hdigits : ∀ n < 64, Text.isBlank (Base64.urlSafe.digit n) = false := by decide +kernel
  intro c hc
  rcases char_of_make h c hc with rfl | ⟨n, hn, rfl⟩
  · decide
  · exact hdigits n hn

/-- Keys for which every signature counts. -/
def anySignature : TokenKeys := ⟨fun _ => .ok [], fun _ _ => true⟩

/-- What a token says, whoever has signed it. -/
def content (token : String) : Except TokenError TokenClaims := do
  let text ← claimsText anySignature token
  TokenClaims.ofText text

theorem content_of_make {keys : TokenKeys} {claims : TokenClaims} {token : String}
    (hclaims : claims.Writable) (h : make keys claims = .ok token) :
    content token = .ok claims := by
  obtain ⟨signature, -, rfl⟩ := of_make h
  have hverify : anySignature.verify (utf8 (signedPart claims)) signature = true := rfl
  unfold content
  simp only [bind, Except.bind, claimsText_of_verify hverify]
  exact TokenClaims.ofText_toJson hclaims

end CompactToken

/-! ### Headers -/

section Header

variable {token : String} (hblank : ∀ c ∈ token.toList, Text.isBlank c = false)

include hblank

theorem Text.trim_of_no_blank : Text.trim token = token :=
  Text.trim_of_ends (fun c hc => hblank c (List.mem_of_mem_head? hc))
    fun c hc => hblank c (List.mem_of_mem_getLast? hc)

theorem bearerToken_of_bare : bearerToken token = token := by
  have hnone {start : List Char} (hstart : ' ' ∈ start) : dropStart? start token.toList = none := by
    unfold dropStart?
    rw [if_neg]
    intro hprefix
    have hmem := (List.isPrefixOf_iff_prefix.mp hprefix).subset hstart
    exact absurd (hblank ' ' hmem) (by decide)
  unfold bearerToken
  dsimp only
  rw [Text.trim_of_no_blank hblank, hnone (by decide), hnone (by decide)]
  change Text.trim (String.ofList token.toList) = token
  rw [String.ofList_toList, Text.trim_of_no_blank hblank]

theorem bearerToken_of_word (hne : token ≠ "") : bearerToken ("Bearer " ++ token) = token := by
  have hchars : ("Bearer " ++ token).toList = "Bearer ".toList ++ token.toList :=
    String.toList_append
  have hlast : ("Bearer " ++ token).toList.getLast? = token.toList.getLast? := by
    rw [hchars, List.getLast?_append_of_ne_nil _ (by simpa using hne)]
  have htrim : Text.trim ("Bearer " ++ token) = "Bearer " ++ token := by
    refine Text.trim_of_ends (fun c hc => ?_) fun c hc => ?_
    · rw [hchars] at hc
      obtain rfl : 'B' = c := Option.some.inj hc
      decide
    · rw [hlast] at hc
      exact hblank c (List.mem_of_mem_getLast? hc)
  have hdrop : dropStart? "Bearer ".toList ("Bearer ".toList ++ token.toList) =
      some token.toList := by
    unfold dropStart?
    rw [if_pos (List.isPrefixOf_iff_prefix.mpr (List.prefix_append _ _)), List.drop_left]
  unfold bearerToken
  dsimp only
  rw [htrim, hchars, hdrop]
  change Text.trim (String.ofList token.toList) = token
  rw [String.ofList_toList, Text.trim_of_no_blank hblank]

end Header

/-! ### Issued tokens -/

namespace TokenIssuer

variable {i : TokenIssuer} {issued : Instant} {kind : TokenKind} {sessionId role token : String}
  {userId : Int}

/-- What was issued could be dated, and was signed. -/
theorem of_issue (h : i.issue issued kind sessionId userId role = .ok token) :
    (issued.addSeconds? (i.lifetime kind)).isSome ∧
      CompactToken.make i.keys (i.issuedClaims issued kind sessionId userId role) = .ok token := by
  cases hdate : issued.addSeconds? (i.lifetime kind) with
  | none =>
    unfold issue claims at h
    rw [hdate] at h
    cases h
  | some expiry =>
    rw [issue_eq hdate] at h
    refine ⟨rfl, ?_⟩
    cases hmake : CompactToken.make i.keys (i.issuedClaims issued kind sessionId userId role) with
    | error reason =>
      rw [hmake] at h
      cases h
    | ok made =>
      rw [hmake] at h
      exact congrArg Except.ok (Except.ok.inj h)

/-- The times of a token that can be dated are numbers of 64 bits, whatever the clock shows. -/
theorem issuedClaims_writable_of_dated (h : (issued.addSeconds? (i.lifetime kind)).isSome) :
    (i.issuedClaims issued kind sessionId userId role).Writable := by
  obtain ⟨hspan, hspan'⟩ := Instant.countable_of_addSeconds? h
  obtain ⟨expiry, hexpiry⟩ := Option.isSome_iff_exists.mp h
  obtain ⟨rfl, hcalendar⟩ := Instant.of_addSeconds? hexpiry
  have hlow := hcalendar.le_seconds
  have hhigh := hcalendar.seconds_le
  rw [Instant.seconds_later] at hlow hhigh
  have hfirst : Instant.first.seconds = -8334601228800 := by decide
  have hlast : Instant.last.seconds = 8210266876799 := by decide
  unfold Instant.maxSpanSeconds at hspan hspan'
  refine ⟨?_, ?_, ?_⟩
  all_goals
    unfold TokenIssuer.issuedClaims Text.minInt64 Text.maxInt64
    dsimp only
    omega

/-- A token that was issued says what it was issued for. -/
theorem content_of_issue (h : i.issue issued kind sessionId userId role = .ok token) :
    CompactToken.content token = .ok (i.issuedClaims issued kind sessionId userId role) :=
  CompactToken.content_of_make (issuedClaims_writable_of_dated (of_issue h).1) (of_issue h).2

/-- Both tokens of a session can be dated and signed. -/
structure CanIssue (i : TokenIssuer) (now : Instant) (sessionId : String) (userId : Int)
    (role : String) : Prop where
  dated : ∀ kind, (now.addSeconds? (i.lifetime kind)).isSome
  signed : ∀ kind, ∃ signature, i.keys.sign (utf8 (CompactToken.signedPart
    (i.issuedClaims now kind sessionId userId role))) = .ok signature

/-- A pair is issued where its tokens can be dated and signed, and nowhere else. -/
theorem issuePair_ok_iff : (∃ pair, i.issuePair issued sessionId userId role = .ok pair) ↔
    i.CanIssue issued sessionId userId role := by
  refine ⟨fun ⟨pair, hpair⟩ => ?_, fun h => ?_⟩
  · have hissued : ∀ kind, ∃ token, i.issue issued kind sessionId userId role = .ok token := by
      rcases i.issuePair_ends issued sessionId userId role with
        ⟨accessToken, refreshToken, haccess, hrefresh, -⟩ | ⟨_, _, -, hfails⟩
      · intro kind
        cases kind with
        | access => exact ⟨accessToken, haccess⟩
        | refresh => exact ⟨refreshToken, hrefresh⟩
      · rw [hpair] at hfails
        cases hfails
    refine ⟨fun kind => ?_, fun kind => ?_⟩
    · obtain ⟨token, htoken⟩ := hissued kind
      exact (of_issue htoken).1
    · obtain ⟨token, htoken⟩ := hissued kind
      obtain ⟨signature, hsign, -⟩ := CompactToken.of_make (of_issue htoken).2
      exact ⟨signature, hsign⟩
  · have hissue : ∀ kind, ∃ token, i.issue issued kind sessionId userId role = .ok token := by
      intro kind
      obtain ⟨expiry, hexpiry⟩ := Option.isSome_iff_exists.mp (h.dated kind)
      obtain ⟨signature, hsign⟩ := h.signed kind
      have hmake := CompactToken.make_of_sign hsign
      exact ⟨_, by rw [issue_eq hexpiry, hmake]; rfl⟩
    obtain ⟨accessToken, haccess⟩ := hissue .access
    obtain ⟨refreshToken, hrefresh⟩ := hissue .refresh
    refine ⟨⟨sessionId, accessToken, refreshToken⟩, ?_⟩
    unfold issuePair
    rw [haccess, hrefresh]
    rfl

/-- Both tokens of a pair say what they were issued for. -/
theorem content_of_issuePair {pair : TokenPair}
    (h : i.issuePair issued sessionId userId role = .ok pair) (kind : TokenKind) :
    CompactToken.content (pair.token kind) =
      .ok (i.issuedClaims issued kind sessionId userId role) := by
  rcases i.issuePair_ends issued sessionId userId role with
    ⟨accessToken, refreshToken, haccess, hrefresh, hpair⟩ | ⟨_, _, -, hfails⟩
  · obtain rfl := Except.ok.inj (h.symm.trans hpair)
    cases kind with
    | access => exact content_of_issue haccess
    | refresh => exact content_of_issue hrefresh
  · rw [h] at hfails
    cases hfails

/-- A token is found again in the header that it is sent in. -/
theorem bearerToken_of_issue (h : i.issue issued kind sessionId userId role = .ok token)
    {bearer : String} (hbearer : bearer = token ∨ bearer = "Bearer " ++ token) :
    bearerToken bearer = token := by
  have hmake := (of_issue h).2
  have hblank := CompactToken.isBlank_of_make hmake
  rcases hbearer with rfl | rfl
  · exact bearerToken_of_bare hblank
  · exact bearerToken_of_word hblank (CompactToken.ne_empty_of_make hmake)

/-- A token that was issued with paired keys is accepted at once as what it was issued for. -/
theorem verifyKind_of_issue (hkeys : i.keys.Paired) (hissued : 0 ≤ issued.seconds)
    (hlifetime : 0 < i.lifetime kind)
    (h : i.issue issued kind sessionId userId role = .ok token) :
    i.verifyKind issued token kind = .ok (i.issuedClaims issued kind sessionId userId role) := by
  obtain ⟨made, hmade, hhonours⟩ := issue_honoured hkeys hissued hlifetime (of_issue h).1
  obtain rfl := Except.ok.inj (h.symm.trans hmade)
  refine hhonours.counts issued (Int.le_refl _) ?_
  exact Int.le_add_of_nonneg_right (Int.le_of_lt hlifetime)

end TokenIssuer

end Turnstile
