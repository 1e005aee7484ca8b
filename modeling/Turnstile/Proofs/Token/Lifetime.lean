import Turnstile.Proofs.MemoryService
import Turnstile.Proofs.Settings
import Turnstile.Proofs.Token.Bearer

/-!
How long tokens may count. Settings pass their check with lifetimes of any length, but a token is
issued only if the calendar has the second in which it ends. Where both tokens of a pair have room,
nothing overflows, and callers are told the lifetime that the access token has.
-/

namespace Turnstile

/-! ### Room in the calendar -/

namespace Instant

theorem last_seconds : last.seconds = 8210266876799 := by decide

theorem last_nanos : last.nanos = last.seconds * 1000000000 + 999999999 := by decide

/-- The moments from the start of one year to the end of another. -/
def InYears (t : Instant) (fromYear toYear : Int) : Prop :=
  (Date.mk fromYear 1 1).dayNumber * 86400 ≤ t.seconds ∧
    t.seconds < (Date.mk (toYear + 1) 1 1).dayNumber * 86400

instance (t : Instant) (fromYear toYear : Int) : Decidable (t.InYears fromYear toYear) := by
  unfold InYears
  infer_instance

/-- From 1970 on, time can be added as long as the calendar has the second that is reached. -/
theorem isSome_addSeconds?_iff {t : Instant} {s : Int} (ht : 0 ≤ t.seconds) (hs : 0 ≤ s) :
    (t.addSeconds? s).isSome ↔ t.seconds + s ≤ last.seconds := by
  constructor
  · intro h
    obtain ⟨u, hu⟩ := Option.isSome_iff_exists.mp h
    obtain ⟨rfl, hcalendar⟩ := of_addSeconds? hu
    rw [← seconds_later]
    exact hcalendar.seconds_le
  · intro h
    have hsecond : t.seconds = t.nanos / 1000000000 := rfl
    have hfirst : first.nanos ≤ 0 := by decide
    have hcalendar : (t.later s).InCalendar := by
      constructor
      · rw [later_nanos]
        omega
      · rw [later_nanos, last_nanos]
        omega
    have hspan : Countable s := by
      rw [last_seconds] at h
      constructor
      · have hmin : -maxSpanSeconds ≤ 0 := by decide
        omega
      · have hmax : 8210266876799 ≤ maxSpanSeconds := by decide
        omega
    rw [addSeconds?_of_inCalendar hspan hcalendar]
    rfl

end Instant

/-! ### Issuing -/

namespace TokenIssuer

variable {i : TokenIssuer} {now : Instant} {kind : TokenKind} {sessionId role : String}
  {userId : Int}

/-- Tokens count for some time. -/
def LastsSome (i : TokenIssuer) : Prop := ∀ kind, 0 < i.lifetime kind

/-- The calendar has the seconds in which tokens end that are issued now. -/
def HasRoom (i : TokenIssuer) (now : Instant) : Prop :=
  ∀ kind, now.seconds + i.lifetime kind ≤ Instant.last.seconds

theorem dated_iff_hasRoom (hlasts : i.LastsSome) (hnow : 0 ≤ now.seconds) :
    (∀ kind, (now.addSeconds? (i.lifetime kind)).isSome) ↔ i.HasRoom now :=
  forall_congr' fun kind => Instant.isSome_addSeconds?_iff hnow (Int.le_of_lt (hlasts kind))

/-- A token that can be dated fails, if at all, to be signed. -/
theorem issue_ne_fault (h : (now.addSeconds? (i.lifetime kind)).isSome) (f : Fault) :
    i.issue now kind sessionId userId role ≠ .error (.fault f) := by
  obtain ⟨expiry, hexpiry⟩ := Option.isSome_iff_exists.mp h
  rw [issue_eq hexpiry]
  intro hfault
  cases hmake : CompactToken.make i.keys (i.issuedClaims now kind sessionId userId role) with
  | ok token => simp [hmake, Except.mapError] at hfault
  | error reason => simp [hmake, Except.mapError] at hfault

/-- A token that cannot be dated is not issued. -/
theorem issue_of_not_dated (h : now.addSeconds? (i.lifetime kind) = none) :
    i.issue now kind sessionId userId role = .error (.fault .timeOutOfRange) := by
  simp only [issue, claims, h]
  rfl

theorem issuePair_ne_fault (h : ∀ kind, (now.addSeconds? (i.lifetime kind)).isSome) (f : Fault) :
    i.issuePair now sessionId userId role ≠ .error (.fault f) := by
  intro hfault
  rcases i.issuePair_ends now sessionId userId role with
    ⟨_, _, -, -, hpair⟩ | ⟨kind, failure, hissue, hpair⟩
  · rw [hpair] at hfault
    cases hfault
  · rw [hpair] at hfault
    rw [Except.error.inj hfault] at hissue
    exact issue_ne_fault (h kind) f hissue

section Signing

variable (hsigns : ∀ message, ∃ signature, i.keys.sign message = .ok signature)

include hsigns

/-- With keys that sign, a pair is issued exactly if both tokens can be dated. -/
theorem issuePair_ok_iff_dated :
    (∃ pair, i.issuePair now sessionId userId role = .ok pair) ↔
      ∀ kind, (now.addSeconds? (i.lifetime kind)).isSome := by
  rw [issuePair_ok_iff]
  constructor
  · intro h
    exact h.dated
  · intro h
    exact ⟨h, fun kind => hsigns _⟩

/-- With keys that sign, nothing but a missing date keeps a pair from being issued. -/
theorem issuePair_of_not_dated (h : ¬ ∀ kind, (now.addSeconds? (i.lifetime kind)).isSome) :
    i.issuePair now sessionId userId role = .error (.fault .timeOutOfRange) := by
  rcases i.issuePair_ends now sessionId userId role with
    ⟨_, _, -, -, hpair⟩ | ⟨kind, failure, hissue, hpair⟩
  · exact absurd ((issuePair_ok_iff_dated hsigns).mp ⟨_, hpair⟩) h
  · cases hdate : now.addSeconds? (i.lifetime kind) with
    | none =>
      rw [issue_of_not_dated hdate] at hissue
      rw [hpair, ← Except.error.inj hissue]
    | some expiry =>
      -- This token can be dated and signed, so it cannot be the one that failed.
      obtain ⟨signature, hsign⟩ := hsigns (utf8 (CompactToken.signedPart
        (i.issuedClaims now kind sessionId userId role)))
      rw [issue_eq hdate, CompactToken.make_of_sign hsign] at hissue
      cases hissue

end Signing

/-- The lifetime is told as it is, if it is a span that the calendar has. -/
theorem accessSeconds_eq (hlasts : i.LastsSome)
    (hle : i.lifetime .access ≤ Instant.last.seconds) : i.accessSeconds = i.lifetime .access := by
  have hpos := hlasts .access
  rw [Instant.last_seconds] at hle
  unfold accessSeconds
  exact Int.bmod_eq_of_le_mul_two (by omega) (by omega)

/-- From 1970 on, what is told to callers is the lifetime of an access token that has room. -/
theorem HasRoom.accessSeconds_eq (h : i.HasRoom now) (hlasts : i.LastsSome)
    (hnow : 0 ≤ now.seconds) : i.accessSeconds = i.lifetime .access := by
  have hroom := h .access
  exact TokenIssuer.accessSeconds_eq hlasts (by omega)

/-- The longest lifetimes for which there is room up to the end of the year 3000. -/
theorem hasRoom_in_years_iff :
    (∀ now : Instant, now.InYears 1970 3000 → i.HasRoom now) ↔
      i.accessMinutes ≤ 136295527680 ∧ i.refreshDays ≤ 94649672 := by
  have hend : (Date.mk (3000 + 1) 1 1).dayNumber * 86400 = 32535216000 := by decide
  have hlast := Instant.last_seconds
  constructor
  · intro h
    -- The last second of these years leaves the least room.
    have hroom := h (.ofSeconds 32535215999) (by decide)
    have hnow : (Instant.ofSeconds 32535215999).seconds = 32535215999 := by decide
    have haccess := hroom .access
    have hrefresh := hroom .refresh
    simp only [lifetime] at haccess hrefresh
    omega
  · rintro ⟨haccess, hrefresh⟩ now ⟨-, hnow⟩ kind
    cases kind with
    | access =>
      simp only [lifetime]
      omega
    | refresh =>
      simp only [lifetime]
      omega

end TokenIssuer

/-! ### Settings that pass their check -/

theorem App.lastsSome_of_check {σ : Type} {app : App σ} (hcheck : app.settings.check = .ok ()) :
    app.tokens.LastsSome := by
  have haccepted := Settings.check_eq_ok_iff.mp hcheck
  intro kind
  cases kind with
  | access =>
    have haccess : 0 < app.tokens.accessMinutes := haccepted.accessMinutes
    simp only [TokenIssuer.lifetime]
    omega
  | refresh =>
    have hrefresh : 0 < app.tokens.refreshDays := haccepted.refreshDays
    simp only [TokenIssuer.lifetime]
    omega

/-- Tokens under settings that pass their check, at every moment from 1970 to 3000. Where the
calendar has room for both lifetimes, issuing ends in no fault and the lifetime that callers are told
is that of the settings; with keys that sign, a pair is issued then and only then, and without room
the fault is that of a missing date. Every pair that is issued ends after it begins, the access token
after the time that callers are told. There is room at all these moments exactly for lifetimes up to
a certain length, which the check does not ask for. -/
theorem App.issuePair_of_check {σ : Type} (app : App σ) (hcheck : app.settings.check = .ok ()) :
    (∀ now : Instant, now.InYears 1970 3000 → ∀ (sessionId role : String) (userId : Int),
      let answer := app.tokens.issuePair now sessionId userId role
      (app.tokens.HasRoom now →
        (∀ f, answer ≠ .error (.fault f)) ∧
          app.tokens.accessSeconds = app.settings.tokens.accessMinutes * 60) ∧
      ((∀ message, ∃ signature, app.keys.sign message = .ok signature) →
        ((∃ pair, answer = .ok pair) ↔ app.tokens.HasRoom now) ∧
          (¬ app.tokens.HasRoom now → answer = .error (.fault .timeOutOfRange))) ∧
      ∀ pair, answer = .ok pair →
        (∀ kind, ∃ claims, CompactToken.content (pair.token kind) = .ok claims ∧
          claims.issuedAt = now.seconds ∧ claims.issuedAt < claims.expiresAt) ∧
        ∃ claims, CompactToken.content pair.accessToken = .ok claims ∧
          app.tokens.accessSeconds = claims.expiresAt - claims.issuedAt) ∧
    ((∀ now : Instant, now.InYears 1970 3000 → app.tokens.HasRoom now) ↔
      app.settings.tokens.accessMinutes ≤ 136295527680 ∧
        app.settings.tokens.refreshDays ≤ 94649672) := by
  have hlasts := App.lastsSome_of_check hcheck
  refine ⟨fun now hyears sessionId role userId => ?_, TokenIssuer.hasRoom_in_years_iff⟩
  have hnow : 0 ≤ now.seconds := hyears.1
  have hdated := TokenIssuer.dated_iff_hasRoom hlasts hnow
  refine ⟨fun hroom => ⟨fun f => ?_, ?_⟩, fun hsigns => ⟨?_, fun hroom => ?_⟩, fun pair hpair => ?_⟩
  · exact TokenIssuer.issuePair_ne_fault (hdated.mpr hroom) f
  · exact hroom.accessSeconds_eq hlasts hnow
  · rw [← hdated]
    exact TokenIssuer.issuePair_ok_iff_dated hsigns
  · rw [← hdated] at hroom
    exact TokenIssuer.issuePair_of_not_dated hsigns hroom
  · have hcontent := TokenIssuer.content_of_issuePair hpair
    have hroom : app.tokens.HasRoom now :=
      hdated.mp (TokenIssuer.issuePair_ok_iff.mp ⟨pair, hpair⟩).dated
    refine ⟨fun kind => ⟨_, hcontent kind, rfl, ?_⟩, _, hcontent .access, ?_⟩
    · have hpos := hlasts kind
      simp only [TokenIssuer.issuedClaims]
      omega
    · rw [hroom.accessSeconds_eq hlasts hnow]
      simp only [TokenIssuer.issuedClaims]
      omega

namespace Sample

/-- The service with another lifetime of access tokens. -/
def serviceFor (accessMinutes : Int) : MemoryService :=
  { service with settings :=
      { service.settings with tokens := ⟨"", "", "turnstile", accessMinutes, 7⟩ } }

/-- Tokens for fifteen minutes have room. -/
theorem quarter_of_an_hour_issued :
    (serviceFor 15).app.settings.check = .ok () ∧
      (Instant.ofSeconds 1700000000).InYears 1970 3000 ∧
      (∃ pair, (serviceFor 15).app.tokens.issuePair (.ofSeconds 1700000000) "session-1" 42 "member" =
        .ok pair) ∧ (serviceFor 15).app.tokens.accessSeconds = 900 := by
  have hcheck : (serviceFor 15).app.settings.check = .ok () := by decide +kernel
  have hyears : (Instant.ofSeconds 1700000000).InYears 1970 3000 := by decide +kernel
  obtain ⟨hissues, hroom⟩ := (serviceFor 15).app.issuePair_of_check hcheck
  have hnow := hroom.mpr ⟨by decide +kernel, by decide +kernel⟩ (.ofSeconds 1700000000) hyears
  obtain ⟨hhas, hsigns, -⟩ := hissues (.ofSeconds 1700000000) hyears "session-1" "member" 42
  exact ⟨hcheck, hyears, (hsigns fun _ => ⟨_, rfl⟩).1.mpr hnow, (hhas hnow).2⟩

/-- Settings with a lifetime that no calendar has pass the check, and then no token is issued. -/
theorem endless_lifetime_faults :
    (serviceFor 1000000000000000).app.settings.check = .ok () ∧
      (Instant.ofSeconds 1700000000).InYears 1970 3000 ∧
      (serviceFor 1000000000000000).app.tokens.issuePair (.ofSeconds 1700000000) "session-1" 42
        "member" = .error (.fault .timeOutOfRange) := by
  refine ⟨by decide +kernel, by decide +kernel, ?_⟩
  rfl

end Sample

end Turnstile
