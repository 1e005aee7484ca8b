import Turnstile.Proofs.Entitlement
import Turnstile.Proofs.Sessions
import Turnstile.Proofs.Token.Session

/-!
Logging out with a token that let somebody act. The session that it names is read from it at any
time, so a logout with it succeeds at any time, and without the session nobody acts with it any
more, until a login happens to get the same identifier.
-/

namespace Turnstile

/-! ### A session that is not there -/

/-- Only a login brings a session. -/
theorem SessionStep.find?_eq_none {m : MemoryService} {c : Call} {sessions : Table String Session}
    {sessionId : String} (h : SessionStep m c sessions)
    (hnone : c.world.stores.sessions.find? sessionId = none)
    (hstarts : ∀ s, c.Starts m s → s.id ≠ sessionId) : sessions.find? sessionId = none := by
  cases h with
  | kept => exact hnone
  | started hstart =>
    rw [Table.find?_put, if_neg (hstarts _ hstart)]
    exact hnone
  | renewed =>
    rw [Table.find?_change]
    split
    · rw [hnone]
      rfl
    · exact hnone
  | ended =>
    rw [Table.find?_erase]
    split
    · rfl
    · exact hnone

namespace MemoryService

variable {m : MemoryService} {w : World MemoryState} {bearer elementId sessionId : String}

/-- What is not there stays away over a run in which no login gets the identifier. -/
theorem after_find?_eq_none [SizeLimit] (ops : List Operation)
    (hnone : w.stores.sessions.find? sessionId = none)
    (hstarts : ∀ c ∈ m.calls w ops, ∀ s, c.Starts m s → s.id ≠ sessionId) :
    (m.after w ops).stores.sessions.find? sessionId = none := by
  induction ops generalizing w with
  | nil => exact hnone
  | cons op rest ih =>
    have hstep := session_step m ⟨w, op⟩
    exact ih (hstep.find?_eq_none hnone (hstarts _ List.mem_cons_self))
      fun c hc => hstarts c (List.mem_cons_of_mem _ hc)

/-- After a logout its session is not there. -/
theorem find?_step_logout [SizeLimit]
    (h : m.app.tokens.sessionOf (bearerToken bearer) = .ok sessionId) :
    (m.step w (.logout bearer)).stores.sessions.find? sessionId = none := by
  rw [step, runOn_logout h]
  exact (Table.find?_erase ..).trans (if_pos rfl)

/-- A logout, and what comes later. -/
theorem after_logout [SizeLimit] (ops later : List Operation) :
    m.after w (ops ++ .logout bearer :: later) =
      m.after (m.step (m.after w ops) (.logout bearer)) later := by
  unfold after
  rw [List.foldl_append, List.foldl_cons]

end MemoryService

/-- With a token whose session is not there nobody acts. -/
theorem Gate.refused_of_no_session [SizeLimit] {m : MemoryService} {w : World MemoryState}
    {bearer elementId sessionId : String}
    (hnamed : m.app.tokens.sessionOf (bearerToken bearer) = .ok sessionId)
    (hnone : w.stores.sessions.find? sessionId = none) :
    ∃ e, ((m.app.authorize bearer elementId).runOn w).1 = .error (.error e) ∧
      (e = .sessionNotFound ∨ ∃ reason, e = .invalidToken reason) := by
  have hgone {claims : TokenClaims} {userId : Int} (h : Identified m w bearer claims userId) :
      ¬ w.stores.OwnsSession claims.sessionId userId := by
    rintro ⟨session, hfind, -⟩
    have hid := TokenIssuer.sessionOf_of_verify rfl h.1.1
    rw [hnamed] at hid
    rw [← Except.ok.inj hid, hnone] at hfind
    cases hfind
  have hanswer {f : Failure} (h : Refused m w bearer elementId f) :
      ((m.app.authorize bearer elementId).runOn w).1 = .error f := by
    rw [runOn_authorize_of_refused h]
  rcases granted_or_refused m w bearer elementId with ⟨_, _, _, hpresent, -⟩ | ⟨f, h⟩
  · exact absurd hpresent.2.1 (hgone hpresent.1)
  have hf := hanswer h
  cases h with
  | token => exact ⟨_, hf, .inr ⟨_, rfl⟩⟩
  | kind => exact ⟨_, hf, .inr ⟨_, rfl⟩⟩
  | subject => exact ⟨_, hf, .inr ⟨_, rfl⟩⟩
  | session => exact ⟨_, hf, .inl rfl⟩
  | user h hsession => exact absurd hsession (hgone h)
  | blocked h hsession => exact absurd hsession (hgone h)
  | unverified h hsession => exact absurd hsession (hgone h)
  | route h => exact absurd h.2.1 (hgone h.1)
  | denied h => exact absurd h.2.1 (hgone h.1)
  | undecided h => exact absurd h.2.1 (hgone h.1)

/-- From a token that is accepted at some moment its session is read at any other. So who could act
with a token can log out with it at any later time, whatever happened in between, and from then on
nobody acts with it: it is refused as a token or for its session, for as long as no login gets the
identifier of this session. -/
theorem whoever_acts_logs_out [SizeLimit] :
    (∀ (i : TokenIssuer) (now : Instant) (token : String) (claims : TokenClaims),
      i.verify now token = .ok claims → i.sessionOf token = .ok claims.sessionId) ∧
    ∀ (m : MemoryService) (w : World MemoryState) (bearer elementId : String) (userId : Int),
      ((m.app.authorize bearer elementId).runOn w).1 = .ok userId →
      ∃ sessionId, m.app.tokens.sessionOf (bearerToken bearer) = .ok sessionId ∧
        ∀ ops, ((m.app.logout bearer).runOn (m.after w ops)).1 = .ok () ∧
          ∀ later, (∀ c ∈ m.calls (m.step (m.after w ops) (.logout bearer)) later,
              ∀ s, c.Starts m s → s.id ≠ sessionId) →
            ∀ elementId', ∃ e, ((m.app.authorize bearer elementId').runOn
                (m.after w (ops ++ .logout bearer :: later))).1 = .error (.error e) ∧
              (e = .sessionNotFound ∨ ∃ reason, e = .invalidToken reason) := by
  refine ⟨fun i now token claims h => TokenIssuer.sessionOf_of_verify rfl h,
    fun m w bearer elementId userId h => ?_⟩
  obtain ⟨claims, _, hpresent, -⟩ := Gate.granted_of_authorize h
  have hnamed : m.app.tokens.sessionOf (bearerToken bearer) = .ok claims.sessionId :=
    TokenIssuer.sessionOf_of_verify rfl hpresent.1.1.1
  refine ⟨claims.sessionId, hnamed, fun ops => ⟨?_, fun later hstarts elementId' => ?_⟩⟩
  · rw [MemoryService.runOn_logout hnamed]
  · rw [MemoryService.after_logout]
    exact Gate.refused_of_no_session hnamed
      (MemoryService.after_find?_eq_none later (MemoryService.find?_step_logout hnamed) hstarts)

namespace Sample

/-- Ann reads a file and logs out two hours later, when her token has expired. The token does not
count again after that, even where the clock is set back. -/
theorem reader_logs_out :
    ∃ response u, afterLogin service .exact memberReads = .ok (response, u) ∧
      ((service.app.authorize response.accessToken "GET|/files").runOn u).1 = .ok 1 ∧
      ((service.app.logout response.accessToken).runOn
        (service.after u [.clock (.ofSeconds 7200)])).1 = .ok () ∧
      ∃ e, ((service.app.authorize response.accessToken "GET|/files").runOn (service.after u
          [.clock (.ofSeconds 7200), .logout response.accessToken, .clock (.ofSeconds 60)])).1 =
            .error (.error e) ∧
        (e = .sessionNotFound ∨ ∃ reason, e = .invalidToken reason) := by
  obtain ⟨⟨response, u⟩, hafter, hseen⟩ := exists_of_any
    (x := afterLogin service .exact memberReads)
    (p := fun a => decide (a.1.user.id = 1 ∧
      (a.2.stores.policies.rolesOf 1).head?.map (fun role =>
        Gate.answer service a.2.engine role.name 1 "GET|/files") = some (.ok 1)))
    (by decide +kernel)
  obtain ⟨huser, hanswer⟩ := of_decide_eq_true hseen
  have hkeys : service.keys.Paired := fun message => ⟨[], rfl, rfl⟩
  obtain ⟨role, rest, hroles, -, hpresent⟩ :=
    present_of_afterLogin hkeys (by decide) hafter huser
  dsimp only at hanswer
  rw [hroles] at hanswer
  have hacts : ((service.app.authorize response.accessToken "GET|/files").runOn u).1 = .ok 1 := by
    rw [Gate.runOn_authorize_of_present (hpresent _ (.inl rfl))]
    exact Option.some.inj hanswer
  obtain ⟨sessionId, -, hends⟩ := whoever_acts_logs_out.2 service u _ _ _ hacts
  obtain ⟨hlogout, hgone⟩ := hends [.clock (.ofSeconds 7200)]
  refine ⟨response, u, hafter, hacts, hlogout,
    hgone [.clock (.ofSeconds 60)] (fun c hc s hstarts => ?_) "GET|/files"⟩
  obtain rfl := List.mem_singleton.mp hc
  obtain ⟨request, client, started, hop, -⟩ := hstarts
  cases hop

end Sample

end Turnstile
