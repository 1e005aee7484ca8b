import Turnstile.Proofs.MemoryService
import Turnstile.Service.Access
import Mathlib.Data.List.TakeWhile

/-!
The access gate. `Granted` says what lets a request through, and `Refused`
which check stops it: one constructor for each check, in their order, under
the condition that all checks before it passed. The main statement is that the
gate answers exactly so, and that asking it changes nothing.
-/

namespace Turnstile

/-! ### Identifiers of routes -/

namespace ElementId

/-- The first bar of the text stands between method and path, and both are
there. -/
def Divides (e : ElementId) (text : String) : Prop :=
  text = e.text ∧ '|' ∉ e.method.toList ∧ e.method ≠ "" ∧ e.path ≠ ""

theorem ofText_of_divides {e : ElementId} {text : String} (h : e.Divides text) :
    ofText text = .ok e := by
  obtain ⟨rfl, hbar, hmethod, hpath⟩ := h
  have hchars : e.text.toList = e.method.toList ++ '|' :: e.path.toList := by
    simp [ElementId.text, String.toList_append]
  have hno : ∀ c ∈ e.method.toList, decide (c ≠ '|') = true := by
    intro c hc
    have hne : c ≠ '|' := fun h => hbar (h ▸ hc)
    simpa using hne
  have htake : e.text.toList.takeWhile (fun c => decide (c ≠ '|')) = e.method.toList := by
    rw [hchars, List.takeWhile_append_of_pos hno]
    simp
  have hdrop : (e.text.toList.dropWhile (fun c => decide (c ≠ '|'))).drop 1 =
      e.path.toList := by
    rw [hchars, List.dropWhile_append_of_pos hno]
    simp
  unfold ofText
  rw [htake, hdrop]
  simp [hmethod, hpath]

/-- What comes after the characters before the first bar starts with the bar.
-/
theorem bar_of_dropWhile {cs rest : List Char} {c : Char}
    (h : cs.dropWhile (fun c => decide (c ≠ '|')) = c :: rest) : c = '|' := by
  have hne : cs.dropWhile (fun c => decide (c ≠ '|')) ≠ [] := by
    rw [h]
    exact List.cons_ne_nil c rest
  have hhead := List.head_dropWhile_not (fun c => decide (c ≠ '|')) hne
  simp only [h, List.head_cons] at hhead
  simpa using hhead

theorem divides_of_ofText {e : ElementId} {text : String} (h : ofText text = .ok e) :
    e.Divides text := by
  unfold ofText at h
  simp only at h
  split at h
  · cases h
  · rename_i hboth
    cases h
    simp only [Bool.or_eq_true, List.isEmpty_iff, not_or] at hboth
    obtain ⟨hmethod, hpath⟩ := hboth
    cases hrest : text.toList.dropWhile (fun c => decide (c ≠ '|')) with
    | nil =>
      -- Without a bar there is no path.
      rw [hrest] at hpath
      exact absurd List.drop_nil hpath
    | cons c rest =>
      have hall := List.takeWhile_append_dropWhile
        (p := fun c => decide (c ≠ '|')) (l := text.toList)
      rw [hrest, bar_of_dropWhile hrest] at hall
      rw [hrest] at hpath
      refine ⟨?_, ?_, ?_, ?_⟩
      · rw [← String.toList_inj]
        refine hall.symm.trans ?_
        simp [ElementId.text]
      · intro hmem
        rw [String.toList_ofList] at hmem
        have := List.mem_takeWhile_imp hmem
        simp at this
      · exact fun he => hmethod (String.ofList_eq_empty_iff.mp he)
      · exact fun he => hpath (String.ofList_eq_empty_iff.mp he)

theorem ofText_of_not_divides {text : String} (h : ∀ e : ElementId, ¬ e.Divides text) :
    ofText text = .error (.invalidElementId text) := by
  cases hr : ofText text with
  | ok e => exact absurd (divides_of_ofText hr) (h e)
  | error e =>
    unfold ofText at hr
    simp only at hr
    split at hr
    · exact hr.symm
    · cases hr

end ElementId

/-! ### Checks -/

namespace Gate

variable (m : MemoryService) (w : World MemoryState) (bearer elementId : String)

/-- The header holds an access token that counts now. -/
def TokenAccepted (claims : TokenClaims) : Prop :=
  m.app.tokens.verify w.now (bearerToken bearer) = .ok claims ∧ claims.kind = .access

/-- The token is accepted and was issued for the user. -/
def Identified (claims : TokenClaims) (userId : Int) : Prop :=
  TokenAccepted m w bearer claims ∧ Text.readInt64 claims.subject = .ok userId

/-- All checks but those of route and rules pass: the user has the session of
the token, and may act. -/
def Present (claims : TokenClaims) (userId : Int) : Prop :=
  Identified m w bearer claims userId ∧ w.stores.OwnsSession claims.sessionId userId ∧
    w.stores.HasActive userId

/-- What the rules in force say of the role of a token and a route. -/
def decision [SizeLimit] (claims : TokenClaims) (element : ElementId) : Except Fault Bool :=
  w.engine.enforce claims.role (m.settings.policy.serviceType.text ++ ":" ++ element.method)
    element.path

/-- The user may do what the identifier of the route says. -/
def Granted [SizeLimit] (userId : Int) : Prop :=
  ∃ claims element, Present m w bearer claims userId ∧
    ElementId.Divides element elementId ∧ decision m w claims element = .ok true

/-- Why a request is refused: the first check that fails, all before it having
passed. -/
inductive Refused [SizeLimit] : Failure → Prop where
  | token {e : TokenError} (h : m.app.tokens.verify w.now (bearerToken bearer) = .error e) :
      Refused (.error (.invalidToken e.reason))
  | kind {claims : TokenClaims}
      (h : m.app.tokens.verify w.now (bearerToken bearer) = .ok claims)
      (hkind : claims.kind ≠ .access) :
      Refused (.error (.invalidToken (TokenError.wrongKind .access claims.kind).reason))
  | subject {claims : TokenClaims} (h : TokenAccepted m w bearer claims)
      (hsubject : ∀ userId, Text.readInt64 claims.subject ≠ .ok userId) :
      Refused (.error (.invalidToken (TokenError.subjectNotUser claims.subject).reason))
  | session {claims : TokenClaims} {userId : Int} (h : Identified m w bearer claims userId)
      (hsession : ¬ w.stores.OwnsSession claims.sessionId userId) :
      Refused (.error .sessionNotFound)
  | user {claims : TokenClaims} {userId : Int} (h : Identified m w bearer claims userId)
      (hsession : w.stores.OwnsSession claims.sessionId userId)
      (huser : w.stores.users.find? userId = none) :
      Refused (.error (.sessionUserNotFound userId))
  | blocked {claims : TokenClaims} {userId : Int} {user : User}
      (h : Identified m w bearer claims userId)
      (hsession : w.stores.OwnsSession claims.sessionId userId)
      (huser : w.stores.users.find? userId = some user) (hstatus : user.status ≠ "active") :
      Refused (.error .accountBlocked)
  | unverified {claims : TokenClaims} {userId : Int} {user : User}
      (h : Identified m w bearer claims userId)
      (hsession : w.stores.OwnsSession claims.sessionId userId)
      (huser : w.stores.users.find? userId = some user) (hstatus : user.status = "active")
      (hphone : user.phoneVerified = false) : Refused (.error .accountNotVerified)
  | route {claims : TokenClaims} {userId : Int} (h : Present m w bearer claims userId)
      (hroute : ∀ element : ElementId, ¬ element.Divides elementId) :
      Refused (.error (.invalidElementId elementId))
  | denied {claims : TokenClaims} {userId : Int} {element : ElementId}
      (h : Present m w bearer claims userId) (hroute : element.Divides elementId)
      (hrules : decision m w claims element = .ok false) :
      Refused (.error (.accessDenied userId elementId))
  | undecided {claims : TokenClaims} {userId : Int} {element : ElementId} {f : Fault}
      (h : Present m w bearer claims userId) (hroute : element.Divides elementId)
      (hrules : decision m w claims element = .error f) : Refused (.fault f)

/-! ### The gate follows its checks -/

variable {m w bearer elementId}

theorem runOn_token {claims : TokenClaims} (h : TokenAccepted m w bearer claims) :
    (Action.token (m.app.tokens.verifyKind w.now (bearerToken bearer) .access)).runOn w =
      (.ok claims, w) := by
  obtain ⟨hverify, hkind⟩ := h
  rw [Action.runOn_token, TokenIssuer.verifyKind, hverify]
  simp [Bind.bind, Except.bind, hkind, Pure.pure, Except.pure, Except.mapError]

theorem runOn_subject {claims : TokenClaims} {userId : Int}
    (h : Identified m w bearer claims userId) :
    (Action.token claims.userId).runOn w = (.ok userId, w) := by
  rw [Action.runOn_token, TokenClaims.userId, h.2]
  rfl

variable [SizeLimit]

/-- Asking on behalf of a user who is identified starts with the session. -/
theorem runOn_authorize {claims : TokenClaims} {userId : Int}
    (h : Identified m w bearer claims userId) :
    (m.app.authorize bearer elementId).runOn w = (do
      let _ ← m.app.ownSession claims userId
      let _ ← m.app.activeUser userId
      let element ← Action.check (ElementId.ofText elementId)
      let engine ← Action.engine
      let action := m.app.policy.serviceType.text ++ ":" ++ element.method
      match engine.enforce claims.role action element.path with
      | .ok true => return userId
      | .ok false => Action.fail (.accessDenied userId elementId)
      | .error f => throw (.fault f) : Action MemoryState Int).runOn w := by
  unfold App.authorize
  rw [Action.runOn_bind_ok (Action.runOn_clock w), Action.runOn_bind_ok (runOn_token h.1)]
  exact Action.runOn_bind_ok (runOn_subject h)

/-- Asking on behalf of a user who is present comes down to the route and the
rules. -/
theorem runOn_authorize_of_present {claims : TokenClaims} {userId : Int}
    (h : Present m w bearer claims userId) :
    (m.app.authorize bearer elementId).runOn w =
      ((match ElementId.ofText elementId with
        | .error e => .error (.error e)
        | .ok element =>
          match decision m w claims element with
          | .ok true => .ok userId
          | .ok false => .error (.error (.accessDenied userId elementId))
          | .error f => .error (.fault f)), w) := by
  obtain ⟨hid, ⟨session, hfind, hown⟩, user, huser, hact⟩ := h
  have hactive : (m.app.activeUser userId).runOn w = (.ok user, w) := by
    rw [MemoryService.runOn_activeUser m huser, User.checkState_of_mayAct hact]
    rfl
  rw [runOn_authorize hid, Action.runOn_bind_ok (MemoryService.runOn_ownSession m hfind hown),
    Action.runOn_bind_ok hactive, Action.runOn_bind, Action.runOn_check]
  cases ElementId.ofText elementId with
  | error e => rfl
  | ok element =>
    change (match decision m w claims element with
      | .ok true => pure userId
      | .ok false => Action.fail (.accessDenied userId elementId)
      | .error f => throw (.fault f) : Action MemoryState Int).runOn w = _
    dsimp only
    cases decision m w claims element with
    | error f => rfl
    | ok allowed => cases allowed <;> rfl

theorem runOn_authorize_of_granted {userId : Int}
    (h : Granted m w bearer elementId userId) :
    (m.app.authorize bearer elementId).runOn w = (.ok userId, w) := by
  obtain ⟨claims, element, hpresent, hroute, hrules⟩ := h
  rw [runOn_authorize_of_present hpresent, ElementId.ofText_of_divides hroute]
  simp only [hrules]

theorem runOn_authorize_of_refused {f : Failure} (h : Refused m w bearer elementId f) :
    (m.app.authorize bearer elementId).runOn w = (.error f, w) := by
  cases h with
  | token h =>
    unfold App.authorize
    rw [Action.runOn_bind_ok (Action.runOn_clock w)]
    refine Action.runOn_bind_error ?_
    rw [Action.runOn_token, TokenIssuer.verifyKind, h]
    rfl
  | kind h hkind =>
    unfold App.authorize
    rw [Action.runOn_bind_ok (Action.runOn_clock w)]
    refine Action.runOn_bind_error ?_
    rw [Action.runOn_token, TokenIssuer.verifyKind, h]
    simp [Bind.bind, Except.bind, hkind, Except.mapError, TokenError.toService, throw, throwThe,
      MonadExceptOf.throw]
  | @subject claims h hsubject =>
    unfold App.authorize
    rw [Action.runOn_bind_ok (Action.runOn_clock w), Action.runOn_bind_ok (runOn_token h)]
    refine Action.runOn_bind_error ?_
    rw [Action.runOn_token, TokenClaims.userId]
    cases hread : Text.readInt64 claims.subject with
    | ok id => exact absurd hread (hsubject id)
    | error e => rfl
  | session h hsession =>
    rw [runOn_authorize h,
      Action.runOn_bind_error (MemoryService.runOn_ownSession_of_not m hsession)]
  | user h hsession huser =>
    obtain ⟨session, hfind, hown⟩ := hsession
    rw [runOn_authorize h, Action.runOn_bind_ok (MemoryService.runOn_ownSession m hfind hown),
      Action.runOn_bind_error (MemoryService.runOn_activeUser_of_none m huser)]
  | blocked h hsession huser hstatus =>
    obtain ⟨session, hfind, hown⟩ := hsession
    rw [runOn_authorize h, Action.runOn_bind_ok (MemoryService.runOn_ownSession m hfind hown)]
    refine Action.runOn_bind_error ?_
    rw [MemoryService.runOn_activeUser m huser, User.checkState_of_blocked hstatus]
    rfl
  | unverified h hsession huser hstatus hphone =>
    obtain ⟨session, hfind, hown⟩ := hsession
    rw [runOn_authorize h, Action.runOn_bind_ok (MemoryService.runOn_ownSession m hfind hown)]
    refine Action.runOn_bind_error ?_
    rw [MemoryService.runOn_activeUser m huser, User.checkState_of_unverified hstatus hphone]
    rfl
  | route h hroute =>
    rw [runOn_authorize_of_present h, ElementId.ofText_of_not_divides hroute]
  | denied h hroute hrules =>
    rw [runOn_authorize_of_present h, ElementId.ofText_of_divides hroute]
    simp only [hrules]
  | undecided h hroute hrules =>
    rw [runOn_authorize_of_present h, ElementId.ofText_of_divides hroute]
    simp only [hrules]

variable (m w bearer elementId)

/-- The checks leave no gap: either all pass, or there is a first one that
fails. -/
theorem granted_or_refused :
    (∃ userId, Granted m w bearer elementId userId) ∨
      ∃ f, Refused m w bearer elementId f := by
  -- One check after the other: where it fails, it is the first to fail.
  cases hverify : m.app.tokens.verify w.now (bearerToken bearer) with
  | error e => exact .inr ⟨_, .token hverify⟩
  | ok claims =>
  by_cases hkind : claims.kind = .access
  case neg => exact .inr ⟨_, .kind hverify hkind⟩
  cases hsubject : Text.readInt64 claims.subject with
  | error e =>
    refine .inr ⟨_, .subject ⟨hverify, hkind⟩ fun id h => ?_⟩
    rw [hsubject] at h
    cases h
  | ok userId =>
  have hid : Identified m w bearer claims userId := ⟨⟨hverify, hkind⟩, hsubject⟩
  by_cases hsession : w.stores.OwnsSession claims.sessionId userId
  case neg => exact .inr ⟨_, .session hid hsession⟩
  cases huser : w.stores.users.find? userId with
  | none => exact .inr ⟨_, .user hid hsession huser⟩
  | some user =>
  by_cases hstatus : user.status = "active"
  case neg => exact .inr ⟨_, .blocked hid hsession huser hstatus⟩
  cases hphone : user.phoneVerified with
  | false => exact .inr ⟨_, .unverified hid hsession huser hstatus hphone⟩
  | true =>
  have hpresent : Present m w bearer claims userId :=
    ⟨hid, hsession, user, huser, hstatus, hphone⟩
  by_cases hroute : ∃ element : ElementId, element.Divides elementId
  case neg => exact .inr ⟨_, .route hpresent fun element h => hroute ⟨element, h⟩⟩
  obtain ⟨element, hroute⟩ := hroute
  cases hrules : decision m w claims element with
  | error f => exact .inr ⟨_, .undecided hpresent hroute hrules⟩
  | ok allowed =>
  cases allowed with
  | true => exact .inl ⟨userId, claims, element, hpresent, hroute, hrules⟩
  | false => exact .inr ⟨_, .denied hpresent hroute hrules⟩

/-- Asking changes nothing. -/
theorem authorize_world : ((m.app.authorize bearer elementId).runOn w).2 = w := by
  rcases granted_or_refused m w bearer elementId with ⟨userId, h⟩ | ⟨f, h⟩
  · rw [runOn_authorize_of_granted h]
  · rw [runOn_authorize_of_refused h]

variable {m w bearer elementId}

/-- What the gate refuses does not hang on the random values drawn before. -/
theorem Refused.drawn {f : Failure} (h : Refused m w bearer elementId f) (drawn : Nat) :
    Refused m { w with drawn := drawn } bearer elementId f := by
  cases h with
  | token h => exact .token h
  | kind h hkind => exact .kind h hkind
  | subject h hsubject => exact .subject h hsubject
  | session h hsession => exact .session h hsession
  | user h hsession huser => exact .user h hsession huser
  | blocked h hsession huser hstatus => exact .blocked h hsession huser hstatus
  | unverified h hsession huser hstatus hphone =>
    exact .unverified h hsession huser hstatus hphone
  | route h hroute => exact .route h hroute
  | denied h hroute hrules => exact .denied h hroute hrules
  | undecided h hroute hrules => exact .undecided h hroute hrules

theorem runOn_authorize_drawn (drawn : Nat) :
    (m.app.authorize bearer elementId).runOn { w with drawn := drawn } =
      (((m.app.authorize bearer elementId).runOn w).1, { w with drawn := drawn }) := by
  rcases granted_or_refused m w bearer elementId with ⟨userId, h⟩ | ⟨f, h⟩
  · rw [runOn_authorize_of_granted h]
    exact runOn_authorize_of_granted h
  · rw [runOn_authorize_of_refused h, runOn_authorize_of_refused (h.drawn drawn)]

theorem granted_of_authorize {userId : Int}
    (h : ((m.app.authorize bearer elementId).runOn w).1 = .ok userId) :
    Granted m w bearer elementId userId := by
  rcases granted_or_refused m w bearer elementId with ⟨other, hg⟩ | ⟨f, hr⟩
  · rw [runOn_authorize_of_granted hg] at h
    cases h
    exact hg
  · rw [runOn_authorize_of_refused hr] at h
    cases h

theorem refused_of_authorize {f : Failure}
    (h : ((m.app.authorize bearer elementId).runOn w).1 = .error f) :
    Refused m w bearer elementId f := by
  rcases granted_or_refused m w bearer elementId with ⟨userId, hg⟩ | ⟨other, hr⟩
  · rw [runOn_authorize_of_granted hg] at h
    cases h
  · rw [runOn_authorize_of_refused hr] at h
    cases h
    exact hr

/-- The gate lets a request through exactly for the user to whom it is
granted, refuses it with the first check that fails, and changes nothing. -/
theorem authorize_answer (m : MemoryService) (w : World MemoryState)
    (bearer elementId : String) :
    ∃ answer, (m.app.authorize bearer elementId).runOn w = (answer, w) ∧
      (∀ userId, answer = .ok userId ↔ Granted m w bearer elementId userId) ∧
      ∀ f, answer = .error f ↔ Refused m w bearer elementId f := by
  have hworld := authorize_world m w bearer elementId
  cases hrun : (m.app.authorize bearer elementId).runOn w with
  | mk answer w₁ =>
    have hfst : ((m.app.authorize bearer elementId).runOn w).1 = answer := by rw [hrun]
    rw [hrun] at hworld
    cases hworld
    refine ⟨answer, rfl,
      fun userId => ⟨fun h => granted_of_authorize (hfst.trans h), fun h => ?_⟩,
      fun f => ⟨fun h => refused_of_authorize (hfst.trans h), fun h => ?_⟩⟩
    · rw [runOn_authorize_of_granted h] at hrun
      cases hrun
      rfl
    · rw [runOn_authorize_of_refused h] at hrun
      cases hrun
      rfl

end Gate

end Turnstile
