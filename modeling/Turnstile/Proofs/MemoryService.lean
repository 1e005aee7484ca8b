import Turnstile.Proofs.Action
import Turnstile.Proofs.Policy.Engine
import Turnstile.Service.Login
import Turnstile.Service.PolicyAdmin
import Turnstile.Store.Memory

/-!
The service over the stores in memory, and what its calls read. A call that
only looks something up leaves the world as it is, so each of these has one
equation with a pure answer.
-/

namespace Turnstile

/-- What a service over the stores in memory is built from. -/
structure MemoryService where
  keys : TokenKeys
  passwords : PasswordScheme
  settings : Settings
  sessionIdAt : Nat → String
  saltAt : Nat → Bytes

namespace MemoryService

/-- The services themselves. -/
def app (m : MemoryService) : App MemoryState :=
  ⟨MemoryState.stores, m.keys, m.passwords, m.settings, m.sessionIdAt, m.saltAt⟩

@[simp] theorem app_stores (m : MemoryService) :
    m.app.stores = MemoryState.stores := rfl

end MemoryService

/-- The user is active and has a verified phone. -/
def User.MayAct (u : User) : Prop := u.status = "active" ∧ u.phoneVerified = true

namespace User

theorem checkState_of_mayAct {u : User} (h : u.MayAct) : u.checkState = .ok () := by
  obtain ⟨hs, hp⟩ := h
  simp [checkState, isBlocked, hs, hp, UserStatus.text]

theorem checkState_of_blocked {u : User} (h : u.status ≠ "active") :
    u.checkState = .error .accountBlocked := by
  simp [checkState, isBlocked, h, UserStatus.text]

theorem checkState_of_unverified {u : User} (h : u.status = "active")
    (hp : u.phoneVerified = false) :
    u.checkState = .error .accountNotVerified := by
  simp [checkState, isBlocked, h, hp, UserStatus.text]

theorem of_checkState_error {u : User} {e : ServiceError} (h : u.checkState = .error e) :
    e = .accountBlocked ∨ e = .accountNotVerified := by
  by_cases hs : u.status = "active"
  · cases hp : u.phoneVerified with
    | true =>
      rw [checkState_of_mayAct ⟨hs, hp⟩] at h
      cases h
    | false =>
      rw [checkState_of_unverified hs hp] at h
      exact .inr (Except.error.inj h).symm
  · rw [checkState_of_blocked hs] at h
    exact .inl (Except.error.inj h).symm

/-- The state of an account says nothing about a password. -/
theorem checkState_ne_incorrectPassword (u : User) :
    u.checkState ≠ .error .incorrectPassword := by
  intro h
  rcases of_checkState_error h with he | he <;> cases he

theorem checkState_eq_ok_iff {u : User} : u.checkState = .ok () ↔ u.MayAct := by
  refine ⟨fun h => ?_, checkState_of_mayAct⟩
  by_cases hs : u.status = "active"
  · cases hp : u.phoneVerified with
    | true => exact ⟨hs, hp⟩
    | false => simp [checkState_of_unverified hs hp] at h
  · simp [checkState_of_blocked hs] at h

end User

namespace MemoryState

/-- The account that a login names. -/
def named? (s : MemoryState) (name : String) : Option User :=
  match Identity.ofText name with
  | .email address => s.findByEmail? (Text.lower address)
  | .phone number => s.findByPhone? number

theorem named?_of_users {s t : MemoryState} (h : t.users = s.users) (name : String) :
    t.named? name = s.named? name := by
  unfold named? findByEmail? findByPhone?
  rw [h]

/-- The user has a session under the identifier. -/
def OwnsSession (s : MemoryState) (sessionId : String) (userId : Int) : Prop :=
  ∃ session, s.sessions.find? sessionId = some session ∧ session.userId = userId

/-- There is such a user, who may act. -/
def HasActive (s : MemoryState) (userId : Int) : Prop :=
  ∃ user, s.users.find? userId = some user ∧ user.MayAct

end MemoryState

namespace MemoryService

variable (m : MemoryService) (w : World MemoryState)

@[simp] theorem runOn_findByIdentity (name : String) :
    (m.app.findByIdentity name).runOn w = (.ok (w.stores.named? name), w) := by
  unfold App.findByIdentity MemoryState.named?
  cases Identity.ofText name <;> rw [Action.runOn_store] <;> rfl

theorem runOn_tokenRole (userId : Int) :
    (m.app.tokenRole userId).runOn w =
      ((match w.stores.policies.rolesOf userId with
        | role :: _ => .ok role.name
        | [] => .error (.error (.roleNotAssigned userId))), w) := by
  have h : (Action.store (m.app.stores.policies.rolesOf userId)).runOn w =
      (.ok (w.stores.policies.rolesOf userId), w) := Action.runOn_store ..
  unfold App.tokenRole
  rw [Action.runOn_bind_ok h]
  cases w.stores.policies.rolesOf userId <;> rfl

section OwnSession

variable {w} {claims : TokenClaims} {userId : Int}

theorem runOn_ownSession {session : Session}
    (h : w.stores.sessions.find? claims.sessionId = some session)
    (hu : session.userId = userId) :
    (m.app.ownSession claims userId).runOn w = (.ok session, w) := by
  simp [App.ownSession, Action.runOn_bind, MemoryState.stores, MemoryState.sessionStore, h, hu]

theorem runOn_ownSession_of_not (h : ¬ w.stores.OwnsSession claims.sessionId userId) :
    (m.app.ownSession claims userId).runOn w = (.error (.error .sessionNotFound), w) := by
  cases hf : w.stores.sessions.find? claims.sessionId with
  | none =>
    simp [App.ownSession, Action.runOn_bind, MemoryState.stores, MemoryState.sessionStore, hf]
  | some session =>
    have hu : session.userId ≠ userId := fun hu => h ⟨session, hf, hu⟩
    simp [App.ownSession, Action.runOn_bind, MemoryState.stores, MemoryState.sessionStore, hf, hu,
      Except.map]

/-- The session that was found, and nothing changed. -/
theorem of_runOn_ownSession {session : Session} {w₁ : World MemoryState}
    (h : (m.app.ownSession claims userId).runOn w = (.ok session, w₁)) :
    w.stores.sessions.find? claims.sessionId = some session ∧
      session.userId = userId ∧ w₁ = w := by
  by_cases ho : w.stores.OwnsSession claims.sessionId userId
  · obtain ⟨found, hf, hu⟩ := ho
    rw [runOn_ownSession m hf hu] at h
    cases h
    exact ⟨hf, hu, rfl⟩
  · rw [runOn_ownSession_of_not m ho] at h
    cases h

end OwnSession

section ActiveUser

variable {w} {userId : Int} {user : User}

theorem runOn_activeUser (h : w.stores.users.find? userId = some user) :
    (m.app.activeUser userId).runOn w =
      ((user.checkState.map fun _ => user).mapError .error, w) := by
  simp only [App.activeUser, Action.runOn_bind, app_stores, MemoryState.stores,
    MemoryState.userStore, Action.runOn_store, h, Action.runOn_require_some, Action.runOn_check]
  cases user.checkState <;> rfl

theorem runOn_activeUser_of_none (h : w.stores.users.find? userId = none) :
    (m.app.activeUser userId).runOn w = (.error (.error (.sessionUserNotFound userId)), w) := by
  simp [App.activeUser, Action.runOn_bind, MemoryState.stores, MemoryState.userStore, h]

end ActiveUser

end MemoryService

/-! ### A small service -/

namespace Sample

/-- Passwords are stored as they are, and every signature counts. -/
def service : MemoryService where
  keys := ⟨fun _ => .ok [], fun _ _ => true⟩
  passwords := ⟨fun _ password => password, fun password hash => .ok (password == hash)⟩
  settings := {
    listen := {}
    environment := .dev
    serviceName := "turnstile"
    serviceVersion := "1"
    logLevel := "info"
    telemetryUrl := none
    database := ⟨"", 1, 1⟩
    cacheUrl := ""
    tokens := ⟨"", "", "turnstile", 15, 7⟩
    policy := {}
    registration := {}
    security := ⟨[], 30⟩ }
  sessionIdAt number := toString number
  saltAt _ := []

def user : User where
  id := 1
  name := "Ann"
  phone := "1"
  email := "ann@example.com"
  passwordHash := "secret"
  avatarUrl := none
  phoneVerified := true
  emailVerified := true
  status := "active"
  createdAt := .ofSeconds 0
  updatedAt := .ofSeconds 0

def superadmin : Superadmin := ⟨"superadmin", "superadmin", by decide +kernel⟩

/-- The world with this user alone, who has the role of a member. -/
def world : World MemoryState where
  now := .ofSeconds 0
  drawn := 0
  engine := .bare superadmin .exact
  stores := {
    users := ⟨[(1, user)]⟩
    policies := {
      lastId := 1
      roles := ⟨[(1, ⟨1, "member", "", .ofSeconds 0, .ofSeconds 0⟩)]⟩
      userRoles := [(1, 1)] } }

end Sample

end Turnstile
