import Turnstile.Proofs.Login.Renewal
import Turnstile.Proofs.Run

/-!
Where sessions come from and how they end, over whole runs. `SessionStep` is
everything that a step can do to the table of sessions. From it, `Traced`
follows the table back to the history: each session is that of one login, up
to the time of its last refresh, and a logout is final as long as identifiers
are fresh.
-/

namespace Turnstile

/-! ### What a step says of a session -/

namespace Call

variable (m : MemoryService) (c : Call)

/-- A login that succeeds starts the session. -/
def Starts (s : Session) : Prop :=
  ∃ request client response, c.operation = .login request client ∧
    ((m.app.login request client).runOn c.world).1 = .ok response ∧
    s = Session.start c.world.now response.sessionId response.user.id client

/-- A logout that succeeds names the session. -/
def Ends (sessionId : String) : Prop :=
  ∃ bearer, c.operation = .logout bearer ∧
    ((m.app.logout bearer).runOn c.world).1 = .ok () ∧
    m.app.tokens.sessionOf (bearerToken bearer) = .ok sessionId

/-- A refresh by the client succeeds with a token that names the session. -/
def Renews (sessionId : String) (client : Client) : Prop :=
  ∃ request response claims, c.operation = .refresh request client ∧
    ((m.app.refresh request client).runOn c.world).1 = .ok response ∧
    m.app.tokens.verify c.world.now (bearerToken request.refreshToken) = .ok claims ∧
    claims.sessionId = sessionId

/-- The gate lets somebody through with a token that names the session. -/
def Admits [SizeLimit] (sessionId : String) : Prop :=
  ∃ bearer elementId userId claims, c.operation = .authorize bearer elementId ∧
    ((m.app.authorize bearer elementId).runOn c.world).1 = .ok userId ∧
    m.app.tokens.verify c.world.now (bearerToken bearer) = .ok claims ∧
    claims.sessionId = sessionId

variable {m c}

theorem not_ends (h : ∀ bearer, c.operation ≠ .logout bearer) (sessionId : String) :
    ¬ c.Ends m sessionId :=
  fun ⟨bearer, hop, _⟩ => h bearer hop

theorem Starts.not_ends {s : Session} (h : c.Starts m s) (sessionId : String) :
    ¬ c.Ends m sessionId := by
  obtain ⟨request, client, response, hop, -⟩ := h
  exact Call.not_ends (by rw [hop]; exact fun _ h => nomatch h) sessionId

theorem Renews.not_ends {id : String} {client : Client} (h : c.Renews m id client)
    (sessionId : String) : ¬ c.Ends m sessionId := by
  obtain ⟨request, response, claims, hop, -⟩ := h
  exact Call.not_ends (by rw [hop]; exact fun _ h => nomatch h) sessionId

/-- A login gets the next identifier. -/
theorem Starts.id_eq {s : Session} (h : c.Starts m s) : s.id = m.sessionIdAt c.world.drawn := by
  obtain ⟨request, client, response, -, hok, rfl⟩ := h
  have hends := login_ends m request client c.world
  rw [hok] at hends
  generalize ((m.app.login request client).runOn c.world).2 = v at hends
  cases hends with
  | started _ _ _ hid => exact hid

/-- A token names one session only. -/
theorem Ends.unique {id₁ id₂ : String} (h₁ : c.Ends m id₁) (h₂ : c.Ends m id₂) :
    id₁ = id₂ := by
  obtain ⟨bearer₁, hop₁, -, hid₁⟩ := h₁
  obtain ⟨bearer₂, hop₂, -, hid₂⟩ := h₂
  rw [hop₁] at hop₂
  cases hop₂
  exact Except.ok.inj (hid₁.symm.trans hid₂)

end Call

/-- What a step does to the sessions. -/
inductive SessionStep (m : MemoryService) (c : Call) : Table String Session → Prop
  | kept (hends : ∀ sessionId, ¬ c.Ends m sessionId) : SessionStep m c c.world.stores.sessions
  | started {s : Session} {name : String} {user : User} (h : c.Starts m s)
      (hnamed : c.world.stores.named? name = some user) (huser : s.userId = user.id) :
      SessionStep m c (c.world.stores.sessions.put s.id s)
  | renewed {sessionId : String} {client : Client} {session : Session}
      (h : c.Renews m sessionId client)
      (hfind : c.world.stores.sessions.find? sessionId = some session)
      (hclient : session.isOf client = true) :
      SessionStep m c
        (c.world.stores.sessions.change session.id fun x => { x with updatedAt := c.world.now })
  | ended {sessionId : String} (h : c.Ends m sessionId) :
      SessionStep m c (c.world.stores.sessions.erase sessionId)

namespace SessionStep

variable {m : MemoryService} {w v : World MemoryState}

theorem of_login {request : LoginRequest} {client : Client}
    {answer : Except Failure LoginResponse}
    (hrun : (m.app.login request client).runOn w = (answer, v))
    (h : LoginEnd m request client w answer v) :
    SessionStep m ⟨w, .login request client⟩ v.stores.sessions := by
  have hends : ∀ sessionId, ¬ Call.Ends m ⟨w, .login request client⟩ sessionId :=
    Call.not_ends fun _ h => nomatch h
  cases h with
  | unnamed => exact .kept hends
  | inactive => exact .kept hends
  | refused _ _ hvalidated =>
    rw [(Lockout.compared_of_runOn hvalidated).sessions]
    exact .kept hends
  | unissued _ _ hvalidated =>
    rw [(Lockout.compared_of_runOn hvalidated).sessions]
    exact .kept hends
  | @started user response s hnamed hact hvalidated hid huser =>
    have hstart : Call.Starts m ⟨w, .login request client⟩
        (Session.start w.now response.sessionId user.id client) :=
      ⟨request, client, response, rfl, by rw [hrun], by rw [huser]; rfl⟩
    dsimp only
    rw [(Lockout.compared_of_runOn hvalidated).sessions]
    exact .started hstart hnamed rfl

theorem of_refresh {request : RefreshRequest} {client : Client}
    {answer : Except Failure LoginResponse}
    (hrun : (m.app.refresh request client).runOn w = (answer, v))
    (h : RefreshEnd m request client w answer v) :
    SessionStep m ⟨w, .refresh request client⟩ v.stores.sessions := by
  cases h with
  | failed => exact .kept (Call.not_ends fun _ h => nomatch h)
  | @renewed claims session response hverify hfind hclient =>
    have hrenews : Call.Renews m ⟨w, .refresh request client⟩ claims.sessionId client :=
      ⟨request, response, claims, rfl, by rw [hrun], hverify, rfl⟩
    exact .renewed hrenews hfind hclient

theorem of_logout {bearer : String} {answer : Except Failure Unit}
    (hrun : (m.app.logout bearer).runOn w = (answer, v))
    (h : LogoutEnd m bearer w answer v) :
    SessionStep m ⟨w, .logout bearer⟩ v.stores.sessions := by
  cases h with
  | @failed f =>
    refine .kept ?_
    rintro sessionId ⟨other, hop, hok, -⟩
    cases hop
    rw [hrun] at hok
    cases hok
  | ended hnamed => exact .ended ⟨bearer, rfl, by rw [hrun], hnamed⟩

theorem of_quiet {op : Operation} (h : w.QuietTo v) (hop : ∀ bearer, op ≠ .logout bearer) :
    SessionStep m ⟨w, op⟩ v.stores.sessions := by
  rw [h.sessions]
  exact .kept (Call.not_ends hop)

end SessionStep

/-- Every step does one of these. -/
theorem session_step [SizeLimit] (m : MemoryService) (c : Call) :
    SessionStep m c (c.next m).stores.sessions := by
  obtain ⟨w, op⟩ := c
  cases op <;> rw [Call.next, MemoryService.step]
  case login request client => exact .of_login (Prod.eta _).symm (login_ends m request client w)
  case refresh request client =>
    exact .of_refresh (Prod.eta _).symm (refresh_ends m request client w)
  case logout bearer => exact .of_logout (Prod.eta _).symm (logout_ends m bearer w)
  case register request => exact .of_quiet (m.quiet_register request w) (by simp)
  case authorize bearer elementId =>
    exact .of_quiet (m.quiet_authorize bearer elementId w) (by simp)
  case admin call => exact .of_quiet (m.quiet_admin call w) (by simp)
  case setStatus userId status =>
    exact .of_quiet (Action.Quiet.setStatus userId status w) (by simp)
  case clock now => exact .kept (Call.not_ends (by simp))

/-- Whoever is let through with a token has the session that it names. -/
theorem Call.Admits.session [SizeLimit] {m : MemoryService} {c : Call} {sessionId : String}
    (h : c.Admits m sessionId) :
    ∃ x, c.world.stores.sessions.find? sessionId = some x := by
  obtain ⟨bearer, elementId, userId, claims, -, hok, hverify, rfl⟩ := h
  obtain ⟨found, element, hpresent, -⟩ := Gate.granted_of_authorize hok
  obtain ⟨⟨⟨hfound, -⟩, -⟩, ⟨x, hx, -⟩, -⟩ := hpresent
  rw [hfound] at hverify
  cases hverify
  exact ⟨x, hx⟩

/-- A session is renewed by the client that it belongs to. -/
theorem Call.Renews.session {m : MemoryService} {c : Call} {sessionId : String}
    {client : Client} (h : c.Renews m sessionId client) :
    ∃ x, c.world.stores.sessions.find? sessionId = some x ∧ x.isOf client = true := by
  obtain ⟨request, response, claims, -, hok, hverify, rfl⟩ := h
  have hends := refresh_ends m request client c.world
  rw [hok] at hends
  generalize ((m.app.refresh request client).runOn c.world).2 = v at hends
  cases hends with
  | @renewed found x response hfound hfind hclient =>
    rw [hfound] at hverify
    cases hverify
    exact ⟨x, hfind, hclient⟩

/-! ### Back to the history -/

/-- Identifiers that a later login draws were not in use before. -/
def Fresh (m : MemoryService) (history : List Call) : Prop :=
  history.Pairwise fun earlier later => ∀ s, later.Starts m s →
    ¬ earlier.Ends m s.id ∧ ∀ t, earlier.Starts m t → t.id ≠ s.id

/-- Of all the history, one login alone started the session, and no logout has
named it since. Only the time of its last refresh is not that of the login. -/
def Origin (m : MemoryService) (history : List Call) (x : Session) : Prop :=
  ∃ pre c post s, history = pre ++ c :: post ∧ c.Starts m s ∧
    x = { s with updatedAt := x.updatedAt } ∧
    (∀ d ∈ pre ++ post, ∀ t, d.Starts m t → t.id ≠ x.id) ∧ ∀ d ∈ post, ¬ d.Ends m x.id

section Origins

variable {m : MemoryService} {past : List Call} {d : Call} {x y : Session}

/-- The login that has just happened is the only one with a fresh identifier.
-/
theorem Origin.of_starts (hfresh : Fresh m (past ++ [d])) (h : d.Starts m x) :
    Origin m (past ++ [d]) x := by
  refine ⟨past, d, [], x, rfl, h, rfl, ?_, fun _ h => nomatch h⟩
  intro c hc t ht
  rw [List.append_nil] at hc
  exact ((List.pairwise_append.mp hfresh).2.2 c hc d List.mem_cons_self x h).2 t ht

/-- A session keeps its origin as long as no logout names it. -/
theorem Origin.snoc (h : Origin m past x) (hfresh : Fresh m (past ++ [d]))
    (hends : ¬ d.Ends m x.id) (hy : y = { x with updatedAt := y.updatedAt }) :
    Origin m (past ++ [d]) y := by
  obtain ⟨pre, c, post, s, rfl, hstarts, hx, honly, hafter⟩ := h
  have hid : y.id = x.id := by rw [hy]
  have hc : c ∈ pre ++ c :: post := List.mem_append_right _ List.mem_cons_self
  have hsx : s.id = x.id := by rw [hx]
  refine ⟨pre, c, post ++ [d], s, by simp, hstarts, ?_, ?_, ?_⟩
  · rw [hy, hx]
  · rw [hid, ← List.append_assoc]
    intro e he t ht
    rcases List.mem_append.mp he with hold | hnew
    · exact honly e hold t ht
    · obtain rfl := List.mem_singleton.mp hnew
      have hnew := (List.pairwise_append.mp hfresh).2.2 c hc e List.mem_cons_self t ht
      exact fun heq => hnew.2 s hstarts (hsx.trans heq.symm)
  · rw [hid]
    intro e he
    rcases List.mem_append.mp he with hold | hnew
    · exact hafter e hold
    · obtain rfl := List.mem_singleton.mp hnew
      exact hends

/-- A session with an origin was not ended at any time. -/
theorem Origin.not_ends (h : Origin m past x) (hfresh : Fresh m past) {e : Call}
    (he : e ∈ past) :
    ¬ e.Ends m x.id := by
  obtain ⟨pre, c, post, s, rfl, hstarts, hx, -, hafter⟩ := h
  have hsx : s.id = x.id := by rw [hx]
  rcases List.mem_append.mp he with hpre | hrest
  · have hne := (List.pairwise_append.mp hfresh).2.2 e hpre c List.mem_cons_self s hstarts
    rw [← hsx]
    exact hne.1
  · rcases List.mem_cons.mp hrest with rfl | hpost
    · exact hstarts.not_ends x.id
    · exact hafter e hpost

end Origins

/-- The sessions of a world follow from the history that led to it. -/
structure Traced (m : MemoryService) (past : List Call) (w : World MemoryState) :
    Prop where
  keyed : w.stores.Keyed
  origin : ∀ sessionId x, w.stores.sessions.find? sessionId = some x →
    x.id = sessionId ∧ w.stores.users.contains x.userId = true ∧ Origin m past x

theorem Traced.step [SizeLimit] {m : MemoryService} {past : List Call} {c : Call}
    (h : Traced m past c.world) (hfresh : Fresh m (past ++ [c])) :
    Traced m (past ++ [c]) (c.next m) := by
  have hgrew : c.world.stores.GrewTo (c.next m).stores := m.step_grew c.world c.operation
  refine ⟨hgrew.keyed h.keyed, fun sessionId x hx => ?_⟩
  have hstep := session_step m c
  generalize (c.next m).stores.sessions = sessions at hstep hx
  cases hstep with
  | kept hends =>
    obtain ⟨hid, huser, horigin⟩ := h.origin sessionId x hx
    exact ⟨hid, hgrew.kept _ huser, horigin.snoc hfresh (hends x.id) rfl⟩
  | @started s name user hstarts hnamed huser =>
    rw [Table.find?_put] at hx
    split at hx
    · rename_i hid
      obtain rfl := Option.some.inj hx
      have hknown := MemoryState.contains_of_named h.keyed hnamed
      rw [← huser] at hknown
      exact ⟨hid, hgrew.kept _ hknown, .of_starts hfresh hstarts⟩
    · obtain ⟨hid, huser, horigin⟩ := h.origin sessionId x hx
      exact ⟨hid, hgrew.kept _ huser, horigin.snoc hfresh (hstarts.not_ends x.id) rfl⟩
  | renewed hrenews =>
    rw [Table.find?_change] at hx
    split at hx
    · obtain ⟨old, hold, rfl⟩ := Option.map_eq_some_iff.mp hx
      obtain ⟨hid, huser, horigin⟩ := h.origin sessionId old hold
      exact ⟨hid, hgrew.kept _ huser, horigin.snoc hfresh (hrenews.not_ends _) rfl⟩
    · obtain ⟨hid, huser, horigin⟩ := h.origin sessionId x hx
      exact ⟨hid, hgrew.kept _ huser, horigin.snoc hfresh (hrenews.not_ends _) rfl⟩
  | ended hends =>
    rw [Table.find?_erase] at hx
    split at hx
    · cases hx
    · rename_i hne
      obtain ⟨hid, huser, horigin⟩ := h.origin sessionId x hx
      refine ⟨hid, hgrew.kept _ huser, horigin.snoc hfresh (fun hother => ?_) rfl⟩
      -- A logout names one session, and this one is still there.
      exact hne ((hends.unique hother).trans hid)

/-- Over a whole run, sessions stay traced to its history. -/
theorem Traced.run [SizeLimit] {m : MemoryService} {past : List Call} {w : World MemoryState}
    (h : Traced m past w) (ops : List Operation) (hfresh : Fresh m (past ++ m.calls w ops)) :
    Traced m (past ++ m.calls w ops) (m.after w ops) := by
  induction ops generalizing past w with
  | nil => simpa [MemoryService.calls, MemoryService.after] using h
  | cons op rest ih =>
    have hsplit : past ++ m.calls w (op :: rest) =
        (past ++ [⟨w, op⟩]) ++ m.calls (m.step w op) rest := by simp [MemoryService.calls]
    rw [hsplit] at hfresh ⊢
    exact ih (h.step (c := ⟨w, op⟩) (List.pairwise_append.mp hfresh).1) hfresh

/-- A run that starts without sessions. -/
theorem Traced.start {m : MemoryService} {w : World MemoryState} (hkeyed : w.stores.Keyed)
    (hnone : ∀ sessionId, w.stores.sessions.find? sessionId = none) :
    Traced m [] w := by
  refine ⟨hkeyed, fun sessionId x hx => ?_⟩
  rw [hnone] at hx
  cases hx

section Steps

variable {m : MemoryService} {past : List Call} {c : Call} {sessionId : String}

/-- A session that is there stays as it is, but for a refresh and for a logout
that name it. -/
theorem Traced.next_session [SizeLimit] {x : Session} (h : Traced m past c.world)
    (hfresh : Fresh m (past ++ [c])) (hx : c.world.stores.sessions.find? sessionId = some x) :
    (c.next m).stores.sessions.find? sessionId = some x ∨
      (∃ client, c.Renews m sessionId client) ∧
        (c.next m).stores.sessions.find? sessionId =
          some { x with updatedAt := c.world.now } ∨
      c.Ends m sessionId ∧ (c.next m).stores.sessions.find? sessionId = none := by
  have hstep := session_step m c
  generalize (c.next m).stores.sessions = sessions at hstep ⊢
  cases hstep with
  | kept => exact .inl hx
  | @started s name user hstarts hnamed huser =>
    left
    obtain ⟨hid, -, horigin⟩ := h.origin sessionId x hx
    rw [Table.find?_put, if_neg, hx]
    -- The identifier is fresh, so it is not that of a session with an origin.
    intro heq
    obtain ⟨pre, d, post, t, rfl, ht, hxt, -⟩ := horigin
    have hd : d ∈ pre ++ d :: post := List.mem_append_right _ List.mem_cons_self
    have hnew := (List.pairwise_append.mp hfresh).2.2 d hd c List.mem_cons_self s hstarts
    exact hnew.2 t ht (by rw [heq, ← hid, hxt])
  | @renewed id client session hrenews hfind hclient =>
    obtain ⟨hid, -, -⟩ := h.origin id session hfind
    rw [Table.find?_change, hid]
    by_cases heq : id = sessionId
    · subst heq
      rw [if_pos rfl, hx]
      exact .inr (.inl ⟨⟨client, hrenews⟩, rfl⟩)
    · rw [if_neg heq]
      exact .inl hx
  | @ended id hends =>
    rw [Table.find?_erase]
    by_cases heq : id = sessionId
    · subst heq
      exact .inr (.inr ⟨hends, if_pos rfl⟩)
    · rw [if_neg heq]
      exact .inl hx

/-- A refresh comes from the client of the login. -/
theorem Traced.login_of_renews {client : Client} (h : Traced m past c.world)
    (hrenews : c.Renews m sessionId client) :
    ∃ d ∈ past, ∃ s, d.Starts m s ∧ s.id = sessionId ∧ s.ip = client.ip ∧
      s.userAgent = client.userAgent := by
  obtain ⟨x, hx, hclient⟩ := hrenews.session
  obtain ⟨hid, -, pre, d, post, s, rfl, hstarts, hxs, -⟩ := h.origin sessionId x hx
  have hof : x.ip = client.ip ∧ x.userAgent = client.userAgent := by
    simpa [Session.isOf] using hclient
  rw [hxs] at hid hof
  exact ⟨d, List.mem_append_right _ List.mem_cons_self, s, hstarts, hid, hof.1, hof.2⟩

/-- Nobody gets any further with a session that was ended. -/
theorem Traced.none_of_ended (h : Traced m past c.world) (hfresh : Fresh m past) {d : Call}
    (hd : d ∈ past) (hends : d.Ends m sessionId) :
    c.world.stores.sessions.find? sessionId = none := by
  cases hx : c.world.stores.sessions.find? sessionId with
  | none => rfl
  | some x =>
    obtain ⟨hid, -, horigin⟩ := h.origin sessionId x hx
    exact absurd (hid ▸ hends) (horigin.not_ends hfresh hd)

end Steps

/-- Over every run that starts without sessions: each session is that of one
login and of nobody's logout since, only a refresh and a logout that name a
session touch it, a refresh comes from the client of the login, and after a
logout no token for the session gets anybody any further. -/
theorem session_history [SizeLimit] (m : MemoryService) (w : World MemoryState)
    (ops : List Operation)
    (hkeyed : w.stores.Keyed) (hnone : ∀ sessionId, w.stores.sessions.find? sessionId = none)
    (hfresh : Fresh m (m.calls w ops)) :
    (∀ sessionId x, (m.after w ops).stores.sessions.find? sessionId = some x →
      x.id = sessionId ∧ (m.after w ops).stores.users.contains x.userId = true ∧
        Origin m (m.calls w ops) x) ∧
    ∀ pre c post, m.calls w ops = pre ++ c :: post →
      (∀ sessionId x, c.world.stores.sessions.find? sessionId = some x →
        (c.next m).stores.sessions.find? sessionId = some x ∨
        (∃ client, c.Renews m sessionId client) ∧
          (c.next m).stores.sessions.find? sessionId =
            some { x with updatedAt := c.world.now } ∨
        c.Ends m sessionId ∧ (c.next m).stores.sessions.find? sessionId = none) ∧
      (∀ sessionId client, c.Renews m sessionId client →
        ∃ d ∈ pre, ∃ s, d.Starts m s ∧ s.id = sessionId ∧ s.ip = client.ip ∧
          s.userAgent = client.userAgent) ∧
      ∀ sessionId, ∀ d ∈ pre, d.Ends m sessionId →
        ¬ c.Admits m sessionId ∧ ∀ client, ¬ c.Renews m sessionId client := by
  have hstart := Traced.start (m := m) hkeyed hnone
  refine ⟨(hstart.run ops hfresh).origin, ?_⟩
  intro pre c post hsplit
  obtain ⟨ops₁, ops₂, -, rfl, hpost⟩ := m.calls_eq_append hsplit
  have hc : c.world = m.after w ops₁ := by
    cases ops₂ with
    | nil => cases hpost
    | cons op rest => rw [(List.cons.inj hpost).1]
  rw [hsplit, List.append_cons] at hfresh
  have hfresh₂ := (List.pairwise_append.mp hfresh).1
  have hfresh₁ := (List.pairwise_append.mp hfresh₂).1
  have htraced : Traced m (m.calls w ops₁) c.world := by
    rw [hc]
    exact hstart.run ops₁ hfresh₁
  refine ⟨fun sessionId x hx => htraced.next_session hfresh₂ hx,
    fun sessionId client hrenews => htraced.login_of_renews hrenews, ?_⟩
  intro sessionId d hd hends
  have hgone := htraced.none_of_ended hfresh₁ hd hends
  constructor
  · intro hadmits
    obtain ⟨x, hx⟩ := hadmits.session
    rw [hgone] at hx
    cases hx
  · intro client hrenews
    obtain ⟨x, hx, -⟩ := hrenews.session
    rw [hgone] at hx
    cases hx

/-! ### Two visits -/

namespace Sample

/-- Ann logs in with two agents, and a minute passes. -/
def arrivals : List Operation :=
  [.login ⟨"1", "secret"⟩ ⟨"127.0.0.1", "agent"⟩, .login ⟨"1", "secret"⟩ ⟨"127.0.0.1", "browser"⟩,
    .clock (.ofSeconds 60)]

/-- Then she refreshes the session with one of them and logs out with the other, whose token she
tries at last. -/
def departure (renewal exit : String) : List Operation :=
  [.refresh ⟨renewal⟩ ⟨"127.0.0.1", "agent"⟩, .logout exit, .authorize exit "GET|/x"]

/-- The session of the first agent at some time. -/
def agentSession (updatedAt : Instant) : Session :=
  { Session.start world.now "0" 1 ⟨"127.0.0.1", "agent"⟩ with updatedAt := updatedAt }

/-- The world after the arrivals. -/
def visited : World MemoryState :=
  { world with
    now := .ofSeconds 60
    drawn := 2
    stores := { world.stores with
      sessions := ⟨[("0", agentSession world.now),
        ("1", .start world.now "1" 1 ⟨"127.0.0.1", "browser"⟩)]⟩ } }

/-- The world after the refresh. -/
def renewed : World MemoryState :=
  { visited with stores := { visited.stores with
    sessions := ⟨[("0", agentSession (.ofSeconds 60)),
      ("1", .start world.now "1" 1 ⟨"127.0.0.1", "browser"⟩)]⟩ } }

/-- The world after the logout. -/
def departed : World MemoryState :=
  { visited with stores := { visited.stores with
    sessions := ⟨[("0", agentSession (.ofSeconds 60))]⟩ } }

theorem world_keyed : world.stores.Keyed := by
  intro row hrow
  obtain rfl := List.mem_singleton.mp hrow
  rfl

theorem after_arrivals : service.after world arrivals = visited := rfl

/-- The two logins get two sessions, and nobody logs in after them. -/
theorem visits_fresh (renewal exit : String) :
    Fresh service (service.calls world (arrivals ++ departure renewal exit)) := by
  have hlater (w : World MemoryState) :
      ∀ c ∈ service.calls w ((arrivals ++ departure renewal exit).drop 2), ∀ s,
        ¬ c.Starts service s := by
    rintro c hc s ⟨request, client, response, hop, -⟩
    have hmem := List.mem_map_of_mem (f := Call.operation) hc
    rw [MemoryService.operations_calls, hop] at hmem
    simp [arrivals, departure] at hmem
  refine .cons (List.forall_mem_cons.mpr ⟨?_, fun c hc s hs => absurd hs (hlater _ c hc s)⟩)
    (.cons (fun c hc s hs => absurd hs (hlater _ c hc s))
      (List.pairwise_of_forall_mem_list fun _ _ c hc s hs => absurd hs (hlater _ c hc s)))
  intro s hs
  refine ⟨Call.not_ends (by rintro _ h; cases h) _, fun t ht => ?_⟩
  rw [hs.id_eq, ht.id_eq]
  decide +kernel

theorem token_honoured (kind : TokenKind) (sessionId : String) :
    ∃ token, service.app.tokens.issue world.now kind sessionId 1 "member" = .ok token ∧
      service.app.tokens.Honours token
        (service.app.tokens.issuedClaims world.now kind sessionId 1 "member") :=
  issue_honoured (fun message => ⟨[], rfl, rfl⟩) (by decide) (by cases kind <;> decide)
    (by cases kind <;> decide)

section Visits

variable {renewal exit : String}

theorem verifyKind_renewal
    (hissue : service.app.tokens.issue world.now .refresh "0" 1 "member" = .ok renewal)
    (hhonours : service.app.tokens.Honours renewal
      (service.app.tokens.issuedClaims world.now .refresh "0" 1 "member")) :
    service.app.tokens.verifyKind visited.now (bearerToken renewal) .refresh =
      .ok (service.app.tokens.issuedClaims world.now .refresh "0" 1 "member") := by
  rw [TokenIssuer.bearerToken_of_issue hissue (.inl rfl)]
  exact hhonours.counts visited.now (by decide) (by decide)

/-- With the refresh token of her session Ann renews it. -/
theorem runOn_refresh_visited
    (hverify : service.app.tokens.verifyKind visited.now (bearerToken renewal) .refresh =
      .ok (service.app.tokens.issuedClaims world.now .refresh "0" 1 "member")) :
    ∃ response, (service.app.refresh ⟨renewal⟩ ⟨"127.0.0.1", "agent"⟩).runOn visited =
      (.ok response, renewed) := by
  have hrenewable : Renewable service ⟨renewal⟩ ⟨"127.0.0.1", "agent"⟩ visited 1
      (agentSession world.now) user ⟨1, "member", "", .ofSeconds 0, .ofSeconds 0⟩ := {
    token := ⟨_, hverify, by decide, rfl⟩
    owner := rfl
    ip := rfl
    userAgent := rfl
    found := rfl
    active := ⟨rfl, rfl⟩
    role := rfl }
  have hcan : service.app.tokens.CanIssue visited.now "0" 1 "member" :=
    ⟨fun kind => by cases kind <;> decide, fun _ => ⟨[], rfl⟩⟩
  obtain ⟨pair, hpair⟩ := TokenIssuer.issuePair_ok_iff.mpr hcan
  have hrefresh := MemoryService.runOn_refresh hrenewable
  rw [show (agentSession world.now).id = "0" from rfl, hpair] at hrefresh
  exact ⟨_, hrefresh⟩

/-- The history of the two visits after the arrivals, and where it ends. -/
theorem visits_run {response : LoginResponse}
    (hrefresh : (service.app.refresh ⟨renewal⟩ ⟨"127.0.0.1", "agent"⟩).runOn visited =
      (.ok response, renewed))
    (hnamed : service.app.tokens.sessionOf (bearerToken exit) = .ok "1") :
    service.after world (arrivals ++ departure renewal exit) = departed ∧
      service.calls world (arrivals ++ departure renewal exit) =
        service.calls world arrivals ++
          [⟨visited, .refresh ⟨renewal⟩ ⟨"127.0.0.1", "agent"⟩⟩, ⟨renewed, .logout exit⟩,
            ⟨departed, .authorize exit "GET|/x"⟩] := by
  have hrenews : service.step visited (.refresh ⟨renewal⟩ ⟨"127.0.0.1", "agent"⟩) = renewed :=
    congrArg Prod.snd hrefresh
  have hlogout : service.step renewed (.logout exit) = departed :=
    congrArg Prod.snd (MemoryService.runOn_logout hnamed renewed)
  have hgate : service.step departed (.authorize exit "GET|/x") = departed :=
    Gate.authorize_world service departed exit "GET|/x"
  constructor
  · rw [service.after_append, after_arrivals]
    simp only [MemoryService.after, departure, List.foldl_cons, List.foldl_nil, hrenews, hlogout,
      hgate]
  · rw [service.calls_append, after_arrivals]
    simp only [departure, MemoryService.calls, hrenews, hlogout]

end Visits

end Sample

open Sample in
/-- Of Ann's two sessions the one that she refreshed is left. It is that of her first login, as the
refresh could tell by its client. The other one is gone, and its token does not let anybody in. -/
theorem login_history :
    ∃ renewal exit,
      service.app.tokens.issue world.now .refresh "0" 1 "member" = .ok renewal ∧
      service.app.tokens.issue world.now .access "1" 1 "member" = .ok exit ∧
      service.after world (arrivals ++ departure renewal exit) = departed ∧
      Origin service (service.calls world (arrivals ++ departure renewal exit))
        (agentSession (.ofSeconds 60)) ∧
      (∃ d ∈ service.calls world arrivals, ∃ s,
        d.Starts service s ∧ s.id = "0" ∧ s.userAgent = "agent") ∧
      ¬ Call.Admits service ⟨departed, .authorize exit "GET|/x"⟩ "1" := by
  obtain ⟨renewal, hissue, hrenewal⟩ := token_honoured .refresh "0"
  obtain ⟨exit, hissue', hexit⟩ := token_honoured .access "1"
  have hverify := verifyKind_renewal hissue hrenewal
  have hnamed : service.app.tokens.sessionOf (bearerToken exit) = .ok "1" := by
    rw [TokenIssuer.bearerToken_of_issue hissue' (.inl rfl)]
    exact hexit.session
  obtain ⟨response, hrefresh⟩ := runOn_refresh_visited hverify
  obtain ⟨hafter, hrun⟩ := visits_run hrefresh hnamed
  have hrenews : Call.Renews service ⟨visited, .refresh ⟨renewal⟩ ⟨"127.0.0.1", "agent"⟩⟩ "0"
      ⟨"127.0.0.1", "agent"⟩ :=
    ⟨⟨renewal⟩, response, _, rfl, by rw [hrefresh], (TokenIssuer.of_verifyKind hverify).1, rfl⟩
  have hends : Call.Ends service ⟨renewed, .logout exit⟩ "1" :=
    ⟨exit, rfl, by rw [MemoryService.runOn_logout hnamed], hnamed⟩
  obtain ⟨horigin, hcalls⟩ := session_history service world (arrivals ++ departure renewal exit)
    world_keyed (fun _ => rfl) (visits_fresh renewal exit)
  rw [hafter] at horigin
  obtain ⟨d, hd, s, hstarts, hid, -, hagent⟩ := (hcalls _ _ _ hrun).2.1 _ _ hrenews
  have hlast := hrun.trans (List.append_assoc _ [_, _] [_]).symm
  obtain ⟨hrefused, -⟩ := (hcalls _ _ [] hlast).2.2 "1" _
    (List.mem_append_right _ (List.mem_cons_of_mem _ List.mem_cons_self)) hends
  exact ⟨renewal, exit, hissue, hissue', hafter, (horigin "0" _ rfl).2.2,
    ⟨d, hd, s, hstarts, hid, hagent⟩, hrefused⟩

end Turnstile
