import Turnstile.Proofs.Lockout.Interference

/-!
Runs in which users log in while time passes, with and without the logins of one of them. A step
of the first run is either left out of the second or made in both; in either case the worlds stay
alike for the other users. The name of a session is chosen when it is started, and keeps.
-/

namespace Turnstile

/-! ### Fresh identifiers -/

/-- The next identifiers are all different, and no session stands under any of them. -/
structure MemoryService.Unused (m : MemoryService) (w : World MemoryState) (k : Nat) : Prop where
  vacant : ∀ i < k, w.stores.sessions.find? (m.sessionIdAt (w.drawn + i)) = none
  distinct : ∀ i < k, ∀ j < k,
    m.sessionIdAt (w.drawn + i) = m.sessionIdAt (w.drawn + j) → i = j

namespace MemoryService

variable {m : MemoryService} {request : LoginRequest} {client : Client} {w v : World MemoryState}
  {k : Nat}

/-- A login takes one identifier at most, and puts a session under no other. -/
theorem login_draws (m : MemoryService) (request : LoginRequest) (client : Client)
    (w : World MemoryState) :
    let v := ((m.app.login request client).runOn w).2
    v.stores.sessions = w.stores.sessions ∧ (v.drawn = w.drawn ∨ v.drawn = w.drawn + 1) ∨
      v.drawn = w.drawn + 1 ∧
        ∃ x, v.stores.sessions = w.stores.sessions.put (m.sessionIdAt w.drawn) x := by
  cases hnamed : w.stores.named? request.identity with
  | none =>
    rw [runOn_login_of_unnamed hnamed]
    exact .inl ⟨rfl, .inl rfl⟩
  | some user =>
    cases hstate : user.checkState with
    | error e =>
      rw [runOn_login_of_inactive hnamed hstate]
      exact .inl ⟨rfl, .inl rfl⟩
    | ok _ =>
      have hact := User.checkState_eq_ok_iff.mp hstate
      obtain ⟨answer, s, hrun, hcompared⟩ :=
        Lockout.validatePassword_compared m user request.password w
      have hsessions := hcompared.sessions
      cases answer with
      | error f =>
        rw [runOn_login_of_refused hnamed hact hrun]
        exact .inl ⟨hsessions, .inl rfl⟩
      | ok _ =>
        rw [runOn_login_of_accepted hnamed hact hrun]
        split
        · exact .inl ⟨hsessions, .inl rfl⟩
        · split
          · exact .inl ⟨hsessions, .inr rfl⟩
          · refine .inr ⟨rfl, Session.start w.now (m.sessionIdAt w.drawn) user.id client, ?_⟩
            dsimp only
            rw [hsessions]

namespace Unused

theorem first (h : m.Unused w (k + 1)) :
    w.stores.sessions.find? (m.sessionIdAt w.drawn) = none :=
  h.vacant 0 (Nat.succ_pos k)

theorem of_kept (h : m.Unused w (k + 1)) (hsessions : v.stores.sessions = w.stores.sessions)
    (hdrawn : v.drawn = w.drawn) : m.Unused v k := by
  constructor
  · intro i hi
    rw [hsessions, hdrawn]
    exact h.vacant i (Nat.lt_succ_of_lt hi)
  · intro i hi j hj heq
    rw [hdrawn] at heq
    exact h.distinct i (Nat.lt_succ_of_lt hi) j (Nat.lt_succ_of_lt hj) heq

/-- After the first identifier was drawn the others are still unused. -/
theorem of_drawn (h : m.Unused w (k + 1)) (hdrawn : v.drawn = w.drawn + 1)
    (hsessions : ∀ id, id ≠ m.sessionIdAt w.drawn →
      v.stores.sessions.find? id = w.stores.sessions.find? id) : m.Unused v k := by
  have hnext (i : Nat) : v.drawn + i = w.drawn + (i + 1) := by omega
  constructor
  · intro i hi
    have hlt : i + 1 < k + 1 := Nat.succ_lt_succ hi
    rw [hnext, hsessions _ fun heq => ?_]
    · exact h.vacant (i + 1) hlt
    · exact Nat.succ_ne_zero i (h.distinct (i + 1) hlt 0 (Nat.succ_pos k) heq)
  · intro i hi j hj heq
    rw [hnext, hnext] at heq
    exact Nat.succ.inj (h.distinct (i + 1) (Nat.succ_lt_succ hi) (j + 1) (Nat.succ_lt_succ hj) heq)

theorem login (h : m.Unused w (k + 1)) (request : LoginRequest) (client : Client) :
    m.Unused ((m.app.login request client).runOn w).2 k := by
  rcases login_draws m request client w with ⟨hsessions, hkept | hdrawn⟩ | ⟨hdrawn, x, hput⟩
  · exact h.of_kept hsessions hkept
  · exact h.of_drawn hdrawn fun id _ => by rw [hsessions]
  · refine h.of_drawn hdrawn fun id hid => ?_
    rw [hput, Table.find?_put, if_neg hid.symm]

end Unused

end MemoryService

/-! ### Sessions of the others -/

namespace MemoryState

/-- A session of somebody who is not the certain user stands under the identifier. -/
def Seen (s : MemoryState) (other : Int) (id : String) : Prop :=
  ∃ x, s.sessions.find? id = some x ∧ x.userId ≠ other

theorem Seen.of_sessionOf? {s : MemoryState} {other userId : Int} (hne : userId ≠ other)
    {id : String} {x : Session} (h : s.sessionOf? userId id = some x) : s.Seen other id := by
  obtain ⟨hfind, huser⟩ := Option.filter_eq_some_iff.mp h
  exact ⟨x, hfind, fun heq => hne (by rw [← heq]; exact (of_decide_eq_true huser).symm)⟩

theorem sessionOf?_eq_none {s : MemoryState} {id : String} (h : s.sessions.find? id = none)
    (userId : Int) : s.sessionOf? userId id = none := by
  unfold sessionOf?
  rw [h]
  rfl

theorem sessionOf?_put (s : MemoryState) (id : String) (x : Session) (userId : Int)
    (other : String) :
    sessionOf? { s with sessions := s.sessions.put id x } userId other =
      if id = other then (if x.userId = userId then some x else none)
      else s.sessionOf? userId other := by
  unfold sessionOf?
  rw [Table.find?_put]
  split
  · by_cases hx : x.userId = userId
    · rw [if_pos hx, Option.filter_some, if_pos (decide_eq_true hx)]
    · rw [if_neg hx, Option.filter_some, if_neg (by simpa using hx)]
  · rfl

end MemoryState

namespace World.Alike

variable {m : MemoryService} {other : Int} {ρ ρ' : Equiv.Perm String} {w v : World MemoryState}
  {request : LoginRequest} {client : Client}

/-- Only the names of sessions that are there matter. -/
theorem rename (h : Alike other ρ w v) (hagree : ∀ id, v.stores.Seen other id → ρ' id = ρ id) :
    Alike other ρ' w v := by
  refine ⟨h.now, h.accounts, h.policies, h.attempts, fun userId hne id => ?_⟩
  cases hsession : v.stores.sessionOf? userId id with
  | some x =>
    rw [hagree id (.of_sessionOf? hne hsession), h.sessions userId hne, hsession]
  | none =>
    -- Whatever has the new name in the first world had it before, so it is this one.
    have hold := h.sessions userId hne (ρ.symm (ρ' id))
    rw [Equiv.apply_symm_apply] at hold
    rw [hold]
    cases hother : v.stores.sessionOf? userId (ρ.symm (ρ' id)) with
    | none => rfl
    | some x =>
      have hsame := hagree _ (.of_sessionOf? hne hother)
      rw [Equiv.apply_symm_apply, ρ'.apply_eq_iff_eq] at hsame
      rw [hsame, hsession] at hother
      cases hother

/-- An identifier that is not in use can be named by any other that is not in use. -/
theorem exists_name (h : Alike other ρ w v) {id₁ id₂ : String}
    (h₁ : w.stores.sessions.find? id₁ = none) (h₂ : v.stores.sessions.find? id₂ = none) :
    ∃ ρ' : Equiv.Perm String, ρ' id₂ = id₁ ∧ Alike other ρ' w v ∧
      ∀ id, v.stores.Seen other id → ρ' id = ρ id := by
  have hagree : ∀ id, v.stores.Seen other id →
      ((Equiv.swap id₂ (ρ.symm id₁)).trans ρ) id = ρ id := by
    rintro id ⟨x, hx, hne⟩
    rw [Equiv.trans_apply, Equiv.swap_apply_of_ne_of_ne]
    · rintro rfl
      rw [h₂] at hx
      cases hx
    · rintro rfl
      have hnone := h.sessions x.userId hne (ρ.symm id₁)
      rw [Equiv.apply_symm_apply, MemoryState.sessionOf?_eq_none h₁] at hnone
      have hsome : v.stores.sessionOf? x.userId (ρ.symm id₁) = some x :=
        Option.filter_eq_some_iff.mpr ⟨hx, decide_eq_true rfl⟩
      rw [hsome] at hnone
      cases hnone
  refine ⟨_, ?_, h.rename hagree, hagree⟩
  rw [Equiv.trans_apply, Equiv.swap_apply_left, Equiv.apply_symm_apply]

/-- Worlds stay alike when the same user starts a session, whatever it is called. -/
theorem started (h : Alike other ρ w v) {id₁ id₂ : String}
    (h₁ : w.stores.sessions.find? id₁ = none) (h₂ : v.stores.sessions.find? id₂ = none)
    (userId : Int) (client : Client) :
    ∃ ρ' : Equiv.Perm String, (∀ id, v.stores.Seen other id → ρ' id = ρ id) ∧ ρ' id₂ = id₁ ∧
      ∀ drawn drawn', Alike other ρ'
        { w with
          drawn := drawn
          stores := { w.stores with
            sessions := w.stores.sessions.put id₁ (.start w.now id₁ userId client) } }
        { v with
          drawn := drawn'
          stores := { v.stores with
            sessions := v.stores.sessions.put id₂ (.start v.now id₂ userId client) } } := by
  obtain ⟨ρ', rfl, hrenamed, hagree⟩ := h.exists_name h₁ h₂
  refine ⟨ρ', hagree, rfl, fun _ _ =>
    ⟨h.now, h.accounts, h.policies, h.attempts, fun id hne name => ?_⟩⟩
  dsimp only
  rw [MemoryState.sessionOf?_put, MemoryState.sessionOf?_put, hrenamed.sessions id hne, h.now]
  by_cases hname : id₂ = name
  · subst hname
    rw [if_pos rfl, if_pos rfl]
    by_cases huser : userId = id
    · rw [Session.start, Session.start, if_pos huser, if_pos huser]
      rfl
    · rw [Session.start, Session.start, if_neg huser, if_neg huser]
      rfl
  · rw [if_neg fun heq => hname (ρ'.injective heq), if_neg hname]

end World.Alike

/-! ### The logins of the certain user -/

namespace World.Alike

variable {m : MemoryService} {ρ : Equiv.Perm String} {w v : World MemoryState}

/-- The others do not see a login of the certain user. -/
theorem of_login_of_other {other : Int} {request : LoginRequest} {client : Client}
    (h : Alike other ρ w v)
    (hnamed : (w.stores.named? request.identity).map (·.id) = some other)
    (hvacant : w.stores.sessions.find? (m.sessionIdAt w.drawn) = none) :
    Alike other ρ ((m.app.login request client).runOn w).2 v := by
  obtain ⟨user, huser, rfl⟩ := Option.map_eq_some_iff.mp hnamed
  have hends := login_ends m request client w
  generalize (m.app.login request client).runOn w = r at hends ⊢
  obtain ⟨answer, u⟩ := r
  dsimp only at hends ⊢
  cases hends with
  | unnamed => exact h
  | inactive => exact h
  | refused hfound _ hrun =>
    rw [huser] at hfound
    cases hfound
    exact h.of_compared (Lockout.compared_of_runOn hrun)
  | unissued hfound _ hrun =>
    rw [huser] at hfound
    cases hfound
    have hs := h.of_compared (Lockout.compared_of_runOn hrun)
    exact ⟨hs.now, hs.accounts, hs.policies, hs.attempts, hs.sessions⟩
  | @started _ _ s hfound _ hrun hid =>
    rw [huser] at hfound
    cases hfound
    have hcompared := Lockout.compared_of_runOn hrun
    have hs := h.of_compared hcompared
    refine ⟨hs.now, hs.accounts, hs.policies, hs.attempts, fun userId hne id => ?_⟩
    rw [← hs.sessions userId hne, MemoryState.sessionOf?_put, hid]
    split
    · rename_i heq
      have hnone : s.sessions.find? (ρ id) = none := by
        rw [← heq, hcompared.sessions]
        exact hvacant
      exact (if_neg hne.symm).trans (MemoryState.sessionOf?_eq_none hnone userId).symm
    · rfl

end World.Alike

/-! ### The logins of the others -/

/-- Two logins are answered alike: with the same error, or with pairs of tokens that differ in
nothing but the name of the session that they were issued for. -/
inductive LoginsAgree (m : MemoryService) (now : Instant) (ρ : Equiv.Perm String) :
    Except Failure LoginResponse → Except Failure LoginResponse → Prop
  | refused (f : Failure) : LoginsAgree m now ρ (.error f) (.error f)
  | admitted {pair pair' : TokenPair} {user : User} {role : String}
      (hissued : m.app.tokens.issuePair now pair.sessionId user.id role = .ok pair)
      (hissued' : m.app.tokens.issuePair now pair'.sessionId user.id role = .ok pair')
      (hname : pair.sessionId = ρ pair'.sessionId) :
      LoginsAgree m now ρ (.ok (m.app.loginResponse pair user))
        (.ok (m.app.loginResponse pair' user))

theorem LoginsAgree.rename {m : MemoryService} {now : Instant} {ρ ρ' : Equiv.Perm String}
    {answer answer' : Except Failure LoginResponse} (h : LoginsAgree m now ρ answer answer')
    (hagree : ∀ response, answer' = .ok response →
      ρ' response.sessionId = ρ response.sessionId) : LoginsAgree m now ρ' answer answer' := by
  cases h with
  | refused f => exact .refused f
  | admitted hissued hissued' hname =>
    exact .admitted hissued hissued' (hname.trans (hagree _ rfl).symm)

/-- A login is answered alike in both worlds and leaves them alike. If it starts a session, this
is named, and all other names keep. -/
def World.LoginAlike (m : MemoryService) (other : Int) (ρ : Equiv.Perm String)
    (request : LoginRequest) (client : Client) (w v : World MemoryState) : Prop :=
  ∃ ρ' : Equiv.Perm String, (∀ id, v.stores.Seen other id → ρ' id = ρ id) ∧
    Alike other ρ' ((m.app.login request client).runOn w).2
      ((m.app.login request client).runOn v).2 ∧
    LoginsAgree m w.now ρ' ((m.app.login request client).runOn w).1
      ((m.app.login request client).runOn v).1

namespace World.Alike

variable {m : MemoryService} {other : Int} {ρ : Equiv.Perm String} {w v : World MemoryState}
  {request : LoginRequest} {client : Client}

/-- Once the password is accepted, a session is started in both worlds or in none. -/
theorem login_of_accepted {user : User} {s t : MemoryState} (hnow : w.now = v.now)
    (h : Alike other ρ { w with stores := s } { v with stores := t }) (hkeys : m.keys.Uniform)
    (hnamed : w.stores.named? request.identity = some user)
    (hnamed' : v.stores.named? request.identity = some user) (hact : user.MayAct)
    (hrun : (m.app.validatePassword user request.password).runOn w =
      (.ok (), { w with stores := s }))
    (hrun' : (m.app.validatePassword user request.password).runOn v =
      (.ok (), { v with stores := t }))
    (hvacant : w.stores.sessions.find? (m.sessionIdAt w.drawn) = none)
    (hvacant' : v.stores.sessions.find? (m.sessionIdAt v.drawn) = none) :
    LoginAlike m other ρ request client w v := by
  have hsessions : s.sessions = w.stores.sessions := (Lockout.compared_of_runOn hrun).sessions
  have hsessions' : t.sessions = v.stores.sessions := (Lockout.compared_of_runOn hrun').sessions
  have hroles : s.policies.rolesOf user.id = t.policies.rolesOf user.id :=
    congrArg (PolicyTables.rolesOf · user.id) h.policies
  unfold LoginAlike
  rw [MemoryService.runOn_login_of_accepted hnamed hact hrun,
    MemoryService.runOn_login_of_accepted hnamed' hact hrun', hroles]
  cases t.policies.rolesOf user.id with
  | nil => exact ⟨ρ, fun _ _ => rfl, h, .refused _⟩
  | cons role rest =>
    dsimp only
    rcases TokenIssuer.issuePair_uniform (i := m.app.tokens) hkeys w.now user.id role.name with
      hissues | ⟨f, hfails⟩
    · obtain ⟨pair, hpair⟩ := hissues (m.sessionIdAt w.drawn)
      obtain ⟨pair', hpair'⟩ := hissues (m.sessionIdAt v.drawn)
      have hid := TokenIssuer.issuePair_sessionId hpair
      have hid' := TokenIssuer.issuePair_sessionId hpair'
      obtain ⟨ρ', hagree, hname, hstarted⟩ :=
        h.started (hsessions ▸ hvacant) (hsessions' ▸ hvacant') user.id client
      have hanswers : LoginsAgree m w.now ρ' (.ok (m.app.loginResponse pair user))
          (.ok (m.app.loginResponse pair' user)) :=
        .admitted (hid ▸ hpair) (hid' ▸ hpair') (by rw [hid, hid', hname])
      have hkept (id : String) (hseen : v.stores.Seen other id) : ρ' id = ρ id := by
        refine hagree id ?_
        unfold MemoryState.Seen
        rw [hsessions']
        exact hseen
      rw [hnow] at hpair'
      rw [hpair, hpair']
      exact ⟨ρ', hkept, hstarted _ _, hanswers⟩
    · have hfails' := hfails (m.sessionIdAt v.drawn)
      rw [hnow] at hfails'
      rw [hfails, hfails']
      exact ⟨ρ, fun _ _ => rfl, ⟨h.now, h.accounts, h.policies, h.attempts, h.sessions⟩,
        .refused f⟩

/-- A login of another user is answered alike in both worlds and leaves them alike. -/
theorem login (h : Alike other ρ w v) (hkeys : m.keys.Uniform) (hfiled : w.stores.Filed)
    (hfiled' : v.stores.Filed)
    (hne : (w.stores.named? request.identity).map (·.id) ≠ some other)
    (hvacant : w.stores.sessions.find? (m.sessionIdAt w.drawn) = none)
    (hvacant' : v.stores.sessions.find? (m.sessionIdAt v.drawn) = none) :
    LoginAlike m other ρ request client w v := by
  have hnamed' := h.named?_eq hfiled hfiled' hne
  cases hnamed : w.stores.named? request.identity with
  | none =>
    rw [hnamed] at hnamed'
    unfold LoginAlike
    rw [MemoryService.runOn_login_of_unnamed hnamed, MemoryService.runOn_login_of_unnamed hnamed']
    exact ⟨ρ, fun _ _ => rfl, h, .refused _⟩
  | some user =>
    rw [hnamed] at hnamed' hne
    cases hstate : user.checkState with
    | error e =>
      unfold LoginAlike
      rw [MemoryService.runOn_login_of_inactive hnamed hstate,
        MemoryService.runOn_login_of_inactive hnamed' hstate]
      exact ⟨ρ, fun _ _ => rfl, h, .refused _⟩
    | ok _ =>
      have hact := User.checkState_eq_ok_iff.mp hstate
      obtain ⟨answer, s, hrun, -⟩ := Lockout.validatePassword_compared m user request.password w
      obtain ⟨answer', t, hrun', -⟩ := Lockout.validatePassword_compared m user request.password v
      have hrespects := respects_validatePassword m (fun heq => hne (congrArg some heq))
        request.password w v h
      rw [hrun, hrun'] at hrespects
      obtain ⟨rfl, hcompared⟩ := hrespects
      cases answer with
      | error f =>
        unfold LoginAlike
        rw [MemoryService.runOn_login_of_refused hnamed hact hrun,
          MemoryService.runOn_login_of_refused hnamed' hact hrun']
        exact ⟨ρ, fun _ _ => rfl, hcompared, .refused f⟩
      | ok _ =>
        exact login_of_accepted h.now hcompared hkeys hnamed hnamed' hact hrun hrun' hvacant
          hvacant'

end World.Alike

/-! ### What a login keeps -/

namespace MemoryService

variable {m : MemoryService} {other : Int} {w : World MemoryState} {request : LoginRequest}
  {client : Client}

/-- A login under a fresh identifier ends no session. -/
theorem seen_of_login (hvacant : w.stores.sessions.find? (m.sessionIdAt w.drawn) = none)
    {id : String} (h : w.stores.Seen other id) :
    ((m.app.login request client).runOn w).2.stores.Seen other id := by
  obtain ⟨x, hx, hne⟩ := h
  refine ⟨x, ?_, hne⟩
  rcases login_draws m request client w with ⟨hsessions, -⟩ | ⟨-, y, hput⟩
  · rw [hsessions, hx]
  · rw [hput, Table.find?_put, if_neg, hx]
    rintro rfl
    rw [hvacant] at hx
    cases hx

/-- A login that is not of the certain user answers with a session that the others see. -/
theorem seen_of_answer (hne : (w.stores.named? request.identity).map (·.id) ≠ some other)
    {response : LoginResponse}
    (h : ((m.app.login request client).runOn w).1 = .ok response) :
    ((m.app.login request client).runOn w).2.stores.Seen other response.sessionId := by
  have hends := login_ends m request client w
  rw [h] at hends
  generalize ((m.app.login request client).runOn w).2 = v at hends
  cases hends with
  | @started user _ _ hnamed =>
    rw [hnamed] at hne
    exact ⟨_, (Table.find?_put ..).trans (if_pos rfl), fun heq => hne (congrArg some heq)⟩

end MemoryService

/-! ### Runs -/

/-- Users log in, and time passes. -/
def Operation.IsLoginOrClock : Operation → Prop
  | .login _ _ => True
  | .clock _ => True
  | _ => False

/-- Whom an operation logs in, if it is a login and names somebody. -/
def MemoryState.loginOf? (s : MemoryState) : Operation → Option Int
  | .login request _ => (s.named? request.identity).map (·.id)
  | _ => none

/-- Logins leave everybody the names that they have. -/
theorem MemoryService.loginOf?_step [SizeLimit] (m : MemoryService) {w : World MemoryState}
    (hfiled : w.stores.Filed) (op : Operation) (hop : op.IsLoginOrClock) :
    (m.step w op).stores.loginOf? = w.stores.loginOf? := by
  funext next
  cases next with
  | login request client =>
    have hstep := account_step m ⟨w, op⟩
    unfold MemoryState.loginOf?
    dsimp only
    rw [Call.next] at hstep
    generalize husers : (m.step w op).stores.users = users at hstep
    cases hstep with
    | kept => rw [MemoryState.named?_of_users husers]
    | created hcreated =>
      dsimp only at hcreated
      subst hcreated
      exact hop.elim
    | lockedOut =>
      rw [MemoryState.named?_of_users husers, hfiled.named?_giveStatus, Option.map_map]
      congr 1
      funext user
      dsimp only [Function.comp_apply]
      split <;> rfl
    | given hgiven =>
      dsimp only at hgiven
      subst hgiven
      exact hop.elim
  | _ => rfl

/-- At every moment of a run, and of the same run without the logins of a certain user, the
worlds are alike for the others, and the next login is answered alike if it is made in both. -/
def World.AlikeAlong [SizeLimit] (m : MemoryService) (other : Int) (names : Operation → Option Int)
    (ρ : Equiv.Perm String) (ops : List Operation) (w v : World MemoryState) : Prop :=
  ∀ pre post, ops = pre ++ post →
    Alike other ρ (m.after w pre) (m.after v (pre.filter fun op => names op ≠ some other)) ∧
    ∀ request client rest, post = .login request client :: rest →
      names (.login request client) ≠ some other →
      LoginsAgree m (m.after w pre).now ρ
        ((m.app.login request client).runOn (m.after w pre)).1
        ((m.app.login request client).runOn
          (m.after v (pre.filter fun op => names op ≠ some other))).1

namespace World.AlikeAlong

variable {m : MemoryService} {other : Int} {names : Operation → Option Int}
  {ρ : Equiv.Perm String} {w v : World MemoryState}

theorem nil [SizeLimit] (h : Alike other ρ w v) : AlikeAlong m other names ρ [] w v := by
  intro pre post hsplit
  obtain ⟨rfl, rfl⟩ := List.append_eq_nil_iff.mp hsplit.symm
  exact ⟨h, fun _ _ _ hpost => nomatch hpost⟩

theorem cons [SizeLimit] {op : Operation} {ops : List Operation} (h : Alike other ρ w v)
    (hanswers : ∀ request client, op = .login request client → names op ≠ some other →
      LoginsAgree m w.now ρ ((m.app.login request client).runOn w).1
        ((m.app.login request client).runOn v).1)
    (hrest : AlikeAlong m other names ρ ops (m.step w op)
      (if names op = some other then v else m.step v op)) :
    AlikeAlong m other names ρ (op :: ops) w v := by
  intro pre post hsplit
  cases pre with
  | nil =>
    refine ⟨h, fun request client rest hpost hne => ?_⟩
    obtain ⟨rfl, -⟩ := List.cons.inj (hsplit.trans hpost)
    exact hanswers request client rfl hne
  | cons first pre =>
    obtain ⟨rfl, hops⟩ := List.cons.inj hsplit
    have hmoment := hrest pre post hops
    by_cases hop : names op = some other
    · rw [if_pos hop] at hmoment
      rw [List.filter_cons_of_neg (by simpa using hop)]
      exact hmoment
    · rw [if_neg hop] at hmoment
      rw [List.filter_cons_of_pos (by simpa using hop)]
      exact hmoment

end World.AlikeAlong

/-- Where two runs stand, one of which leaves out the logins of a certain user: the worlds are
alike for the others, and there is an identifier for every login that is still to come. -/
structure World.Twins (m : MemoryService) (other : Int) (names : Operation → Option Int) (k : Nat)
    (ρ : Equiv.Perm String) (w v : World MemoryState) : Prop where
  alike : Alike other ρ w v
  names : w.stores.loginOf? = names
  filed : w.stores.Filed
  filed' : v.stores.Filed
  unused : m.Unused w k
  unused' : m.Unused v k

namespace World.Twins

variable {m : MemoryService} {other : Int} {names : Operation → Option Int} {k : Nat}
  {ρ : Equiv.Perm String} {w v : World MemoryState} {request : LoginRequest} {client : Client}

theorem names_login (h : Twins m other names k ρ w v) (request : LoginRequest)
    (client : Client) :
    names (.login request client) = (w.stores.named? request.identity).map (·.id) := by
  rw [← h.names]
  rfl

variable [SizeLimit]

/-- A login of the certain user is made in the first run alone. -/
theorem skip (h : Twins m other names (k + 1) ρ w v)
    (hother : names (.login request client) = some other) :
    Twins m other names k ρ (m.step w (.login request client)) v where
  alike := h.alike.of_login_of_other ((h.names_login request client).symm.trans hother)
    h.unused.first
  names := (m.loginOf?_step h.filed (.login request client) trivial).trans h.names
  filed := Call.next_filed (c := ⟨w, .login request client⟩) h.filed
  filed' := h.filed'
  unused := h.unused.login request client
  unused' := h.unused'.of_kept rfl rfl

/-- Time passes in both runs. -/
theorem clock (h : Twins m other names (k + 1) ρ w v) (now : Instant) :
    Twins m other names k ρ (m.step w (.clock now)) (m.step v (.clock now)) where
  alike := ⟨rfl, h.alike.accounts, h.alike.policies, h.alike.attempts, h.alike.sessions⟩
  names := h.names
  filed := h.filed
  filed' := h.filed'
  unused := h.unused.of_kept rfl rfl
  unused' := h.unused'.of_kept rfl rfl

/-- A login of another user is made in both runs. -/
theorem login (h : Twins m other names (k + 1) ρ w v) (hkeys : m.keys.Uniform)
    (hother : names (.login request client) ≠ some other) :
    ∃ ρ' : Equiv.Perm String, (∀ id, v.stores.Seen other id → ρ' id = ρ id) ∧
      Twins m other names k ρ' (m.step w (.login request client))
        (m.step v (.login request client)) ∧
      LoginsAgree m w.now ρ' ((m.app.login request client).runOn w).1
        ((m.app.login request client).runOn v).1 := by
  rw [h.names_login] at hother
  obtain ⟨ρ', hagree, halike, hanswers⟩ : LoginAlike m other ρ request client w v :=
    h.alike.login hkeys h.filed h.filed' hother h.unused.first h.unused'.first
  refine ⟨ρ', hagree, ⟨halike, ?_, ?_, ?_, ?_, ?_⟩, hanswers⟩
  · exact (m.loginOf?_step h.filed (.login request client) trivial).trans h.names
  · exact Call.next_filed (c := ⟨w, .login request client⟩) h.filed
  · exact Call.next_filed (c := ⟨v, .login request client⟩) h.filed'
  · exact h.unused.login request client
  · exact h.unused'.login request client

/-- Over the whole of both runs one naming of the sessions does. -/
theorem alikeAlong {ops : List Operation} (h : Twins m other names ops.length ρ w v)
    (hkeys : m.keys.Uniform) (hops : ∀ op ∈ ops, op.IsLoginOrClock) :
    ∃ ρ' : Equiv.Perm String, (∀ id, v.stores.Seen other id → ρ' id = ρ id) ∧
      AlikeAlong m other names ρ' ops w v := by
  induction ops generalizing ρ w v with
  | nil => exact ⟨ρ, fun _ _ => rfl, .nil h.alike⟩
  | cons op ops ih =>
    have hops' := fun op hop => hops op (List.mem_cons_of_mem _ hop)
    cases op with
    | login request client =>
      by_cases hother : names (.login request client) = some other
      · obtain ⟨ρ', hagree, hrest⟩ := ih (h.skip hother) hops'
        refine ⟨ρ', hagree, .cons (h.alike.rename hagree) (fun _ _ _ hne => absurd hother hne) ?_⟩
        rw [if_pos hother]
        exact hrest
      · obtain ⟨ρ₁, hagree₁, htwins, hanswers⟩ := h.login hkeys hother
        obtain ⟨ρ', hagree', hrest⟩ := ih htwins hops'
        rw [MemoryService.step] at hagree'
        have hagree : ∀ id, v.stores.Seen other id → ρ' id = ρ id := fun id hid =>
          (hagree' id (MemoryService.seen_of_login h.unused'.first hid)).trans (hagree₁ id hid)
        refine ⟨ρ', hagree, .cons (h.alike.rename hagree) (fun request client hop _ => ?_) ?_⟩
        · cases hop
          rw [h.names_login] at hother
          have hother' := hother
          rw [← h.alike.named?_eq h.filed h.filed' hother] at hother'
          exact hanswers.rename fun response hresponse =>
            hagree' _ (MemoryService.seen_of_answer hother' hresponse)
        · rw [if_neg hother]
          exact hrest
    | clock now =>
      have htwins := h.clock now
      have hother : names (.clock now) ≠ some other := by
        rw [← h.names]
        exact Option.some_ne_none other |>.symm
      obtain ⟨ρ', hagree, hrest⟩ := ih htwins hops'
      refine ⟨ρ', hagree, .cons (h.alike.rename hagree) (fun _ _ hop => by cases hop) ?_⟩
      rw [if_neg hother]
      exact hrest
    | _ => exact (hops _ List.mem_cons_self).elim

end World.Twins

/-- A user cannot tell the worlds apart: the account, with its status, the record of failed
logins and the sessions are the same, but for the names of sessions. -/
structure World.SameFor (userId : Int) (ρ : Equiv.Perm String) (w v : World MemoryState) :
    Prop where
  now : w.now = v.now
  account : w.stores.users.find? userId = v.stores.users.find? userId
  attempts : w.stores.attempts.find? userId = v.stores.attempts.find? userId
  sessions : ∀ id, w.stores.sessionOf? userId (ρ id) =
    (v.stores.sessionOf? userId id).map fun x => { x with id := ρ id }

theorem World.Alike.sameFor {other userId : Int} {ρ : Equiv.Perm String}
    {w v : World MemoryState} (h : Alike other ρ w v) (hne : userId ≠ other) :
    SameFor userId ρ w v :=
  ⟨h.now, h.find?_users hne, h.attempts userId hne, h.sessions userId hne⟩

/-- Take all logins of one user out of a run of logins, and nobody else can tell: at every moment
each of the others has the same account, attempts and sessions, and each of their logins is
answered the same, but for the names of sessions, for which one naming does in the whole run. -/
theorem logins_do_not_interfere [SizeLimit] (m : MemoryService) (hkeys : m.keys.Uniform)
    {w : World MemoryState} (hfiled : w.stores.Filed)
    (hsessions : ∀ id x, w.stores.sessions.find? id = some x → x.id = id)
    {ops : List Operation} (hops : ∀ op ∈ ops, op.IsLoginOrClock)
    (hunused : m.Unused w ops.length) (other : Int) :
    ∃ ρ : Equiv.Perm String,
      (∀ id x, w.stores.sessions.find? id = some x → x.userId ≠ other → ρ id = id) ∧
      ∀ pre post, ops = pre ++ post →
        let run := m.after w pre
        let run' := m.after w (pre.filter fun op => w.stores.loginOf? op ≠ some other)
        (∀ userId, userId ≠ other → run.SameFor userId ρ run') ∧
        ∀ request client rest, post = .login request client :: rest →
          w.stores.loginOf? (.login request client) ≠ some other →
          LoginsAgree m run.now ρ ((m.app.login request client).runOn run).1
            ((m.app.login request client).runOn run').1 := by
  have hstart : World.Alike other (.refl String) w w := by
    refine ⟨rfl, rfl, rfl, fun _ _ => rfl, fun userId _ id => ?_⟩
    cases hsession : w.stores.sessionOf? userId id with
    | none => exact hsession
    | some x =>
      have hid : x.id = id := hsessions id x (Option.filter_eq_some_iff.mp hsession).1
      subst hid
      exact hsession
  have htwins : World.Twins m other w.stores.loginOf? ops.length (.refl String) w w :=
    ⟨hstart, rfl, hfiled, hfiled, hunused, hunused⟩
  obtain ⟨ρ, hagree, halong⟩ := htwins.alikeAlong hkeys hops
  refine ⟨ρ, fun id x hx hne => hagree id ⟨x, hx, hne⟩, fun pre post hsplit => ?_⟩
  obtain ⟨halike, hanswers⟩ := halong pre post hsplit
  exact ⟨fun userId hne => halike.sameFor hne, hanswers⟩

/-! ### Two users -/

namespace Sample

/-- The world in which a second user has an account and a role, too. -/
def pair : World MemoryState :=
  { world with stores := { world.stores with
    users := ⟨[(1, user), (2, { user with id := 2, phone := "2", email := "ben@example.com" })]⟩
    policies := { world.stores.policies with userRoles := [(1, 1), (2, 1)] } } }

/-- A guess and a login of the second user do not show in the login of the first, whose session
has another name without them. -/
theorem guess_does_not_interfere :
    let login (name password : String) : Operation :=
      .login ⟨name, password⟩ ⟨"127.0.0.1", "agent"⟩
    let run := service.after pair [login "2" "guess", login "2" "secret", login "1" "secret"]
    let run' := service.after pair [login "1" "secret"]
    run.stores.sessions.keys = ["0", "1"] ∧ run'.stores.sessions.keys = ["0"] ∧
      ∃ ρ : Equiv.Perm String, run.SameFor 1 ρ run' := by
  intro login run run'
  have hfiled : pair.stores.Filed := by
    refine ⟨fun row hrow => ?_, ?_⟩
    · rcases List.mem_pair.mp hrow with rfl | rfl <;> rfl
    · exact List.pairwise_pair.mpr (by decide)
  have hunused : service.Unused pair 3 := by
    refine ⟨fun _ _ => rfl, ?_⟩
    decide +kernel
  have hops : ∀ op ∈ [login "2" "guess", login "2" "secret", login "1" "secret"],
      op.IsLoginOrClock := by
    simp [login, Operation.IsLoginOrClock]
  obtain ⟨ρ, -, hruns⟩ := logins_do_not_interfere service (.inl fun _ => ⟨[], rfl⟩) hfiled
    (fun _ _ h => nomatch h) hops hunused 2
  refine ⟨by decide +kernel, by decide +kernel, ρ, ?_⟩
  exact (hruns _ [] (List.append_nil _).symm).1 1 (by decide)

end Sample

end Turnstile
