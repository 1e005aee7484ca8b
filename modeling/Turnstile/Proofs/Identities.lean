import Turnstile.Proofs.Accounts
import Turnstile.Proofs.Text.Lower

/-!
Who an account belongs to. Its identifier, number, address and password hash are
set when it is opened and are never touched again, so the accounts of a service
are those that its registrations have opened, in that order, and no two of them
answer to the same name.
-/

namespace Turnstile

/-- What an account is known by. -/
structure Credentials where
  id : Int
  phone : String
  email : String
  passwordHash : String

def User.credentials (u : User) : Credentials := ⟨u.id, u.phone, u.email, u.passwordHash⟩

/-- No name belongs to both: the numbers differ, and so do the addresses, whatever the case of
their letters in ASCII. -/
def Credentials.Apart (a b : Credentials) : Prop :=
  a.phone ≠ b.phone ∧ agreesUpToCase a.email b.email = false

theorem NewUser.Makes.credentials {u : NewUser} {user : User} (h : u.Makes user) :
    user.credentials = ⟨user.id, u.phone, u.email, u.passwordHash⟩ := by
  unfold User.credentials
  rw [h.phone, h.email, h.passwordHash]

namespace MemoryState

/-- The credentials of all accounts, in the order of their identifiers. -/
def credentials (s : MemoryState) : List Credentials := s.users.values.map User.credentials

/-- Somebody has this address, whatever the case of its letters in ASCII, or this number. -/
def Clashes (s : MemoryState) (email phone : String) : Prop :=
  ∃ c ∈ s.credentials, agreesUpToCase c.email email = true ∨ c.phone = phone

/-- Accounts stand under their own identifiers, which count from one on, no two answer to the
same name, and addresses are written as they are looked for. -/
structure Enrolled (s : MemoryState) : Prop where
  keyed : s.users.keys = s.credentials.map (·.id)
  counted : s.credentials.map (·.id) =
    (List.range s.credentials.length).map fun (k : Nat) => (k : Int) + 1
  apart : s.credentials.Pairwise Credentials.Apart
  normal : ∀ c ∈ s.credentials, Text.trim c.email = c.email ∧ Text.lower c.email = c.email

namespace Enrolled

variable {s t : MemoryState}

theorem of_users (h : s.users = {}) : s.Enrolled := by
  have hnone : s.credentials = [] := by
    unfold credentials
    rw [h]
    rfl
  refine ⟨?_, ?_, ?_, ?_⟩
  · rw [hnone, h]
    rfl
  · rw [hnone]
    rfl
  · rw [hnone]
    exact .nil
  · rw [hnone]
    exact fun c hc => nomatch hc

theorem congr (h : s.Enrolled) (hkeys : t.users.keys = s.users.keys)
    (hcredentials : t.credentials = s.credentials) : t.Enrolled := by
  refine ⟨?_, ?_, ?_, ?_⟩
  · rw [hkeys, hcredentials]
    exact h.keyed
  · rw [hcredentials]
    exact h.counted
  · rw [hcredentials]
    exact h.apart
  · rw [hcredentials]
    exact h.normal

theorem keys_eq (h : s.Enrolled) :
    s.users.keys = (List.range s.credentials.length).map fun (k : Nat) => (k : Int) + 1 :=
  h.keyed.trans h.counted

theorem filed (h : s.Enrolled) : s.Filed := by
  refine ⟨fun row hrow => ?_, ?_⟩
  · have hids : s.users.rows.map (·.1) = s.users.rows.map (·.2.id) := by
      have hkeyed := h.keyed
      unfold credentials Table.values Table.keys at hkeyed
      rw [List.map_map, List.map_map] at hkeyed
      exact hkeyed
    exact (List.map_inj_left.mp hids row hrow).symm
  · have hkeys : s.users.keys.Pairwise (· < ·) := by
      rw [h.keys_eq, List.pairwise_map]
      exact List.pairwise_lt_range.imp fun hlt => by omega
    exact List.pairwise_map.mp hkeys

/-- The next identifier is the next number. -/
theorem nextUserId_eq (h : s.Enrolled) : s.nextUserId = (s.credentials.length : Int) + 1 := by
  unfold nextUserId
  rw [h.keys_eq]
  cases s.credentials.length with
  | zero => rfl
  | succ n =>
    rw [List.range_succ, List.map_append, List.map_singleton, List.getLast?_concat]
    rfl

/-- An account is opened at the end of the list. -/
theorem put (h : s.Enrolled) {user : User} (hid : user.id = s.nextUserId)
    (hapart : ∀ c ∈ s.credentials, c.Apart user.credentials)
    (hnormal : Text.trim user.email = user.email ∧ Text.lower user.email = user.email) :
    let t : MemoryState := { s with users := s.users.put user.id user }
    t.credentials = s.credentials ++ [user.credentials] ∧ t.Enrolled := by
  intro t
  have hlt : ∀ j ∈ s.users.keys, j < user.id := by
    intro j hj
    rw [h.keys_eq] at hj
    obtain ⟨k, hk, rfl⟩ := List.mem_map.mp hj
    rw [hid, h.nextUserId_eq]
    have := List.mem_range.mp hk
    omega
  have hrows : t.users.rows = s.users.rows ++ [(user.id, user)] := Table.rows_put_of_lt hlt user
  have hcredentials : t.credentials = s.credentials ++ [user.credentials] := by
    unfold credentials Table.values
    rw [hrows, List.map_append, List.map_append]
    rfl
  have hkeys : t.users.keys = s.users.keys ++ [user.id] := by
    unfold Table.keys
    rw [hrows, List.map_append]
    rfl
  refine ⟨hcredentials, ?_, ?_, ?_, ?_⟩
  · rw [hkeys, hcredentials, h.keyed, List.map_append]
    rfl
  · rw [hcredentials, List.map_append, h.counted, List.length_append, List.length_singleton,
      List.range_succ, List.map_append]
    refine congrArg (_ ++ [·]) ?_
    exact hid.trans h.nextUserId_eq
  · rw [hcredentials]
    refine List.pairwise_append.mpr ⟨h.apart, List.pairwise_singleton _ _, ?_⟩
    intro a ha b hb
    obtain rfl := List.mem_singleton.mp hb
    exact hapart a ha
  · rw [hcredentials]
    intro c hc
    rcases List.mem_append.mp hc with hold | hnew
    · exact h.normal c hold
    · obtain rfl := List.mem_singleton.mp hnew
      exact hnormal

/-- A status is not what an account is known by. -/
theorem giveStatus (h : s.Enrolled) (userId : Int) (status : UserStatus) (now : Instant) :
    (s.giveStatus userId status now).credentials = s.credentials ∧
      (s.giveStatus userId status now).Enrolled := by
  have hcredentials : (s.giveStatus userId status now).credentials = s.credentials :=
    Table.map_values_change _ _ fun _ => rfl
  exact ⟨hcredentials, h.congr (Table.keys_change ..) hcredentials⟩

end Enrolled

/-! ### Opening an account -/

section Opening

variable {u : NewUser} {now : Instant} {s t : MemoryState}

theorem clashes_iff_any {email phone : String} :
    s.Clashes email phone ↔
      (s.users.values.any fun v => agreesUpToCase v.email email || v.phone == phone) = true := by
  unfold Clashes credentials
  rw [List.any_eq_true]
  constructor
  · rintro ⟨c, hc, hclash⟩
    obtain ⟨v, hv, rfl⟩ := List.mem_map.mp hc
    exact ⟨v, hv, by simpa [User.credentials] using hclash⟩
  · rintro ⟨v, hv, hclash⟩
    exact ⟨v.credentials, List.mem_map_of_mem hv, by simpa [User.credentials] using hclash⟩

theorem clashes_iff_found {email phone : String} :
    s.Clashes email phone ↔
      ((s.findByEmail? email).isSome || (s.findByPhone? phone).isSome) = true := by
  rw [clashes_iff_any]
  unfold findByEmail? findByPhone?
  rw [List.isSome_find?, List.isSome_find?]
  simp only [List.any_eq_true, Bool.or_eq_true]
  constructor
  · rintro ⟨v, hv, hemail | hphone⟩
    · exact .inl ⟨v, hv, hemail⟩
    · exact .inr ⟨v, hv, hphone⟩
  · rintro (⟨v, hv, hemail⟩ | ⟨v, hv, hphone⟩)
    · exact ⟨v, hv, .inl hemail⟩
    · exact ⟨v, hv, .inr hphone⟩

/-- An account is opened wherever nobody answers to its names. -/
theorem createUser_of_free (h : ¬ s.Clashes u.email u.phone) :
    ∃ user, createUser u now s = (.ok user, { s with users := s.users.put user.id user }) := by
  unfold createUser
  rw [if_neg fun hany => h (clashes_iff_any.mpr hany)]
  exact ⟨_, rfl⟩

theorem Enrolled.created (h : s.Enrolled) {user : User}
    (hcreate : createUser u now s = (.ok user, t))
    (hnormal : Text.trim u.email = u.email ∧ Text.lower u.email = u.email) :
    t.credentials = s.credentials ++ [user.credentials] ∧ t.Enrolled := by
  obtain ⟨hid, -, rfl⟩ := of_createUser hcreate
  obtain ⟨hmade, hclear⟩ := of_createUser_made hcreate
  refine h.put hid (fun c hc => ?_) (hmade.email ▸ hnormal)
  obtain ⟨v, hv, rfl⟩ := List.mem_map.mp hc
  obtain ⟨hemail, hphone⟩ := hclear v hv
  rw [hmade.credentials]
  exact ⟨hphone, hemail⟩

end Opening

end MemoryState

/-! ### Registrations -/

section Register

variable {m : MemoryService} {request : RegisterRequest} {w v : World MemoryState}
  {answer : Except Failure UserProfile}

/-- The address of a registration is written as it is looked for. -/
theorem MemoryService.newUser_normal (m : MemoryService) (request : RegisterRequest)
    (number : Nat) : Text.trim (m.app.newUser request number).email =
        (m.app.newUser request number).email ∧
      Text.lower (m.app.newUser request number).email = (m.app.newUser request number).email :=
  ⟨Text.trim_lower_trim request.email, Text.lower_lower _⟩

/-- A registration leaves the accounts as they are, or opens one. -/
theorem RegisterEnd.users (h : RegisterEnd m request w answer v) :
    v.stores.users = w.stores.users ∧ (∀ profile, answer ≠ .ok profile) ∨
      ∃ user s, MemoryState.createUser (m.app.newUser request w.drawn) w.now w.stores =
          (.ok user, s) ∧ v.stores.users = s.users ∧
        ∀ profile, answer = .ok profile → user.profile = profile := by
  cases h with
  | invalid => exact .inl ⟨rfl, nofun⟩
  | known => exact .inl ⟨rfl, nofun⟩
  | clashed hcreate =>
    rw [MemoryState.of_createUser_error hcreate]
    exact .inl ⟨rfl, nofun⟩
  | alone hcreate => exact .inr ⟨_, _, hcreate, rfl, fun _ hok => Except.ok.inj hok⟩
  | joined hcreate => exact .inr ⟨_, _, hcreate, rfl, fun _ hok => Except.ok.inj hok⟩
  | unassigned hcreate => exact .inr ⟨_, _, hcreate, rfl, nofun⟩

/-- A name that is taken is refused before anything is done. -/
theorem MemoryService.runOn_register_of_clash (hcheck : Request.check request = .ok ())
    (hclash : w.stores.Clashes (Text.lower (Text.trim request.email))
      (Text.trim request.phone)) :
    (m.app.register request).runOn w = (.error (.error .duplicateRegistration), w) := by
  have hvalid : (Action.check (Request.check request)).runOn w = (.ok (), w) := by
    rw [hcheck]
    rfl
  unfold App.register
  rw [Action.runOn_bind_ok hvalid, Action.runOn_bind_ok (m.runOn_isRegistered w _ _),
    MemoryState.clashes_iff_found.mp hclash]
  rfl

theorem PolicyTables.assignRole_error {userId roleId : Int} {now : Instant} {t : PolicyTables}
    {e : ServiceError} (h : PolicyTables.assignRole userId roleId now t = .error e) :
    e = .notFound "Role" := by
  unfold PolicyTables.assignRole PolicyTables.requireRole at h
  split at h
  · cases h
  · exact (Except.error.inj h).symm

/-- Names that are free are not refused as taken. -/
theorem RegisterEnd.ne_duplicate (h : RegisterEnd m request w answer v)
    (hcheck : Request.check request = .ok ())
    (hfree : ¬ w.stores.Clashes (Text.lower (Text.trim request.email))
      (Text.trim request.phone)) :
    answer ≠ .error (.error .duplicateRegistration) := by
  cases h with
  | invalid hinvalid =>
    rw [hcheck] at hinvalid
    cases hinvalid
  | known hknown =>
    exact absurd (MemoryState.clashes_iff_found.mpr (Bool.or_eq_true_iff.mpr hknown)) hfree
  | clashed hcreate =>
    obtain ⟨user, hcreated⟩ : ∃ user, MemoryState.createUser (m.app.newUser request w.drawn)
        w.now w.stores = (.ok user, _) := MemoryState.createUser_of_free hfree
    rw [hcreate] at hcreated
    cases hcreated
  | alone => exact nofun
  | joined => exact nofun
  | unassigned _ _ hassign =>
    rw [PolicyTables.assignRole_error hassign]
    exact nofun

end Register

/-! ### Runs -/

/-- The account that a call has opened: it stands under the identifier that was the next one. -/
def Call.opened? [SizeLimit] (m : MemoryService) (c : Call) : Option User :=
  (c.next m).stores.users.find? c.world.stores.nextUserId

/-- What a step does to the credentials: nothing, or a registration opens one account. -/
inductive CredentialStep [SizeLimit] (m : MemoryService) (c : Call) : Prop
  | kept (hopened : c.opened? m = none)
      (hcredentials : (c.next m).stores.credentials = c.world.stores.credentials)
      (hanswer : ∀ request profile, c.operation = .register request →
        ((m.app.register request).runOn c.world).1 ≠ .ok profile)
  | opened {user : User} {request : RegisterRequest} (hop : c.operation = .register request)
      (hopened : c.opened? m = some user)
      (hmade : (m.app.newUser request c.world.drawn).Makes user)
      (hcredentials : (c.next m).stores.credentials =
        c.world.stores.credentials ++ [user.credentials])
      (hanswer : ∀ profile, ((m.app.register request).runOn c.world).1 = .ok profile →
        user.profile = profile)

section Steps

variable [SizeLimit] {m : MemoryService} {c : Call}

theorem Call.opened?_of_keys (h : (c.next m).stores.Enrolled)
    (hkeys : (c.next m).stores.users.keys = c.world.stores.users.keys) :
    c.opened? m = none := by
  have hnext : c.world.stores.nextUserId = (c.next m).stores.nextUserId := by
    unfold MemoryState.nextUserId
    rw [hkeys]
  unfold Call.opened?
  rw [hnext]
  exact h.filed.find?_nextUserId

/-- A step that keeps the identifiers and the credentials keeps everything that is said of
them. -/
theorem CredentialStep.of_kept {s : MemoryState} (h : c.world.stores.Enrolled)
    (husers : (c.next m).stores.users = s.users)
    (hkeys : s.users.keys = c.world.stores.users.keys)
    (hcredentials : s.credentials = c.world.stores.credentials)
    (hanswer : ∀ request profile, c.operation = .register request →
      ((m.app.register request).runOn c.world).1 ≠ .ok profile) :
    CredentialStep m c ∧ (c.next m).stores.Enrolled := by
  have hnext : (c.next m).stores.credentials = c.world.stores.credentials := by
    rw [← hcredentials]
    unfold MemoryState.credentials
    rw [husers]
  have hkept : (c.next m).stores.users.keys = c.world.stores.users.keys := by
    rw [husers, hkeys]
  have henrolled := h.congr hkept hnext
  exact ⟨.kept (Call.opened?_of_keys henrolled hkept) hnext hanswer, henrolled⟩

theorem Call.next_of_register {request : RegisterRequest} (hop : c.operation = .register request) :
    c.next m = ((m.app.register request).runOn c.world).2 := by
  rw [Call.next, hop]
  rfl

theorem CredentialStep.of_register {request : RegisterRequest} (h : c.world.stores.Enrolled)
    (hop : c.operation = .register request) :
    CredentialStep m c ∧ (c.next m).stores.Enrolled := by
  have hnext : c.next m = ((m.app.register request).runOn c.world).2 := Call.next_of_register hop
  rcases (register_ends m request c.world).users with
    ⟨husers, hfails⟩ | ⟨user, s, hcreate, husers, hanswer⟩
  · refine CredentialStep.of_kept h (hnext ▸ husers) rfl rfl fun other profile hother => ?_
    obtain rfl : request = other := Operation.register.inj (hop.symm.trans hother)
    exact hfails profile
  · rw [← hnext] at husers
    obtain ⟨hcredentials, henrolled⟩ := h.created hcreate (m.newUser_normal request _)
    obtain ⟨hid, -, rfl⟩ := MemoryState.of_createUser hcreate
    have hcongr : (c.next m).stores.credentials =
        c.world.stores.credentials ++ [user.credentials] := by
      rw [← hcredentials]
      unfold MemoryState.credentials
      rw [husers]
    refine ⟨.opened hop ?_ (MemoryState.of_createUser_made hcreate).1 hcongr hanswer,
      henrolled.congr (congrArg Table.keys husers) (hcongr.trans hcredentials.symm)⟩
    unfold Call.opened?
    rw [husers, ← hid]
    exact Table.find?_put_self ..

/-- Every step does one of these. -/
theorem credential_step (h : c.world.stores.Enrolled) :
    CredentialStep m c ∧ (c.next m).stores.Enrolled := by
  by_cases hregister : ∃ request, c.operation = .register request
  · obtain ⟨request, hop⟩ := hregister
    exact CredentialStep.of_register h hop
  have hanswer : ∀ request profile, c.operation = .register request →
      ((m.app.register request).runOn c.world).1 ≠ .ok profile :=
    fun request _ hop => absurd ⟨request, hop⟩ hregister
  have hstep := account_step m c
  generalize husers : (c.next m).stores.users = users at hstep
  cases hstep with
  | kept => exact CredentialStep.of_kept h husers rfl rfl hanswer
  | created hop => exact absurd ⟨_, hop⟩ hregister
  | lockedOut =>
    exact CredentialStep.of_kept h husers (Table.keys_change ..) (h.giveStatus ..).1 hanswer
  | given =>
    exact CredentialStep.of_kept h husers (Table.keys_change ..) (h.giveStatus ..).1 hanswer

end Steps

section Runs

variable {m : MemoryService} {w : World MemoryState}

/-- The accounts after a run are those from before and those that were opened in its course, in
this order and with the credentials that they were opened with. -/
theorem MemoryService.after_credentials [SizeLimit] (h : w.stores.Enrolled) (ops : List Operation) :
    (m.after w ops).stores.Enrolled ∧ (m.after w ops).stores.credentials =
      w.stores.credentials ++
        ((m.calls w ops).filterMap fun c => c.opened? m).map User.credentials := by
  induction ops generalizing w with
  | nil => exact ⟨h, (List.append_nil _).symm⟩
  | cons op rest ih =>
    obtain ⟨hstep, hnext⟩ := credential_step (m := m) (c := ⟨w, op⟩) h
    obtain ⟨henrolled, hrest⟩ := ih hnext
    refine ⟨henrolled, hrest.trans ?_⟩
    rw [MemoryService.calls]
    cases hstep with
    | kept hopened hcredentials =>
      rw [List.filterMap_cons_none hopened]
      exact congrArg (· ++ _) hcredentials
    | opened _ hopened _ hcredentials =>
      rw [List.filterMap_cons_some hopened, List.map_cons]
      exact (congrArg (· ++ _) hcredentials).trans (List.append_assoc ..)

/-- From a service without accounts on, whatever is done with it: identifiers count from one on
in the order of registration, no two accounts share a number or an address up to the case of
ASCII letters, every address is trimmed and in lower case, and what an account was opened with
stays. A registration that answers with a profile has opened the account of this profile, with
the names that were asked for, and nothing else opens one. A valid registration is refused as a
duplicate where its number or its address belongs to somebody, and nowhere else, and then it
changes nothing. -/
theorem identities_unique [SizeLimit] (m : MemoryService) {w : World MemoryState}
    (hnobody : w.stores.users = {}) (ops : List Operation) :
    let v := m.after w ops
    v.stores.Enrolled ∧
    v.stores.credentials =
      ((m.calls w ops).filterMap fun c => c.opened? m).map User.credentials ∧
    (∀ more, v.stores.credentials <+: (m.after w (ops ++ more)).stores.credentials) ∧
    (∀ op user, Call.opened? m ⟨v, op⟩ = some user → ∃ request, op = .register request ∧
      (m.app.newUser request v.drawn).Makes user) ∧
    ∀ request,
      (∀ profile, ((m.app.register request).runOn v).1 = .ok profile →
        ∃ user, Call.opened? m ⟨v, .register request⟩ = some user ∧ user.profile = profile) ∧
      (Request.check request = .ok () →
        (((m.app.register request).runOn v).1 = .error (.error .duplicateRegistration) ↔
          v.stores.Clashes (Text.lower (Text.trim request.email)) (Text.trim request.phone)) ∧
        (((m.app.register request).runOn v).1 = .error (.error .duplicateRegistration) →
          ((m.app.register request).runOn v).2 = v)) := by
  intro v
  obtain ⟨henrolled, hcredentials⟩ :=
    MemoryService.after_credentials (m := m) (.of_users hnobody) ops
  have hnone : w.stores.credentials = [] := by
    unfold MemoryState.credentials
    rw [hnobody]
    rfl
  rw [hnone, List.nil_append] at hcredentials
  refine ⟨henrolled, hcredentials, fun more => ?_, fun op user hopened => ?_, fun request => ?_⟩
  · have hmore := (MemoryService.after_credentials (m := m) henrolled more).2
    have hafter : m.after w (ops ++ more) = m.after v more := List.foldl_append ..
    rw [hafter, hmore]
    exact List.prefix_append ..
  · obtain ⟨hstep, -⟩ := credential_step (m := m) (c := ⟨v, op⟩) henrolled
    cases hstep with
    | kept hno =>
      rw [hno] at hopened
      cases hopened
    | opened hop hsome hmade =>
      rw [hsome] at hopened
      obtain rfl := Option.some.inj hopened
      exact ⟨_, hop, hmade⟩
  · refine ⟨fun profile hok => ?_, fun hcheck => ?_⟩
    · obtain ⟨hstep, -⟩ :=
        credential_step (m := m) (c := ⟨v, .register request⟩) henrolled
      cases hstep with
      | kept _ _ hanswer => exact absurd hok (hanswer request profile rfl)
      | @opened user other hop hopened _ _ hanswer =>
        obtain rfl : request = other := Operation.register.inj hop
        exact ⟨user, hopened, hanswer profile hok⟩
    · by_cases hclash : v.stores.Clashes (Text.lower (Text.trim request.email))
        (Text.trim request.phone)
      · rw [MemoryService.runOn_register_of_clash hcheck hclash]
        exact ⟨⟨fun _ => hclash, fun _ => rfl⟩, fun _ => rfl⟩
      · have hne := (register_ends m request v).ne_duplicate hcheck hclash
        exact ⟨⟨fun h => absurd h hne, fun h => absurd h hclash⟩, fun h => absurd h hne⟩

end Runs

namespace Sample

/-- In capitals it is still the address of the first account. -/
theorem address_in_capitals_taken :
    let first : RegisterRequest := ⟨"Ann", "+10000000001", "ann@example.com", "password"⟩
    let second : RegisterRequest := ⟨"Eve", "+10000000002", "ANN@Example.com", "password"⟩
    let v := service.after { world with stores := {} } [.register first]
    (service.app.register second).runOn v = (.error (.error .duplicateRegistration), v) := by
  intro first second v
  have hcheck : Request.check second = .ok () := by decide +kernel
  have htaken : v.stores.Clashes (Text.lower (Text.trim second.email)) (Text.trim second.phone) :=
    MemoryState.clashes_iff_any.mpr (by decide +kernel)
  obtain ⟨-, -, -, -, hregister⟩ :=
    identities_unique service (w := { world with stores := {} }) rfl [.register first]
  obtain ⟨hanswer, hworld⟩ := (hregister second).2 hcheck
  have hrefused := hanswer.mpr htaken
  exact Prod.ext hrefused (hworld hrefused)

end Sample

end Turnstile
