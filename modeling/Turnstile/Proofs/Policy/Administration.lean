import Turnstile.Proofs.Admin
import Turnstile.Proofs.Except

/-!
What a call of the administration does, said once for all of them: it changes
the tables of policies or is refused, and then it may put stored grants in
force. A refusal of the tables leaves everything as it was; but where the grants
cannot be put in force, the tables have changed already.
-/

namespace Turnstile

namespace World

/-- The world with other tables of policies. -/
def withTables (w : World MemoryState) (t : PolicyTables) : World MemoryState :=
  { w with stores := { w.stores with policies := t } }

@[simp] theorem withTables_policies (w : World MemoryState) (t : PolicyTables) :
    (w.withTables t).stores.policies = t := rfl

@[simp] theorem withTables_engine (w : World MemoryState) (t : PolicyTables) :
    (w.withTables t).engine = w.engine := rfl

@[simp] theorem withTables_self (w : World MemoryState) :
    w.withTables w.stores.policies = w := rfl

/-- Put the stored grants for a service type in force. -/
def load [SizeLimit] (w : World MemoryState) (serviceType : ServiceType) :
    Except Failure Unit × World MemoryState :=
  match w.engine.replace ((w.stores.policies.grants serviceType).map Grant.toRule) with
  | .ok (_, engine) => (.ok (), { w with engine := engine })
  | .error e => (.error (.error e), w)

end World

/-! ### Refusals of the engine -/

/-- A rule with a pattern that cannot be used was refused. -/
def Failure.IsInvalidPolicy (f : Failure) : Prop := ∃ text, f = .error (.invalidPolicy text)

/-- Putting grants in force makes them the rules, or leaves the world as it is. -/
theorem World.load_ends [SizeLimit] (w : World MemoryState) (serviceType : ServiceType) :
    let rules := (w.stores.policies.grants serviceType).map Grant.toRule
    (∀ r ∈ rules, r.Usable w.engine.matcher) ∧ w.load serviceType =
        (.ok (), { w with engine := w.engine.inForce rules.eraseDups }) ∨
      ∃ f, f.IsInvalidPolicy ∧ w.load serviceType = (.error f, w) := by
  intro rules
  unfold World.load
  rcases w.engine.replace_ends rules with ⟨husable, h⟩ | ⟨-, reason, h⟩
  · exact .inl ⟨husable, by rw [h]⟩
  · exact .inr ⟨_, ⟨reason, rfl⟩, by rw [h]⟩

/-! ### The change of a call -/

namespace PolicyTables

/-- Leave the tables as they are. -/
def unchanged : Change Unit := fun _ t => .ok ((), t)

/-- A change made only where a check passes, without its answer. -/
def Change.after {α : Type} (check : Except ServiceError Unit) (change : Change α) : Change Unit :=
  fun now t => check.bind fun _ => (change now t).map fun (_, t) => ((), t)

theorem Change.after_ok (change : Change Unit) : Change.after (.ok ()) change = change := by
  funext now t
  simp only [Change.after, Except.bind]
  cases change now t <;> rfl

/-- A change that went through is one that was made. -/
theorem Change.of_after {α : Type} {check : Except ServiceError Unit} {change : Change α}
    {now : Instant} {t t' : PolicyTables} (h : Change.after check change now t = .ok ((), t')) :
    ∃ a, change now t = .ok (a, t') := by
  obtain ⟨_, -, h⟩ := of_bind_ok h
  obtain ⟨p, hchange, hanswer⟩ := of_map_ok h
  cases hanswer
  exact ⟨p.1, hchange⟩

theorem Change.check_of_after {α : Type} {check : Except ServiceError Unit} {change : Change α}
    {now : Instant} {t t' : PolicyTables}
    (h : Change.after check change now t = .ok ((), t')) : check = .ok () := by
  obtain ⟨_, hcheck, -⟩ := of_bind_ok h
  exact hcheck

end PolicyTables

/-- Change the tables, and then put grants in force where that is asked for. -/
def World.administer [SizeLimit] (w : World MemoryState) (change : PolicyTables.Change Unit)
    (loads : Option ServiceType) : Except Failure Unit × World MemoryState :=
  match change w.now w.stores.policies with
  | .error e => (.error (.error e), w)
  | .ok (_, t) =>
    match loads with
    | none => (.ok (), w.withTables t)
    | some serviceType => (w.withTables t).load serviceType

namespace AdminCall

open PolicyTables (unchanged Change.after)

/-- What a call does to the tables of policies. -/
def change : AdminCall → PolicyTables.Change Unit
  | addRole request =>
    Change.after (Request.check request)
      (PolicyTables.createRole request.entry request.permissionIds)
  | updateRole id request =>
    Change.after (Request.check request) (PolicyTables.updateRole id request.entry)
  | deleteRole id => PolicyTables.deleteRole id
  | addPermission request =>
    Change.after (Request.check request)
      (PolicyTables.createPermission request.entry request.resourceIds)
  | updatePermission id request =>
    Change.after (Request.check request) (PolicyTables.updatePermission id request.entry)
  | deletePermission id => PolicyTables.deletePermission id
  | addResource request =>
    Change.after (Request.check request) (PolicyTables.createResource request.resource)
  | updateResource id request =>
    Change.after (Request.check request) (PolicyTables.updateResource id request.resource)
  | deleteResource id => PolicyTables.deleteResource id
  | assignPermissions roleId ids =>
    if ids.isEmpty then unchanged else PolicyTables.assignPermissions roleId ids
  | removePermissions roleId ids =>
    if ids.isEmpty then unchanged else PolicyTables.removePermissions roleId ids
  | assignResources permissionId ids =>
    if ids.isEmpty then unchanged else PolicyTables.assignResources permissionId ids
  | removeResources permissionId ids =>
    if ids.isEmpty then unchanged else PolicyTables.removeResources permissionId ids
  | assignRole userId roleId => PolicyTables.assignRole userId roleId
  | revokeRole userId roleId => PolicyTables.revokeRole userId roleId
  | userPermissions _ | loadPolicy _ | reload => unchanged

/-- The service type whose grants every change puts in force. -/
def reloads (p : PolicySettings) : Option ServiceType :=
  if p.autoReload then some p.serviceType else none

/-- The service type whose grants a call puts in force, when its change is made.
-/
def loads (p : PolicySettings) : AdminCall → Option ServiceType
  | loadPolicy serviceType => some serviceType
  | reload => some p.serviceType
  | assignRole _ _ | revokeRole _ _ | userPermissions _ => none
  | assignPermissions _ ids | removePermissions _ ids | assignResources _ ids
  | removeResources _ ids => if ids.isEmpty then none else reloads p
  | _ => reloads p

section Run

variable {α : Type} (m : MemoryService) (w : World MemoryState)

theorem runOn_discard (a : Action MemoryState α) :
    (discard a).runOn w = ((a.runOn w).1.map fun _ => (), (a.runOn w).2) :=
  Action.runOn_map ..

theorem runOn_discard_unit (a : Action MemoryState Unit) : (discard a).runOn w = a.runOn w := by
  rw [runOn_discard]
  rcases a.runOn w with ⟨_ | _, _⟩ <;> rfl

variable [SizeLimit]

/-- A load takes the stored grants over as rules, or is refused and leaves the world as it is. -/
theorem runOn_counted (serviceType : ServiceType) :
    (m.app.loadPolicy serviceType).runOn w =
      match w.engine.replace ((w.stores.policies.grants serviceType).map Grant.toRule) with
      | .ok (n, engine) => (.ok n, { w with engine := engine })
      | .error e => (.error (.error e), w) := by
  have hgrants : (Action.store (m.app.stores.policies.grants serviceType)).runOn w =
      (.ok (w.stores.policies.grants serviceType), w) := Action.runOn_store ..
  unfold App.loadPolicy
  rw [Action.runOn_bind_ok hgrants, Action.runOn_bind_ok (Action.runOn_engine w),
    Action.runOn_bind, Action.runOn_check]
  cases w.engine.replace ((w.stores.policies.grants serviceType).map Grant.toRule) <;> rfl

theorem runOn_loadPolicy (serviceType : ServiceType) :
    (discard (m.app.loadPolicy serviceType)).runOn w = w.load serviceType := by
  rw [runOn_discard, runOn_counted]
  unfold World.load
  cases w.engine.replace ((w.stores.policies.grants serviceType).map Grant.toRule) <;> rfl

theorem runOn_change (change : PolicyTables.Change α) :
    (discard (m.app.change (MemoryState.policyStep change))).runOn w =
      w.administer (Change.after (.ok ()) change) (reloads m.app.policy) := by
  rw [runOn_discard]
  unfold App.change World.administer Change.after
  cases hchange : change w.now w.stores.policies with
  | error e =>
    have hstore : (Action.store (MemoryState.policyStep change)).runOn w =
        (.error (.error e), w) := by
      rw [Action.runOn_store, MemoryState.policyStep, hchange]
      rfl
    rw [Action.runOn_bind_error hstore]
    rfl
  | ok p =>
    obtain ⟨a, t⟩ := p
    have hstore : (Action.store (MemoryState.policyStep change)).runOn w =
        (.ok a, w.withTables t) := by
      rw [Action.runOn_store, MemoryState.policyStep, hchange]
      rfl
    rw [Action.runOn_bind_ok hstore]
    cases hauto : m.app.policy.autoReload with
    | false => simp [reloads, hauto, Except.bind, Except.map]
    | true =>
      have hload := runOn_loadPolicy m (w.withTables t) m.app.policy.serviceType
      rw [runOn_discard] at hload
      simp only [reloads, hauto, Except.bind, Except.map, if_true]
      rw [← hload, Action.runOn_bind]
      change _ = (((m.app.reload).runOn (w.withTables t)).1.map fun _ => (),
        ((m.app.reload).runOn (w.withTables t)).2)
      rcases (m.app.reload).runOn (w.withTables t) with ⟨_ | _, _⟩ <;> rfl

theorem runOn_checkedChange (check : Except ServiceError Unit)
    (change : PolicyTables.Change α) :
    (discard (Action.check check >>= fun _ =>
        m.app.change (MemoryState.policyStep change))).runOn w =
      w.administer (Change.after check change) (reloads m.app.policy) := by
  have hcheck := Action.runOn_check check w
  cases check with
  | error e =>
    rw [runOn_discard, Action.runOn_bind_error hcheck]
    rfl
  | ok _ =>
    rw [← runOn_change, runOn_discard, Action.runOn_bind_ok hcheck, runOn_discard]

theorem runOn_unitChange (change : PolicyTables.Change Unit) :
    (m.app.change (MemoryState.policyStep change)).runOn w =
      w.administer change (reloads m.app.policy) := by
  rw [← runOn_discard_unit, runOn_change, PolicyTables.Change.after_ok]

theorem runOn_changeLinks (ids : List Int) (change : PolicyTables.Change Unit) :
    (m.app.changeLinks ids (MemoryState.policyStep change)).runOn w =
      w.administer (if ids.isEmpty then unchanged else change)
        (if ids.isEmpty then none else reloads m.app.policy) := by
  unfold App.changeLinks
  by_cases hids : ids.isEmpty = true
  · simp only [if_pos hids]
    rfl
  · simp only [if_neg hids]
    exact runOn_unitChange m w change

theorem runOn_policyStep (change : PolicyTables.Change Unit) :
    (Action.store (MemoryState.policyStep change)).runOn w = w.administer change none := by
  rw [Action.runOn_store]
  unfold MemoryState.policyStep World.administer
  cases change w.now w.stores.policies <;> rfl

/-- What a call does: its change, and then its grants in force. -/
theorem runOn_action (call : AdminCall) :
    (call.action m.app).runOn w =
      w.administer call.change (call.loads m.app.policy) := by
  cases call with
  | addRole request =>
    exact runOn_checkedChange m w _
      (PolicyTables.createRole request.entry request.permissionIds)
  | updateRole id request =>
    exact runOn_checkedChange m w _ (PolicyTables.updateRole id request.entry)
  | deleteRole id => exact runOn_unitChange m w (PolicyTables.deleteRole id)
  | addPermission request =>
    exact runOn_checkedChange m w _
      (PolicyTables.createPermission request.entry request.resourceIds)
  | updatePermission id request =>
    exact runOn_checkedChange m w _ (PolicyTables.updatePermission id request.entry)
  | deletePermission id => exact runOn_unitChange m w (PolicyTables.deletePermission id)
  | addResource request =>
    exact runOn_checkedChange m w _ (PolicyTables.createResource request.resource)
  | updateResource id request =>
    exact runOn_checkedChange m w _ (PolicyTables.updateResource id request.resource)
  | deleteResource id => exact runOn_unitChange m w (PolicyTables.deleteResource id)
  | assignPermissions roleId ids =>
    exact runOn_changeLinks m w ids (PolicyTables.assignPermissions roleId ids)
  | removePermissions roleId ids =>
    exact runOn_changeLinks m w ids (PolicyTables.removePermissions roleId ids)
  | assignResources permissionId ids =>
    exact runOn_changeLinks m w ids (PolicyTables.assignResources permissionId ids)
  | removeResources permissionId ids =>
    exact runOn_changeLinks m w ids (PolicyTables.removeResources permissionId ids)
  | assignRole userId roleId =>
    exact runOn_policyStep w (PolicyTables.assignRole userId roleId)
  | revokeRole userId roleId =>
    exact runOn_policyStep w (PolicyTables.revokeRole userId roleId)
  | userPermissions userId =>
    have hroles : (Action.store (m.app.stores.policies.rolesOf userId)).runOn w =
        (.ok (w.stores.policies.rolesOf userId), w) := Action.runOn_store ..
    rw [action, runOn_discard]
    unfold App.userPermissions
    rw [Action.runOn_bind_ok hroles, Action.runOn_bind_ok (Action.runOn_engine w)]
    dsimp only
    split <;> rw [Action.runOn_store] <;> rfl
  | loadPolicy serviceType => exact runOn_loadPolicy m w serviceType
  | reload => exact runOn_loadPolicy m w m.app.policy.serviceType

variable {m w} {call : AdminCall} {t : PolicyTables}

theorem runOn_of_refused {e : ServiceError}
    (h : call.change w.now w.stores.policies = .error e) :
    (call.action m.app).runOn w = (.error (.error e), w) := by
  rw [runOn_action]
  unfold World.administer
  rw [h]

/-- The tables after a change that went through are those that it made, whatever comes of the
grants. -/
theorem policies_of_change (h : call.change w.now w.stores.policies = .ok ((), t)) :
    ((call.action m.app).runOn w).2.stores.policies = t := by
  rw [runOn_action]
  unfold World.administer
  rw [h]
  cases call.loads m.app.policy with
  | none => rfl
  | some serviceType =>
    rcases (w.withTables t).load_ends serviceType with ⟨-, hload⟩ | ⟨f, -, hload⟩
    · exact congrArg (fun r => r.2.stores.policies) hload
    · exact congrArg (fun r => r.2.stores.policies) hload

/-- An assignment answers that it went through where it did. -/
theorem runOn_assignRole_of_change {userId roleId : Int}
    (h : (assignRole userId roleId).change w.now w.stores.policies = .ok ((), t)) :
    ((assignRole userId roleId).action m.app).runOn w = (.ok (), w.withTables t) := by
  rw [runOn_action]
  unfold World.administer
  rw [h]
  rfl

end Run

/-! ### How a call ends -/

/-- How a call of the administration ends. -/
inductive Ends [SizeLimit] (m : MemoryService) (w : World MemoryState) (call : AdminCall) :
    Except Failure Unit → World MemoryState → Prop
  /-- The request or the tables do not allow the change. -/
  | refused {f : Failure} (hf : ¬ f.IsInvalidPolicy) : Ends m w call (.error f) w
  /-- The change was made, and the rules are no concern of the call. -/
  | changed {t : PolicyTables} (hchange : call.change w.now w.stores.policies = .ok ((), t))
      (hloads : call.loads m.app.policy = none) : Ends m w call (.ok ()) (w.withTables t)
  /-- The change was made, and the stored grants are in force. -/
  | loaded {t : PolicyTables} {serviceType : ServiceType}
      (hchange : call.change w.now w.stores.policies = .ok ((), t))
      (hloads : call.loads m.app.policy = some serviceType)
      (husable : ∀ r ∈ (t.grants serviceType).map Grant.toRule, r.Usable w.engine.matcher) :
      Ends m w call (.ok ()) { w.withTables t with
        engine := w.engine.inForce ((t.grants serviceType).map Grant.toRule).eraseDups }
  /-- The change was made, but the stored grants cannot be put in force. -/
  | stale {t : PolicyTables} {serviceType : ServiceType} {f : Failure}
      (hchange : call.change w.now w.stores.policies = .ok ((), t))
      (hloads : call.loads m.app.policy = some serviceType) (hf : f.IsInvalidPolicy) :
      Ends m w call (.error f) (w.withTables t)

end AdminCall

namespace PolicyTables

/-- What comes of it is no complaint about a pattern. -/
def Plain {α : Type} (r : Except ServiceError α) : Prop :=
  ∀ text, r ≠ .error (.invalidPolicy text)

namespace Plain

variable {α β : Type}

theorem ok (a : α) : Plain (.ok a) := fun _ h => nomatch h

theorem bind {r : Except ServiceError α} {f : α → Except ServiceError β} (hr : Plain r)
    (hf : ∀ a, Plain (f a)) : Plain (r >>= f) := by
  cases r with
  | ok a => exact hf a
  | error e =>
    intro text h
    exact hr text (congrArg _ (Except.error.inj h))

theorem requireRole (t : PolicyTables) (id : Int) : Plain (t.requireRole id) := by
  unfold PolicyTables.requireRole
  split
  · exact ok ()
  · exact fun _ h => nomatch h

theorem requirePermission (t : PolicyTables) (id : Int) : Plain (t.requirePermission id) := by
  unfold PolicyTables.requirePermission
  split
  · exact ok ()
  · exact fun _ h => nomatch h

theorem requireAll (kind : String) (isThere : Int → Bool) (ids : List Int) :
    Plain (PolicyTables.requireAll kind isThere ids) := by
  unfold PolicyTables.requireAll
  split
  · exact fun _ h => nomatch h
  · exact ok ()

theorem check {α : Type} [Request α] (a : α) : Plain (Request.check a) := by
  unfold Request.check FieldRule.checkAll
  split
  · exact ok ()
  · exact fun _ h => nomatch h

theorem after {check : Except ServiceError Unit} {change : Change α} {now : Instant}
    {t : PolicyTables} (hcheck : Plain check) (hchange : Plain (change now t)) :
    Plain (Change.after check change now t) := by
  refine bind hcheck fun _ => ?_
  cases h : change now t with
  | ok a => exact ok _
  | error e =>
    intro text herror
    exact hchange text (h.trans (congrArg _ (Except.error.inj herror)))

end Plain

end PolicyTables

namespace AdminCall

open PolicyTables (Plain)

/-- The tables never complain about a pattern. -/
theorem plain_change (call : AdminCall) (now : Instant) (t : PolicyTables) :
    Plain (call.change now t) := by
  cases call with
  | addRole request =>
    refine .after (.check request) ?_
    unfold PolicyTables.createRole
    dsimp only
    split
    · exact fun _ h => nomatch h
    · exact .bind (.requireAll _ _ _) fun _ => .ok _
  | updateRole id request =>
    refine .after (.check request) ?_
    unfold PolicyTables.updateRole
    split
    · exact fun _ h => nomatch h
    · exact .ok _
  | deleteRole id => exact .bind (.requireRole _ _) fun _ => .ok _
  | addPermission request =>
    exact .after (.check request) (.bind (.requireAll _ _ _) fun _ => .ok _)
  | updatePermission id request =>
    refine .after (.check request) ?_
    unfold PolicyTables.updatePermission
    split
    · exact fun _ h => nomatch h
    · exact .ok _
  | deletePermission id => exact .bind (.requirePermission _ _) fun _ => .ok _
  | addResource request => exact .after (.check request) (.ok _)
  | updateResource id request =>
    refine .after (.check request) ?_
    unfold PolicyTables.updateResource
    split
    · exact fun _ h => nomatch h
    · exact .ok _
  | deleteResource id =>
    rw [change]
    unfold PolicyTables.deleteResource
    split
    · exact .ok _
    · exact fun _ h => nomatch h
  | assignPermissions roleId ids =>
    rw [change]
    split
    · exact .ok _
    · exact .bind (.requireRole _ _) fun _ => .bind (.requireAll _ _ _) fun _ => .ok _
  | removePermissions roleId ids =>
    rw [change]
    split
    · exact .ok _
    · exact .bind (.requireRole _ _) fun _ => .ok _
  | assignResources permissionId ids =>
    rw [change]
    split
    · exact .ok _
    · exact .bind (.requirePermission _ _) fun _ => .bind (.requireAll _ _ _) fun _ => .ok _
  | removeResources permissionId ids =>
    rw [change]
    split
    · exact .ok _
    · exact .bind (.requirePermission _ _) fun _ => .ok _
  | assignRole userId roleId => exact .bind (.requireRole _ _) fun _ => .ok _
  | revokeRole userId roleId => exact .ok _
  | userPermissions userId => exact .ok _
  | loadPolicy serviceType => exact .ok _
  | reload => exact .ok _

/-- Every call ends in one of the four ways. -/
theorem action_ends [SizeLimit] (m : MemoryService) (w : World MemoryState) (call : AdminCall) :
    Ends m w call ((call.action m.app).runOn w).1 ((call.action m.app).runOn w).2 := by
  rw [runOn_action]
  unfold World.administer
  cases hchange : call.change w.now w.stores.policies with
  | error e =>
    refine .refused fun ⟨text, htext⟩ => ?_
    obtain rfl := Failure.error.inj htext
    exact plain_change call w.now w.stores.policies text hchange
  | ok p =>
    obtain ⟨_, t⟩ := p
    cases hloads : call.loads m.app.policy with
    | none => exact .changed hchange hloads
    | some serviceType =>
      dsimp only
      rcases (w.withTables t).load_ends serviceType with ⟨husable, h⟩ | ⟨f, hf, h⟩
      · rw [h]
        exact .loaded hchange hloads husable
      · rw [h]
        exact .stale hchange hloads hf

end AdminCall

/-! ### Runs of the administration -/

/-- One call of a run: what came of it, and the world it left. -/
structure AdminEntry where
  call : AdminCall
  answer : Except Failure Unit
  world : World MemoryState

/-- The calls of a run, each made at a moment of its own. -/
def MemoryService.administer [SizeLimit] (m : MemoryService) (w : World MemoryState) :
    List (Instant × AdminCall) → List AdminEntry
  | [] => []
  | (now, call) :: rest =>
    let (answer, v) := (call.action m.app).runOn { w with now := now }
    ⟨call, answer, v⟩ :: m.administer v rest

/-! ### Calls that fail -/

/-- A call that fails changes no rules. It changes nothing else either, unless
the stored grants could not be put in force: then its change of the tables stays.
-/
theorem failed_call [SizeLimit] (m : MemoryService) (w : World MemoryState) (call : AdminCall)
    (f : Failure) (h : ((call.action m.app).runOn w).1 = .error f) :
    let v := ((call.action m.app).runOn w).2
    v.engine = w.engine ∧ (¬ f.IsInvalidPolicy → v = w) ∧
      (f.IsInvalidPolicy → (call.loads m.app.policy).isSome = true ∧
        ∃ t, call.change w.now w.stores.policies = .ok ((), t) ∧ v = w.withTables t) := by
  have hends := AdminCall.action_ends m w call
  rw [h] at hends
  generalize ((call.action m.app).runOn w).2 = v at hends
  cases hends with
  | refused hf => exact ⟨rfl, fun _ => rfl, fun hinvalid => absurd hinvalid hf⟩
  | stale hchange hloads hf =>
    refine ⟨rfl, fun hplain => absurd hf hplain, fun _ => ⟨?_, _, hchange, rfl⟩⟩
    rw [hloads]
    rfl

namespace Sample

/-- Calls made one after the other at the same moment. -/
def atOnce (calls : List AdminCall) : List (Instant × AdminCall) :=
  calls.map fun call => (.ofSeconds 0, call)

/-- A world with nothing stored and no rules. -/
def blank : World MemoryState := { world with stores := {} }

/-- A role, and a permission for a resource whose method is no expression. -/
def unusable : World MemoryState :=
  { blank with stores := { policies := {
      lastId := 3
      roles := ⟨[(1, ⟨1, "member", "", .ofSeconds 0, .ofSeconds 0⟩)]⟩
      permissions := ⟨[(3, ⟨3, "read", "", .ofSeconds 0, .ofSeconds 0⟩)]⟩
      resources := ⟨[(2, ⟨2, "", "", "http", "(GET", "/x", .ofSeconds 0, .ofSeconds 0⟩)]⟩
      permissionResources := [(3, 2)] } } }

theorem failed_grant :
    let answered := ((AdminCall.assignPermissions 1 [3]).action service.app).runOn unusable
    answered.1.isOk = false ∧ answered.2.engine = unusable.engine := by
  intro answered
  have hfails : answered.1.isOk = false := by decide +kernel
  obtain ⟨f, hf⟩ : ∃ f, answered.1 = .error f := by
    cases h : answered.1 with
    | error f => exact ⟨f, rfl⟩
    | ok _ =>
      rw [h] at hfails
      cases hfails
  exact ⟨hfails, (failed_call service unusable _ f hf).1⟩

/-- From nothing a failed grant can be reached that stays in the tables. -/
theorem failed_grant_stays :
    (service.administer blank (atOnce [
        .addRole ⟨"member", "", []⟩, .addResource ⟨"", "", .http, "(GET", "/x"⟩,
        .addPermission ⟨"read", "", [2]⟩, .assignPermissions 1 [3]])).map
      (fun e => (e.answer.isOk, e.world.stores.policies.rolePermissions)) =
    [(true, []), (true, []), (true, []), (false, [(1, 3)])] := by
  decide +kernel

end Sample

end Turnstile
