import Turnstile.Proofs.Policy.Operation
import Turnstile.Proofs.Sql.Transaction
import Turnstile.Sql.Script

/-!
The operations of the store in a database that are transactions. Each of their statements is known by
its words, and from its statements each of them is put together.
-/

namespace Turnstile

variable {σ α β : Type} {wire : SqlWire σ}

/-! ### Statements in the middle of a transaction -/

namespace SqlCall.Records

theorem of_readOr {onError : DatabaseError → ServiceError} {r : Except DatabaseError α}
    (h : ∀ e, r = .error e → ∃ cause, onError e = .database cause) :
    Records (SqlWire.readOr onError r : SqlCall σ α) (SqlWire.readOr onError r) (Middle none) := by
  cases r with
  | ok a => exact .of_pure a (.done a)
  | error e =>
    obtain ⟨cause, hcause⟩ := h e rfl
    exact .of_throw _ (hcause ▸ .internal cause)

theorem of_ask {onError : DatabaseError → ServiceError} {text : String} {params : List SqlValue}
    (honError : (Statement.query text params).refusal = onError)
    (hlock : StatementKind.ofText text ≠ .lock) :
    Records (wire.ask onError text params) (wire.recorded.ask onError text params)
      (Middle none) := by
  subst honError
  exact .of_sendOr (Middle.sent (StatementKind.ofText_ne_control text) hlock)

variable {text entity : String} {params : List SqlValue}

theorem of_insert (table : String) (hkind : StatementKind.ofText text = .insert table)
    (hname : rowName table = entity) :
    Records (wire.execute (SqlWire.writeError entity) text params)
      (wire.recorded.execute (SqlWire.writeError entity) text params) (Middle none) := by
  subst hname
  refine (of_ask (Statement.refusal_of_insert hkind) ?_).andThen fun _ => .of_pure () (.done ())
  simp [hkind]

theorem of_insertFirst {read : Row → Option α} (table : String)
    (hkind : StatementKind.ofText text = .insert table) (hname : rowName table = entity) :
    Records (wire.writeFirst (SqlWire.writeError entity) read text params)
      (wire.recorded.writeFirst (SqlWire.writeError entity) read text params) (Middle none) := by
  subst hname
  refine (of_ask (Statement.refusal_of_insert hkind) (by simp [hkind])).andThen fun reply => ?_
  refine of_readOr fun e he => ⟨e, ?_⟩
  rcases SqlReply.of_first_error he with rfl | rfl <;> rfl

theorem of_delete (hkind : StatementKind.ofText text = .delete) :
    Records (wire.execute .database text params) (wire.recorded.execute .database text params)
      (Middle none) := by
  have hrefusal : (Statement.query text params).refusal = .database :=
    Statement.refusal_of_not_insert fun table => by simp [Statement.kind, hkind]
  exact (of_ask hrefusal (by simp [hkind])).andThen fun _ => .of_pure () (.done ())

theorem of_lockRow {column : String} {id : Int} (hkind : StatementKind.ofText text = .lock) :
    Records (wire.lockRow entity column text id) (wire.recorded.lockRow entity column text id)
      (Middle (some entity)) := by
  let lock : Statement := .query text [.int id]
  have hlock : lock.kind = .lock := hkind
  have hinside : lock.kind ≠ .control := by simp [hlock]
  have hrefusal : lock.refusal = .database :=
    Statement.refusal_of_not_insert fun table => by simp [hlock]
  have hread {reply : SqlReply} {answer : Except ServiceError Unit}
      (h : Guarded entity answer [⟨lock, .ok reply⟩]) :
      Middle (some entity) answer [⟨lock, .ok reply⟩] := ⟨.single hinside nofun, h⟩
  have hthere {reply : SqlReply} (h : reply.rows ≠ []) :
      ¬ Exchange.Missed ⟨lock, .ok reply⟩ := by
    rintro ⟨_, hreply, hrows⟩
    cases hreply
    exact h hrows
  simp only [SqlWire.lockRow, SqlWire.findFirst, SqlWire.ask, bind_assoc]
  refine .of_send (fun cause => ⟨.single hinside ?_, .unread hlock ?_⟩) fun reply => ?_
  · rintro e he
    cases he
    rw [hrefusal]
  · rintro ⟨reply, hreply, -⟩
    cases hreply
  · cases hfirst : reply.first? (Row.int? · column) with
    | error e =>
      obtain ⟨hrows, rfl⟩ := SqlReply.of_first?_error hfirst
      exact .of_throw _ (hread (.unread hlock (hthere hrows)))
    | ok found =>
      cases found with
      | none =>
        have hmissed : Exchange.Missed ⟨lock, .ok reply⟩ :=
          ⟨_, rfl, SqlReply.of_first?_none hfirst⟩
        exact .of_throw _ (hread (.missing hlock hmissed))
      | some n =>
        have hfound : Exchange.Found ⟨lock, .ok reply⟩ := ⟨_, rfl, SqlReply.of_first?_some hfirst⟩
        exact .of_pure () (hread (.found hlock hfound (List.forall_mem_nil _) nofun))

end SqlCall.Records

/-! ### The operations that are transactions -/

namespace SqlWire

variable (wire : SqlWire σ)

open SqlCall (Records)

theorem records_linkPermissions (roleId : Int) (ids : List Int) :
    Records (wire.linkPermissions roleId ids) (wire.recorded.linkPermissions roleId ids)
      (Middle none) :=
  .of_insert "role_permissions" (by decide +kernel) rfl

theorem records_linkResources (permissionId : Int) (ids : List Int) :
    Records (wire.linkResources permissionId ids) (wire.recorded.linkResources permissionId ids)
      (Middle none) :=
  .of_insert "permission_resources" (by decide +kernel) rfl

theorem records_lockRole (id : Int) :
    Records (wire.lockRole id) (wire.recorded.lockRole id) (Middle (some "Role")) :=
  .of_lockRow (by rfl)

theorem records_lockPermission (id : Int) :
    Records (wire.lockPermission id) (wire.recorded.lockPermission id)
      (Middle (some "Permission")) :=
  .of_lockRow (by rfl)

theorem records_createRole (entry : NamedEntry) (ids : List Int) :
    Records (wire.createRole entry ids) (wire.recorded.createRole entry ids)
      (Transacted (Middle none)) := by
  refine .of_transaction (.andThen (.of_insertFirst "roles" (by rfl) rfl) fun role => ?_)
  cases ids.isEmpty with
  | true => exact .of_pure role (.done role)
  | false => exact (wire.records_linkPermissions role.id ids).andThen fun _ => .of_pure role (.done role)

theorem records_createPermission (entry : NamedEntry) (ids : List Int) :
    Records (wire.createPermission entry ids) (wire.recorded.createPermission entry ids)
      (Transacted (Middle none)) := by
  refine .of_transaction
    (.andThen (.of_insertFirst "permissions" (by rfl) rfl) fun permission => ?_)
  cases ids.isEmpty with
  | true => exact .of_pure permission (.done permission)
  | false =>
    exact (wire.records_linkResources permission.id ids).andThen fun _ =>
      .of_pure permission (.done permission)

theorem records_assignPermissions (roleId : Int) (ids : List Int) :
    Records (wire.assignPermissions roleId ids) (wire.recorded.assignPermissions roleId ids)
      (Transacted (Middle (some "Role"))) :=
  .of_transaction ((wire.records_lockRole roleId).andThen fun _ => wire.records_linkPermissions roleId ids)

theorem records_removePermissions (roleId : Int) (ids : List Int) :
    Records (wire.removePermissions roleId ids) (wire.recorded.removePermissions roleId ids)
      (Transacted (Middle (some "Role"))) :=
  .of_transaction ((wire.records_lockRole roleId).andThen fun _ => .of_delete (by rfl))

theorem records_assignResources (permissionId : Int) (ids : List Int) :
    Records (wire.assignResources permissionId ids) (wire.recorded.assignResources permissionId ids)
      (Transacted (Middle (some "Permission"))) :=
  .of_transaction
    ((wire.records_lockPermission permissionId).andThen fun _ => wire.records_linkResources permissionId ids)

theorem records_removeResources (permissionId : Int) (ids : List Int) :
    Records (wire.removeResources permissionId ids) (wire.recorded.removeResources permissionId ids)
      (Transacted (Middle (some "Permission"))) :=
  .of_transaction
    ((wire.records_lockPermission permissionId).andThen fun _ => .of_delete (by rfl))

end SqlWire

namespace PolicyOperation

/-- The operations that are transactions. -/
def transacts : PolicyOperation → Bool
  | createRole .. | createPermission .. | assignPermissions .. | removePermissions ..
  | assignResources .. | removeResources .. => true
  | _ => false

/-- What the row is called that has to be there, if there is one. -/
def parent? : PolicyOperation → Option String
  | assignPermissions .. | removePermissions .. => some "Role"
  | assignResources .. | removeResources .. => some "Permission"
  | _ => none

/-- A step on the wire and on the recorded one come to the same, and the laws hold of what was
recorded. -/
def Lawful (wire : SqlWire σ) (op : PolicyOperation) : Prop :=
  ∀ now s, ∃ answer s' log,
    op.step wire.policyStore now s = (answer.mapError .error, s') ∧
    op.step wire.recorded.policyStore now (s, []) = (answer.mapError .error, s', log) ∧
    TransactionLaws op.parent? answer log

theorem lawful_of_records {op : PolicyOperation} {call : SqlCall σ α}
    {recorded : SqlCall (σ × List Exchange) α} {f : α → Option Int}
    (h : SqlCall.Records call recorded (Transacted (Middle op.parent?)))
    (hstep : op.step wire.policyStore = (SqlCall.step call).map f)
    (hrecorded : op.step wire.recorded.policyStore = (SqlCall.step recorded).map f) :
    op.Lawful wire := by
  intro now s
  obtain ⟨answer, s', log, hcall, hrecord, hlog⟩ := h s []
  have hends {τ : Type} {call : SqlCall τ α} {s s' : τ} (h : call.runOn s = (answer, s')) :
      (SqlCall.step call).map f now s = ((answer.map f).mapError .error, s') := by
    unfold StoreStep.map SqlCall.step
    rw [show (ExceptT.run call).run s = (answer, s') from h]
    cases answer <;> rfl
  exact ⟨answer.map f, s', log, hstep ▸ hends hcall, hrecorded ▸ hends hrecord, hlog.laws.map f⟩

/-- Whatever a database replies to the operations that are transactions, what goes over the wire is
begun before anything is written, is committed only if all of it went through, and comes to nothing
otherwise. -/
theorem transaction_laws (wire : SqlWire σ) {op : PolicyOperation} (hop : op.transacts = true)
    (now : Instant) (s : σ) :
    ∃ answer s' log, op.step wire.policyStore now s = (answer.mapError .error, s') ∧
      op.step wire.recorded.policyStore now (s, []) = (answer.mapError .error, s', log) ∧
      TransactionLaws op.parent? answer log := by
  have hlawful : op.Lawful wire := by
    cases op with
    | createRole entry ids =>
      exact lawful_of_records (wire.records_createRole entry ids) rfl rfl
    | createPermission entry ids =>
      exact lawful_of_records (wire.records_createPermission entry ids) rfl rfl
    | assignPermissions roleId ids =>
      exact lawful_of_records (wire.records_assignPermissions roleId ids) rfl rfl
    | removePermissions roleId ids =>
      exact lawful_of_records (wire.records_removePermissions roleId ids) rfl rfl
    | assignResources permissionId ids =>
      exact lawful_of_records (wire.records_assignResources permissionId ids) rfl rfl
    | removeResources permissionId ids =>
      exact lawful_of_records (wire.records_removeResources permissionId ids) rfl rfl
    | _ => cases hop
  exact hlawful now s

end PolicyOperation

namespace Sample

/-- The role is there, and one of the permissions that it is to have is not. -/
def danglingLinks : SqlScript where
  replies := [.ok ⟨[[("role_id", .int 1)]], 0⟩, .error (.reported "23503" "no such permission")]

theorem dangling_links_undone :
    let ended := (PolicyOperation.assignPermissions 1 [2, 3]).step
      SqlScript.wire.recorded.policyStore (.ofSeconds 0) (danglingLinks, [])
    let answer : Except ServiceError (Option Int) :=
      .error (.invalidReference "Role permission references a record that does not exist")
    ended.1 = answer.mapError .error ∧ TransactionLaws (some "Role") answer ended.2.2 ∧
      ended.2.2.map (·.statement.kind) = [.control, .lock, .insert "role_permissions", .control] := by
  intro ended answer
  have hended : ended.1 = answer.mapError .error := by decide +kernel
  obtain ⟨answer', s', log, -, hrecorded, hlaws⟩ :=
    PolicyOperation.transaction_laws SqlScript.wire
      (show (PolicyOperation.assignPermissions 1 [2, 3]).transacts = true from rfl) (.ofSeconds 0)
      danglingLinks
  have hanswer : answer' = answer := by
    have hsame : answer'.mapError Failure.error = answer.mapError .error :=
      (congrArg Prod.fst hrecorded).symm.trans hended
    cases answer' <;> cases hsame
    rfl
  have hlog : log = ended.2.2 := (congrArg (·.2.2) hrecorded).symm
  subst hanswer hlog
  exact ⟨hended, hlaws, by decide +kernel⟩

end Sample

end Turnstile
