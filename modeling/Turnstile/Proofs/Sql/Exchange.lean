import Mathlib.Tactic.SplitIfs
import Turnstile.Proofs.Action
import Turnstile.Sql.Policies

/-!
What goes over the wire to a database while a call runs. The wire is any wire, and any of its replies
may be an error. `Records` says what a call answers and what was sent for it, with one rule for each
way in which calls are put together.
-/

namespace Turnstile

/-! ### Statements by what they do -/

/-- What a statement does, by the words in it. -/
inductive StatementKind where
  /-- It starts or ends a transaction. -/
  | control
  | insert (table : String)
  | update
  | delete
  /-- It reads a row and locks it. -/
  | lock
  | other
  deriving DecidableEq

namespace StatementKind

def ofText (text : String) : StatementKind :=
  let letters := text.toList
  if "INSERT INTO ".toList.isPrefixOf letters then
    .insert (String.ofList ((letters.drop 12).takeWhile (· ≠ ' ')))
  else if "UPDATE ".toList.isPrefixOf letters then .update
  else if "DELETE ".toList.isPrefixOf letters then .delete
  else if "FOR UPDATE".toList.isSuffixOf letters then .lock
  else .other

def writes : StatementKind → Bool
  | insert _ | update | delete => true
  | _ => false

theorem ofText_ne_control (text : String) : ofText text ≠ control := by
  unfold ofText
  dsimp only
  split_ifs <;> nofun

end StatementKind

/-- What the rows of a table are called in messages. -/
def rowName : String → String
  | "roles" => "Role"
  | "permissions" => "Permission"
  | "role_permissions" => "Role permission"
  | "permission_resources" => "Permission resource"
  | table => table

/-- The constraint that a statement broke, as it is put in messages. -/
def DatabaseError.breach? : DatabaseError → Option String
  | .reported code _ =>
    if code = "23505" then some "already exists"
    else if code = "23503" then some "references a record that does not exist"
    else none
  | _ => none

namespace Statement

def kind : Statement → StatementKind
  | .query text _ => .ofText text
  | _ => .control

@[simp] theorem kind_start : start.kind = .control := rfl

@[simp] theorem kind_commit : commit.kind = .control := rfl

@[simp] theorem kind_rollback : rollback.kind = .control := rfl

/-- What an error in reply to a statement is turned into. -/
def refusal (s : Statement) (e : DatabaseError) : ServiceError :=
  match s.kind, e.breach? with
  | .insert table, some breach => .invalidReference (rowName table ++ " " ++ breach)
  | _, _ => .database e

theorem refusal_of_insert {s : Statement} {table : String} (h : s.kind = .insert table) :
    s.refusal = SqlWire.writeError (rowName table) := by
  funext e
  unfold refusal SqlWire.writeError DatabaseError.breach?
  rw [h]
  cases e with
  | noRow | badColumn => rfl
  | reported code message =>
    by_cases hduplicate : code = "23505"
    · simp [hduplicate, SqlWire.duplicateCode, String.append_assoc]
    · by_cases hdangling : code = "23503" <;>
        simp [hduplicate, hdangling, SqlWire.duplicateCode, SqlWire.danglingCode,
          String.append_assoc]

theorem refusal_of_not_insert {s : Statement} (h : ∀ table, s.kind ≠ .insert table) :
    s.refusal = .database := by
  funext e
  unfold refusal
  split
  · exact absurd ‹_› (h _)
  · rfl

end Statement

namespace SqlReply

variable {α : Type} {read : Row → Option α} {reply : SqlReply} {e : DatabaseError}

theorem of_first?_error (h : reply.first? read = .error e) : reply.rows ≠ [] ∧ e = .badColumn := by
  unfold first? at h
  split at h
  · cases h
  · split at h <;> cases h
    rename_i hrows _ _
    exact ⟨by simp [hrows], rfl⟩

theorem of_first?_none (h : reply.first? read = .ok none) : reply.rows = [] := by
  unfold first? at h
  split at h
  · assumption
  · split at h <;> cases h

theorem of_first?_some {a : α} (h : reply.first? read = .ok (some a)) : reply.rows ≠ [] := by
  intro hrows
  simp [first?, hrows] at h

theorem of_first_error (h : reply.first read = .error e) : e = .noRow ∨ e = .badColumn := by
  unfold first at h
  split at h
  · cases h
  · cases h
    exact .inl rfl
  · cases h
    exact .inr (of_first?_error ‹_›).2

end SqlReply

/-! ### What goes over a wire -/

/-- A statement and the reply to it. -/
structure Exchange where
  statement : Statement
  reply : Except DatabaseError SqlReply

namespace Exchange

def succeeded (x : Exchange) : Bool := x.reply.isOk

/-- The statement went through, and there are rows in the reply. -/
def Found (x : Exchange) : Prop := ∃ reply, x.reply = .ok reply ∧ reply.rows ≠ []

/-- The statement went through, and there are no rows in the reply. -/
def Missed (x : Exchange) : Prop := ∃ reply, x.reply = .ok reply ∧ reply.rows = []

end Exchange

variable {σ α β : Type} {wire : SqlWire σ}

/-- The same wire with a record of what went over it. -/
def SqlWire.recorded (wire : SqlWire σ) : SqlWire (σ × List Exchange) where
  send statement s :=
    ((wire.send statement s.1).1, (wire.send statement s.1).2,
      s.2 ++ [⟨statement, (wire.send statement s.1).1⟩])

namespace SqlCall

/-- What a call answers, and the state of the wire afterwards. -/
def runOn (call : SqlCall σ α) (s : σ) : Except ServiceError α × σ := (ExceptT.run call).run s

@[simp] theorem runOn_pure (a : α) (s : σ) : (pure a : SqlCall σ α).runOn s = (.ok a, s) := rfl

@[simp] theorem runOn_throw (e : ServiceError) (s : σ) :
    (throw e : SqlCall σ α).runOn s = (.error e, s) := rfl

theorem runOn_bind_ok {call : SqlCall σ α} {s s' : σ} {a : α} (h : call.runOn s = (.ok a, s'))
    (f : α → SqlCall σ β) : (call >>= f).runOn s = (f a).runOn s' := by
  change ExceptT.bindCont f (call.runOn s).1 (call.runOn s).2 = _
  rw [h]
  rfl

theorem runOn_bind_error {call : SqlCall σ α} {s s' : σ} {e : ServiceError}
    (h : call.runOn s = (.error e, s')) (f : α → SqlCall σ β) :
    (call >>= f).runOn s = (.error e, s') := by
  change ExceptT.bindCont f (call.runOn s).1 (call.runOn s).2 = _
  rw [h]
  rfl

theorem runOn_tryCatch_ok {call : SqlCall σ α} {s s' : σ} {a : α}
    (h : call.runOn s = (.ok a, s')) (handler : ServiceError → SqlCall σ α) :
    (tryCatch call handler).runOn s = (.ok a, s') := by
  have hcall : call s = (.ok a, s') := h
  change runOn (ExceptT.tryCatch call handler) s = _
  simp only [runOn, ExceptT.run, ExceptT.tryCatch, ExceptT.mk, StateT.run, bind, StateT.bind, hcall]
  rfl

theorem runOn_tryCatch_error {call : SqlCall σ α} {s s' : σ} {e : ServiceError}
    (h : call.runOn s = (.error e, s')) (handler : ServiceError → SqlCall σ α) :
    (tryCatch call handler).runOn s = (handler e).runOn s' := by
  have hcall : call s = (.error e, s') := h
  change runOn (ExceptT.tryCatch call handler) s = _
  simp only [runOn, ExceptT.run, ExceptT.tryCatch, ExceptT.mk, StateT.run, bind, StateT.bind, hcall]

theorem runOn_sendOr (onError : DatabaseError → ServiceError) (statement : Statement) (s : σ) :
    (wire.sendOr onError statement).runOn s =
      ((wire.send statement s).1.mapError onError, (wire.send statement s).2) := by
  refine (runOn_bind_ok rfl _).trans ((runOn_bind_ok rfl _).trans ?_)
  cases (wire.send statement s).1 <;> rfl

theorem runOn_rollBack (e : ServiceError) (s : σ) :
    (wire.rollBack e : SqlCall σ α).runOn s = (.error e, (wire.send .rollback s).2) := rfl

/-- On the recorded wire a call does what it does on the wire itself, and `R` holds of its answer
and of what it adds to the record. -/
def Records (call : SqlCall σ α) (recorded : SqlCall (σ × List Exchange) α)
    (R : Except ServiceError α → List Exchange → Prop) : Prop :=
  ∀ s log, ∃ answer s' steps, call.runOn s = (answer, s') ∧
    recorded.runOn (s, log) = (answer, s', log ++ steps) ∧ R answer steps

namespace Records

variable {call : SqlCall σ α} {recorded : SqlCall (σ × List Exchange) α}
  {R : Except ServiceError α → List Exchange → Prop}

theorem of_pure (a : α) (h : R (.ok a) []) :
    Records (pure a : SqlCall σ α) (pure a) R :=
  fun s _ => ⟨.ok a, s, [], rfl, by simp, h⟩

theorem of_throw (e : ServiceError) (h : R (.error e) []) :
    Records (throw e : SqlCall σ α) (throw e) R :=
  fun s _ => ⟨.error e, s, [], rfl, by simp, h⟩

theorem of_sendOr {onError : DatabaseError → ServiceError} {statement : Statement}
    {R : Except ServiceError SqlReply → List Exchange → Prop}
    (h : ∀ reply, R (reply.mapError onError) [⟨statement, reply⟩]) :
    Records (wire.sendOr onError statement) (wire.recorded.sendOr onError statement) R :=
  fun _ _ => ⟨_, _, _, runOn_sendOr .., runOn_sendOr .., h _⟩

/-- A call after another one adds to its record. -/
theorem of_bind {f : α → SqlCall σ β} {f' : α → SqlCall (σ × List Exchange) β}
    {S : α → Except ServiceError β → List Exchange → Prop}
    {T : Except ServiceError β → List Exchange → Prop} (h : Records call recorded R)
    (hf : ∀ a, Records (f a) (f' a) (S a))
    (herror : ∀ e steps, R (.error e) steps → T (.error e) steps)
    (hok : ∀ a first answer rest, R (.ok a) first → S a answer rest → T answer (first ++ rest)) :
    Records (call >>= f) (recorded >>= f') T := by
  intro s log
  obtain ⟨answer, s', first, hcall, hrecorded, hfirst⟩ := h s log
  cases answer with
  | error e =>
    exact ⟨_, _, first, runOn_bind_error hcall f, runOn_bind_error hrecorded f',
      herror e first hfirst⟩
  | ok a =>
    obtain ⟨answer, s'', rest, hf, hf', hrest⟩ := hf a s' (log ++ first)
    refine ⟨answer, s'', first ++ rest, (runOn_bind_ok hcall f).trans hf, ?_,
      hok a first answer rest hfirst hrest⟩
    rw [← List.append_assoc]
    exact (runOn_bind_ok hrecorded f').trans hf'

/-- A statement, and what follows if it goes through. -/
theorem of_send {onError : DatabaseError → ServiceError} {statement : Statement}
    {f : SqlReply → SqlCall σ β} {f' : SqlReply → SqlCall (σ × List Exchange) β}
    {T : Except ServiceError β → List Exchange → Prop}
    (herror : ∀ e, T (.error (onError e)) [⟨statement, .error e⟩])
    (hf : ∀ reply, Records (f reply) (f' reply)
      fun answer rest => T answer (⟨statement, .ok reply⟩ :: rest)) :
    Records (wire.sendOr onError statement >>= f) (wire.recorded.sendOr onError statement >>= f')
      T := by
  refine of_bind (R := fun answer steps => ∃ reply : Except DatabaseError SqlReply,
      answer = reply.mapError onError ∧ steps = [⟨statement, reply⟩])
    (of_sendOr fun reply => ⟨reply, rfl, rfl⟩) hf ?_ ?_
  · rintro e steps ⟨cause | _, hreply, rfl⟩ <;> cases hreply
    exact herror cause
  · rintro reply steps answer rest ⟨_ | _, hreply, rfl⟩ hrest <;> cases hreply
    exact hrest

/-- What was recorded up to a failure stays there. -/
theorem of_tryCatch {handler : ServiceError → SqlCall σ α}
    {handler' : ServiceError → SqlCall (σ × List Exchange) α}
    {S : ServiceError → Except ServiceError α → List Exchange → Prop}
    {T : Except ServiceError α → List Exchange → Prop} (h : Records call recorded R)
    (hhandler : ∀ e, Records (handler e) (handler' e) (S e))
    (hok : ∀ a steps, R (.ok a) steps → T (.ok a) steps)
    (herror : ∀ e first answer rest, R (.error e) first → S e answer rest →
      T answer (first ++ rest)) :
    Records (tryCatch call handler) (tryCatch recorded handler') T := by
  intro s log
  obtain ⟨answer, s', first, hcall, hrecorded, hfirst⟩ := h s log
  cases answer with
  | ok a =>
    exact ⟨_, _, first, runOn_tryCatch_ok hcall handler, runOn_tryCatch_ok hrecorded handler',
      hok a first hfirst⟩
  | error e =>
    obtain ⟨answer, s'', rest, hhandled, hhandled', hrest⟩ := hhandler e s' (log ++ first)
    refine ⟨answer, s'', first ++ rest, (runOn_tryCatch_error hcall handler).trans hhandled, ?_,
      herror e first answer rest hfirst hrest⟩
    rw [← List.append_assoc]
    exact (runOn_tryCatch_error hrecorded handler').trans hhandled'

theorem of_rollBack (e : ServiceError) (h : ∀ undone, R (.error e) [⟨.rollback, undone⟩]) :
    Records (wire.rollBack e : SqlCall σ α) (wire.recorded.rollBack e) R :=
  fun _ _ => ⟨_, _, _, runOn_rollBack .., runOn_rollBack .., h _⟩

end Records
end SqlCall

end Turnstile
