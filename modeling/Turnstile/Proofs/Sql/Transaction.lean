import Turnstile.Proofs.Sql.Exchange

/-!
Transactions. What stands in the middle of one does not go on after a failure (`Careful`), and where
a row has to be there, it is locked first and nothing else is sent without it (`Guarded`). The laws
follow for the whole record, for any replies, and the middle may be continued by further statements.
-/

namespace Turnstile

variable {σ α β : Type} {wire : SqlWire σ}

/-! ### From the start to the end -/

/-- A transaction in whose middle `R` holds of the answer and of what goes over the wire. -/
inductive Transacted (R : Except ServiceError α → List Exchange → Prop) :
    Except ServiceError α → List Exchange → Prop
  | notBegun {e : DatabaseError} : Transacted R (.error (.database e)) [⟨.start, .error e⟩]
  | undone {begun : SqlReply} {e : ServiceError} {steps : List Exchange}
      {undone : Except DatabaseError SqlReply} (h : R (.error e) steps) :
      Transacted R (.error e) (⟨.start, .ok begun⟩ :: (steps ++ [⟨.rollback, undone⟩]))
  | notCommitted {begun : SqlReply} {a : α} {steps : List Exchange} {e : DatabaseError}
      {undone : Except DatabaseError SqlReply} (h : R (.ok a) steps) :
      Transacted R (.error (.database e))
        (⟨.start, .ok begun⟩ :: (steps ++ [⟨.commit, .error e⟩, ⟨.rollback, undone⟩]))
  | committed {begun done : SqlReply} {a : α} {steps : List Exchange} (h : R (.ok a) steps) :
      Transacted R (.ok a) (⟨.start, .ok begun⟩ :: (steps ++ [⟨.commit, .ok done⟩]))

/-- What stands before a rollback, if there is one: a middle that failed, or one with an attempt to
commit it. -/
inductive Attempted (R : Except ServiceError α → List Exchange → Prop) :
    Except ServiceError α → List Exchange → Prop
  | failed {e : ServiceError} {steps : List Exchange} (h : R (.error e) steps) :
      Attempted R (.error e) steps
  | notCommitted {a : α} {steps : List Exchange} {e : DatabaseError} (h : R (.ok a) steps) :
      Attempted R (.error (.database e)) (steps ++ [⟨.commit, .error e⟩])
  | committed {a : α} {steps : List Exchange} {done : SqlReply} (h : R (.ok a) steps) :
      Attempted R (.ok a) (steps ++ [⟨.commit, .ok done⟩])

namespace SqlCall.Records

variable {body : SqlCall σ α} {recorded : SqlCall (σ × List Exchange) α}
  {R : Except ServiceError α → List Exchange → Prop}

theorem of_attempt (h : Records body recorded R) :
    Records (do let a ← body; let _ ← wire.sendOr .database .commit; return a)
      (do let a ← recorded; let _ ← wire.recorded.sendOr .database .commit; return a)
      (Attempted R) := by
  refine h.of_bind (S := fun a answer rest => ∀ steps, R (.ok a) steps →
    Attempted R answer (steps ++ rest)) (fun a => .of_send ?_ fun done => .of_pure a ?_)
    (fun e steps => .failed) fun a steps answer rest hsteps hrest => hrest steps hsteps
  · exact fun e steps hsteps => .notCommitted hsteps
  · exact fun steps hsteps => .committed hsteps

theorem of_transaction (h : Records body recorded R) :
    Records (wire.transaction body) (wire.recorded.transaction recorded) (Transacted R) := by
  refine .of_send (fun e => .notBegun) fun begun => .of_tryCatch (S := fun e answer rest =>
      ∃ undone, answer = .error e ∧ rest = [⟨.rollback, undone⟩])
    (of_attempt h) (fun e => .of_rollBack e fun undone => ⟨undone, rfl, rfl⟩) ?_ ?_
  · intro a steps hsteps
    cases hsteps with
    | committed h => exact .committed h
  · rintro e steps _ _ hsteps ⟨undone, rfl, rfl⟩
    cases hsteps with
    | failed h => exact .undone h
    | notCommitted h =>
      rw [List.append_assoc]
      exact .notCommitted h

end SqlCall.Records

/-- What the middle of a transaction keeps to: it does not go on after a failure, and fails as that
statement is to fail. -/
structure Careful (answer : Except ServiceError α) (steps : List Exchange) : Prop where
  inside : ∀ x ∈ steps, x.statement.kind ≠ .control
  onward : steps.Pairwise fun x _ => x.succeeded = true
  refused : ∀ x ∈ steps, ∀ e, x.reply = .error e → answer = .error (x.statement.refusal e)

namespace Careful

variable {answer : Except ServiceError α} {steps : List Exchange}

theorem nil : Careful answer [] :=
  ⟨List.forall_mem_nil _, .nil, List.forall_mem_nil _⟩

theorem succeeded {a : α} (h : Careful (.ok a) steps) : ∀ x ∈ steps, x.succeeded = true := by
  intro x hx
  cases hreply : x.reply with
  | ok reply => simp [Exchange.succeeded, hreply, Except.isOk, Except.toBool]
  | error e => cases h.refused x hx e hreply

theorem single {x : Exchange} (hx : x.statement.kind ≠ .control)
    (h : ∀ e, x.reply = .error e → answer = .error (x.statement.refusal e)) :
    Careful answer [x] :=
  ⟨by simpa using hx, List.pairwise_singleton _ _, by simpa using h⟩

theorem append {a : α} {answer : Except ServiceError β} {rest : List Exchange}
    (h : Careful (.ok a) steps) (hrest : Careful answer rest) : Careful answer (steps ++ rest) where
  inside := List.forall_mem_append.mpr ⟨h.inside, hrest.inside⟩
  onward := List.pairwise_append.mpr ⟨h.onward, hrest.onward, fun x hx _ _ => h.succeeded x hx⟩
  refused := by
    intro x hx e hreply
    rcases List.mem_append.mp hx with hfirst | hlater
    · cases h.refused x hfirst e hreply
    · exact hrest.refused x hlater e hreply

/-- A failure stays one, whatever was to be answered. -/
theorem of_error {e : ServiceError} (h : Careful (.error e : Except ServiceError α) steps) :
    Careful (.error e : Except ServiceError β) steps :=
  ⟨h.inside, h.onward, fun x hx cause hreply => by cases h.refused x hx cause hreply; rfl⟩

end Careful

/-! ### The laws -/

/-- Without a statement that failed the fault is with the database. -/
def Explained (answer : Except ServiceError α) (steps : List Exchange) : Prop :=
  ∀ e, answer = .error e → (∀ x ∈ steps, x.succeeded = true) → ∃ cause, e = .database cause

/-- The row that links start from is locked first, and all else is sent only if it is there. -/
inductive Guarded (entity : String) : Except ServiceError α → List Exchange → Prop
  | missing {lock : Exchange} (hlock : lock.statement.kind = .lock) (h : lock.Missed) :
      Guarded entity (.error (.notFound entity)) [lock]
  | unread {lock : Exchange} {cause : DatabaseError} (hlock : lock.statement.kind = .lock)
      (h : ¬ lock.Missed) : Guarded entity (.error (.database cause)) [lock]
  | found {lock : Exchange} {answer : Except ServiceError α} {rest : List Exchange}
      (hlock : lock.statement.kind = .lock) (h : lock.Found)
      (hrest : ∀ x ∈ rest, x.statement.kind ≠ .lock) (hexplained : Explained answer rest) :
      Guarded entity answer (lock :: rest)

/-- A parent that is missed is all that was looked for. -/
theorem Guarded.of_missed {entity : String} {answer : Except ServiceError α}
    {steps : List Exchange} (h : Guarded entity answer steps) {x : Exchange} (hx : x ∈ steps)
    (hlock : x.statement.kind = .lock) (hmissed : x.Missed) :
    answer = .error (.notFound entity) ∧ steps = [x] := by
  cases h with
  | missing =>
    obtain rfl := List.mem_singleton.mp hx
    exact ⟨rfl, rfl⟩
  | unread _ hnot =>
    obtain rfl := List.mem_singleton.mp hx
    exact absurd hmissed hnot
  | found _ hfound hrest =>
    rcases List.mem_cons.mp hx with rfl | hlater
    · obtain ⟨reply, hreply, hrows⟩ := hfound
      obtain ⟨reply', hreply', hrows'⟩ := hmissed
      cases hreply.symm.trans hreply'
      exact absurd hrows' hrows
    · exact absurd hlock (hrest x hlater)

/-- The middle of a transaction, with what its parent is called if it has one. -/
def Middle (parent? : Option String) (answer : Except ServiceError α) (steps : List Exchange) :
    Prop :=
  Careful answer steps ∧ match parent? with
    | some entity => Guarded entity answer steps
    | none => Explained answer steps ∧ ∀ x ∈ steps, x.statement.kind ≠ .lock

/-- The laws of a transaction for its answer and all that went over the wire. -/
structure TransactionLaws (parent? : Option String) (answer : Except ServiceError α)
    (log : List Exchange) : Prop where
  /-- It is begun before anything else is sent. -/
  begins : ∃ begun rest, log = begun :: rest ∧ begun.statement = .start ∧
    (begun.succeeded = true ∨ rest = []) ∧ ∀ x ∈ rest, x.statement ≠ .start
  /-- The row of the parent is locked next, and without it there is nothing but to roll back. -/
  locks : ∀ entity, parent? = some entity → ∀ begun rest, log = begun :: rest → rest ≠ [] →
    ∃ lock later, rest = lock :: later ∧ lock.statement.kind = .lock ∧
      (lock.Found ∨ ∀ x ∈ later, x.statement = .rollback)
  stops : log.Pairwise fun x y => x.succeeded = false → y.statement = .rollback
  commits : log.Pairwise fun x y =>
    (y.statement = .commit → x.succeeded = true) ∧ (x.statement = .commit → y.statement = .rollback)
  ok_iff : (∃ a, answer = .ok a) ↔ ∃ x ∈ log, x.statement = .commit ∧ x.succeeded = true
  undoes : ∀ e, answer = .error e → ∀ begun rest, log = begun :: rest → rest ≠ [] →
    rest.getLast?.map (·.statement) = some .rollback
  missing : ∀ entity, parent? = some entity →
    (∃ x ∈ log, x.statement.kind = .lock ∧ x.Missed) →
      answer = .error (.notFound entity) ∧ ∀ x ∈ log, x.statement.kind.writes = false
  refused : ∀ x ∈ log, ∀ e, x.reply = .error e → x.statement ≠ .rollback →
    answer = .error (x.statement.refusal e)
  /-- If everything went through, either the parent is missing or a reply could not be read. -/
  explained : ∀ e, answer = .error e →
    (∀ x ∈ log, x.succeeded = true ∨ x.statement = .rollback) →
      (∃ cause, e = .database cause) ∨ ∃ entity, parent? = some entity ∧ e = .notFound entity ∧
        ∃ x ∈ log, x.statement.kind = .lock ∧ x.Missed

/-- Statements in the middle neither start nor end the transaction. -/
theorem Careful.ne_of_control {answer : Except ServiceError α} {steps : List Exchange}
    (h : Careful answer steps) {statement : Statement} (hcontrol : statement.kind = .control) :
    ∀ x ∈ steps, x.statement ≠ statement :=
  fun x hx heq => h.inside x hx (heq ▸ hcontrol)

namespace Transacted

variable {parent? : Option String} {answer : Except ServiceError α} {log : List Exchange}

theorem begins (h : Transacted (Middle parent?) answer log) :
    ∃ begun rest, log = begun :: rest ∧ begun.statement = .start ∧
      (begun.succeeded = true ∨ rest = []) ∧ ∀ x ∈ rest, x.statement ≠ .start := by
  cases h with
  | notBegun => exact ⟨_, _, rfl, rfl, .inr rfl, List.forall_mem_nil _⟩
  | undone h | notCommitted h | committed h =>
    refine ⟨_, _, rfl, rfl, .inl rfl, List.forall_mem_append.mpr ⟨?_, by simp⟩⟩
    exact h.1.ne_of_control rfl

/-- A relation along the whole record, from its parts. -/
theorem pairwise_record {R : Exchange → Exchange → Prop} {begun : Exchange}
    {steps ending : List Exchange} (hbegun : ∀ y, R begun y) (hsteps : steps.Pairwise R)
    (hending : ending.Pairwise R) (hacross : ∀ x ∈ steps, ∀ y ∈ ending, R x y) :
    (begun :: (steps ++ ending)).Pairwise R :=
  List.pairwise_cons.mpr ⟨fun y _ => hbegun y, List.pairwise_append.mpr ⟨hsteps, hending, hacross⟩⟩

theorem stops (h : Transacted (Middle parent?) answer log) :
    log.Pairwise fun x y => x.succeeded = false → y.statement = .rollback := by
  have honward {answer : Except ServiceError α} {steps : List Exchange}
      (h : Careful answer steps) :
      steps.Pairwise fun x y => x.succeeded = false → y.statement = .rollback :=
    h.onward.imp fun hx => by simp [hx]
  cases h with
  | notBegun => exact List.pairwise_singleton _ _
  | undone h => exact pairwise_record (fun _ => nofun) (honward h.1) (by simp) (by simp)
  | notCommitted h | committed h =>
    refine pairwise_record (fun _ => nofun) (honward h.1) (by simp) fun x hx y _ hfailed => ?_
    rw [h.1.succeeded x hx] at hfailed
    cases hfailed

theorem commits (h : Transacted (Middle parent?) answer log) :
    log.Pairwise fun x y => (y.statement = .commit → x.succeeded = true) ∧
      (x.statement = .commit → y.statement = .rollback) := by
  have honward {answer : Except ServiceError α} {steps : List Exchange}
      (h : Careful answer steps) :
      steps.Pairwise fun x y => (y.statement = .commit → x.succeeded = true) ∧
        (x.statement = .commit → y.statement = .rollback) :=
    h.onward.imp_of_mem fun hx _ hsucceeded =>
      ⟨fun _ => hsucceeded, fun hcommit => absurd hcommit (h.ne_of_control rfl _ hx)⟩
  cases h with
  | notBegun => exact List.pairwise_singleton _ _
  | undone h =>
    refine pairwise_record (fun _ => ⟨fun _ => rfl, nofun⟩) (honward h.1) (by simp) ?_
    exact fun x hx y hy => ⟨by simp_all, fun hcommit => absurd hcommit (h.1.ne_of_control rfl x hx)⟩
  | notCommitted h | committed h =>
    refine pairwise_record (fun _ => ⟨fun _ => rfl, nofun⟩) (honward h.1) (by simp) ?_
    exact fun x hx y _ => ⟨fun _ => h.1.succeeded x hx,
      fun hcommit => absurd hcommit (h.1.ne_of_control rfl x hx)⟩

theorem forall_record {P : Exchange → Prop} {begun : Exchange} {steps ending : List Exchange} :
    (∀ x ∈ begun :: (steps ++ ending), P x) ↔
      P begun ∧ (∀ x ∈ steps, P x) ∧ ∀ x ∈ ending, P x := by
  rw [List.forall_mem_cons, List.forall_mem_append]

theorem ok_iff (h : Transacted (Middle parent?) answer log) :
    (∃ a, answer = .ok a) ↔ ∃ x ∈ log, x.statement = .commit ∧ x.succeeded = true := by
  have hnone {log : List Exchange} {e : ServiceError}
      (h : ∀ x ∈ log, x.statement = .commit → x.succeeded = false) :
      (∃ a, (.error e : Except ServiceError α) = .ok a) ↔
        ∃ x ∈ log, x.statement = .commit ∧ x.succeeded = true :=
    ⟨nofun, fun ⟨x, hx, hcommit, hsucceeded⟩ => by simp [h x hx hcommit] at hsucceeded⟩
  cases h with
  | notBegun => exact hnone (by simp)
  | undone h | notCommitted h =>
    refine hnone (forall_record.mpr ⟨nofun, fun x hx hcommit => ?_, ?_⟩)
    · exact absurd hcommit (h.1.ne_of_control rfl x hx)
    · simp [Exchange.succeeded, Except.isOk, Except.toBool]
  | @committed _ done =>
    exact ⟨fun _ => ⟨⟨.commit, .ok done⟩, by simp, rfl, rfl⟩, fun _ => ⟨_, rfl⟩⟩

theorem undoes (h : Transacted (Middle parent?) answer log) :
    ∀ e, answer = .error e → ∀ begun rest, log = begun :: rest → rest ≠ [] →
      rest.getLast?.map (·.statement) = some .rollback := by
  intro e he begun rest hlog hrest
  cases h with
  | notBegun =>
    cases hlog
    exact absurd rfl hrest
  | undone | notCommitted =>
    cases hlog
    simp
  | committed => cases he

theorem refused (h : Transacted (Middle parent?) answer log) :
    ∀ x ∈ log, ∀ e, x.reply = .error e → x.statement ≠ .rollback →
      answer = .error (x.statement.refusal e) := by
  cases h with
  | notBegun =>
    intro x hx e hreply _
    obtain rfl := List.mem_singleton.mp hx
    cases hreply
    rfl
  | undone h =>
    refine forall_record.mpr ⟨nofun, fun x hx e hreply _ => ?_, by simp⟩
    exact h.1.of_error.refused x hx e hreply
  | notCommitted h =>
    refine forall_record.mpr ⟨nofun, fun x hx e hreply _ => ?_, ?_⟩
    · cases h.1.refused x hx e hreply
    · rintro x hx e hreply hne
      simp at hx
      rcases hx with rfl | rfl
      · cases hreply
        rfl
      · exact absurd rfl hne
  | committed h =>
    refine forall_record.mpr ⟨nofun, fun x hx e hreply _ => ?_, by simp⟩
    cases h.1.refused x hx e hreply

theorem locks (h : Transacted (Middle parent?) answer log) :
    ∀ entity, parent? = some entity → ∀ begun rest, log = begun :: rest → rest ≠ [] →
      ∃ lock later, rest = lock :: later ∧ lock.statement.kind = .lock ∧
        (lock.Found ∨ ∀ x ∈ later, x.statement = .rollback) := by
  rintro entity rfl begun rest hlog hrest
  cases h with
  | notBegun =>
    cases hlog
    exact absurd rfl hrest
  | undone h =>
    cases hlog
    cases h.2 with
    | missing hlock | unread hlock => exact ⟨_, _, rfl, hlock, .inr (by simp)⟩
    | found hlock hfound => exact ⟨_, _, rfl, hlock, .inl hfound⟩
  | notCommitted h | committed h =>
    cases hlog
    cases h.2 with
    | found hlock hfound => exact ⟨_, _, rfl, hlock, .inl hfound⟩

theorem missing (h : Transacted (Middle parent?) answer log) :
    ∀ entity, parent? = some entity → (∃ x ∈ log, x.statement.kind = .lock ∧ x.Missed) →
      answer = .error (.notFound entity) ∧ ∀ x ∈ log, x.statement.kind.writes = false := by
  rintro entity rfl ⟨x, hx, hlock, hmissed⟩
  have hmiddle {answer : Except ServiceError α} {begun : Exchange} {steps ending : List Exchange}
      (h : Middle (some entity) answer steps) (hx : x ∈ begun :: (steps ++ ending))
      (hbegun : begun.statement.kind = .control)
      (hending : ∀ y ∈ ending, y.statement.kind = .control) :
      answer = .error (.notFound entity) ∧ steps = [x] := by
    have hcontrol {y : Exchange} (hy : y.statement.kind = .control) : x ≠ y := by
      rintro rfl
      simp [hlock] at hy
    rcases List.mem_cons.mp hx with rfl | hx
    · exact absurd rfl (hcontrol hbegun)
    · rcases List.mem_append.mp hx with hx | hx
      · exact h.2.of_missed hx hlock hmissed
      · exact absurd rfl (hcontrol (hending x hx))
  cases h with
  | notBegun =>
    obtain rfl := List.mem_singleton.mp hx
    cases hlock
  | undone h =>
    obtain ⟨hanswer, rfl⟩ := hmiddle h hx rfl (by simp)
    exact ⟨hanswer, by simp [hlock, StatementKind.writes]⟩
  | notCommitted h | committed h =>
    obtain ⟨hanswer, -⟩ := hmiddle h hx rfl (by simp)
    cases hanswer

theorem explained (h : Transacted (Middle parent?) answer log) : ∀ e, answer = .error e →
    (∀ x ∈ log, x.succeeded = true ∨ x.statement = .rollback) →
      (∃ cause, e = .database cause) ∨ ∃ entity, parent? = some entity ∧ e = .notFound entity ∧
        ∃ x ∈ log, x.statement.kind = .lock ∧ x.Missed := by
  intro e he hlog
  cases h with
  | notBegun => exact .inl ⟨_, (Except.error.inj he).symm⟩
  | @undone _ _ steps _ h =>
    obtain rfl := Except.error.inj he
    obtain ⟨hcareful, hparent⟩ := h
    have hsucceeded : ∀ x ∈ steps, x.succeeded = true := fun x hx =>
      ((forall_record.mp hlog).2.1 x hx).resolve_right (hcareful.ne_of_control rfl x hx)
    cases parent? with
    | none => exact .inl (hparent.1 _ rfl hsucceeded)
    | some entity =>
      cases hparent with
      | missing hlock hmissed => exact .inr ⟨entity, rfl, rfl, _, by simp, hlock, hmissed⟩
      | unread => exact .inl ⟨_, rfl⟩
      | found _ _ _ hexplained =>
        exact .inl (hexplained _ rfl (List.forall_mem_cons.mp hsucceeded).2)
  | notCommitted => exact .inl ⟨_, (Except.error.inj he).symm⟩
  | committed => cases he

theorem laws (h : Transacted (Middle parent?) answer log) : TransactionLaws parent? answer log where
  begins := h.begins
  locks := h.locks
  stops := h.stops
  commits := h.commits
  ok_iff := h.ok_iff
  undoes := h.undoes
  missing := h.missing
  refused := h.refused
  explained := h.explained

end Transacted

/-- Only whether it went through counts of an answer. -/
theorem TransactionLaws.map {parent? : Option String} {answer : Except ServiceError α}
    {log : List Exchange} (h : TransactionLaws parent? answer log) (f : α → β) :
    TransactionLaws parent? (answer.map f) log := by
  have herror {e : ServiceError} : answer.map f = .error e ↔ answer = .error e := by
    cases answer <;> simp [Except.map]
  refine { h with
    ok_iff := ?_
    undoes := fun e he => h.undoes e (herror.mp he)
    missing := fun entity hentity hlock => ?_
    refused := fun x hx e hreply hne => herror.mpr (h.refused x hx e hreply hne)
    explained := fun e he => h.explained e (herror.mp he) }
  · rw [← h.ok_iff]
    cases answer <;> simp [Except.map]
  · exact (h.missing entity hentity hlock).imp_left herror.mpr

/-! ### Going on -/

namespace Middle

variable {parent? : Option String} {steps rest : List Exchange}

theorem of_error {e : ServiceError} (h : Middle parent? (.error e : Except ServiceError α) steps) :
    Middle parent? (.error e : Except ServiceError β) steps := by
  obtain ⟨hcareful, hparent⟩ := h
  refine ⟨hcareful.of_error, ?_⟩
  cases parent? with
  | none => exact ⟨fun e' he => hparent.1 e' (congrArg Except.error (Except.error.inj he)), hparent.2⟩
  | some entity =>
    cases hparent with
    | missing hlock h => exact .missing hlock h
    | unread hlock h => exact .unread hlock h
    | found hlock h hrest hexplained =>
      exact .found hlock h hrest fun e' he =>
        hexplained e' (congrArg Except.error (Except.error.inj he))

/-- The middle of a transaction goes on with statements that need no parent. -/
theorem append {a : α} {answer : Except ServiceError β} (h : Middle parent? (.ok a) steps)
    (hrest : Middle none answer rest) : Middle parent? answer (steps ++ rest) := by
  obtain ⟨hcareful, hparent⟩ := h
  obtain ⟨hcareful', hexplained, hunlocked⟩ := hrest
  refine ⟨hcareful.append hcareful', ?_⟩
  cases parent? with
  | none =>
    refine ⟨fun e he hall => ?_, List.forall_mem_append.mpr ⟨hparent.2, hunlocked⟩⟩
    exact hexplained e he (List.forall_mem_append.mp hall).2
  | some entity =>
    cases hparent with
    | found hlock hfound hfirst =>
      refine .found hlock hfound (List.forall_mem_append.mpr ⟨hfirst, hunlocked⟩) ?_
      exact fun e he hall => hexplained e he (List.forall_mem_append.mp hall).2

theorem done (a : α) : Middle none (.ok a) [] :=
  ⟨.nil, nofun, List.forall_mem_nil _⟩

theorem internal (cause : DatabaseError) :
    Middle none (.error (.database cause) : Except ServiceError α) [] :=
  ⟨.nil, fun _ he _ => ⟨cause, (Except.error.inj he).symm⟩, List.forall_mem_nil _⟩

theorem sent {statement : Statement} (hcontrol : statement.kind ≠ .control)
    (hlock : statement.kind ≠ .lock) (reply : Except DatabaseError SqlReply) :
    Middle none (reply.mapError statement.refusal) [⟨statement, reply⟩] := by
  refine ⟨.single hcontrol ?_, fun e he hall => ?_, by simpa using hlock⟩
  · rintro e rfl
    rfl
  · cases reply with
    | ok => cases he
    | error => cases List.forall_mem_singleton.mp hall

end Middle

theorem SqlCall.Records.andThen {call : SqlCall σ α} {recorded : SqlCall (σ × List Exchange) α}
    {parent? : Option String} {f : α → SqlCall σ β} {f' : α → SqlCall (σ × List Exchange) β}
    (h : Records call recorded (Middle parent?)) (hf : ∀ a, Records (f a) (f' a) (Middle none)) :
    Records (call >>= f) (recorded >>= f') (Middle parent?) :=
  h.of_bind hf (fun _ _ => Middle.of_error) fun _ _ _ _ => Middle.append

end Turnstile
