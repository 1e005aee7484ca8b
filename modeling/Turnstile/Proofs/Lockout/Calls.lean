import Turnstile.Proofs.Except
import Turnstile.Proofs.Lockout.Comparison
import Turnstile.Sql.Policies

/-!
What the lockout asks of the stores, whatever is on record. Nothing is assumed of the stores, so the
record of a user can have any count and any dates, and every call can fail. Two days before the end of
the calendar and earlier, no count and no date gets out of range.
-/

namespace Turnstile

/-! ### Calls of the stores -/

/-- A call of the stores for one user, with the answer to it. -/
inductive LockoutCall where
  | find (answer : Except Failure (Option LoginAttempt))
  | put (record : LoginAttempt) (seconds : Int) (answer : Except Failure Unit)
  | block (answer : Except Failure Unit)

namespace LockoutCall

def failure? : LockoutCall → Option Failure
  | find (.error f) | put _ _ (.error f) | block (.error f) => some f
  | _ => none

/-- The count on record after the call, as far as the call tells. -/
def count (before : Nat) : LockoutCall → Nat
  | find (.ok (some record)) | put record _ _ => record.count
  | find _ => 0
  | block _ => before

/-- The count that calls leave on record. -/
def left (calls : List LockoutCall) : Nat := calls.foldl count 0

/-- What the call keeps counts from two to eight failures, and is kept for longer than no time. -/
def Advances : LockoutCall → Prop
  | put record seconds _ => 2 ≤ record.count ∧ record.count ≤ 8 ∧ 0 < seconds
  | _ => True

end LockoutCall

namespace Lockout

variable {σ α β : Type}

/-- The stores answer a call so, and are in another state then. -/
inductive Answers (stores : Stores σ) (userId : Int) (now : Instant) (s : σ) :
    LockoutCall → σ → Prop
  | find : Answers stores userId now s (.find (stores.attempts.find userId now s).1)
      (stores.attempts.find userId now s).2
  | put (record : LoginAttempt) (seconds : Int) : Answers stores userId now s
      (.put record seconds (stores.attempts.put userId record seconds now s).1)
      (stores.attempts.put userId record seconds now s).2
  | block : Answers stores userId now s (.block (stores.users.setStatus userId .blocked now s).1)
      (stores.users.setStatus userId .blocked now s).2

/-- The stores answer calls one after another. -/
inductive Performs (stores : Stores σ) (userId : Int) (now : Instant) :
    σ → List LockoutCall → σ → Prop
  | nil (s : σ) : Performs stores userId now s [] s
  | cons {s s₁ s₂ : σ} {call : LockoutCall} {calls : List LockoutCall}
      (hcall : Answers stores userId now s call s₁)
      (hcalls : Performs stores userId now s₁ calls s₂) :
      Performs stores userId now s (call :: calls) s₂

namespace Performs

variable {stores : Stores σ} {userId : Int} {now : Instant} {s s₁ s₂ : σ}
  {calls rest : List LockoutCall}

theorem append (h : Performs stores userId now s calls s₁)
    (hrest : Performs stores userId now s₁ rest s₂) :
    Performs stores userId now s (calls ++ rest) s₂ := by
  induction h with
  | nil s => exact hrest
  | cons hcall _ ih => exact .cons hcall (ih hrest)

/-- Stores that write down every call have written down these and no others. -/
theorem written {ledger : σ → List LockoutCall}
    (hwrites : ∀ call s s₁, Answers stores userId now s call s₁ → ledger s₁ = ledger s ++ [call])
    (h : Performs stores userId now s calls s₁) : ledger s₁ = ledger s ++ calls := by
  induction h with
  | nil s => simp
  | cons hcall _ ih => rw [ih, hwrites _ _ _ hcall, List.append_assoc, List.singleton_append]

end Performs

/-- An action gives the answer, and makes the calls and nothing else. Stores that write down their
calls tell the same list, see `Performs.written`. -/
structure Makes (stores : Stores σ) (userId : Int) (a : Action σ α) (w : World σ)
    (answer : Except Failure α) (calls : List LockoutCall) (s : σ) : Prop where
  run : a.runOn w = (answer, { w with stores := s })
  performs : Performs stores userId w.now w.stores calls s

namespace Makes

variable {stores : Stores σ} {userId : Int} {w : World σ} {a : Action σ α} {f : α → Action σ β}
  {calls rest : List LockoutCall} {s s₁ : σ}

theorem of_run {answer : Except Failure α} (h : a.runOn w = (answer, w)) :
    Makes stores userId a w answer [] w.stores :=
  ⟨h, .nil w.stores⟩

theorem find (stores : Stores σ) (userId : Int) (w : World σ) :
    ∃ answer s, Makes stores userId (Action.store (stores.attempts.find userId)) w answer
      [.find answer] s :=
  ⟨_, _, Action.runOn_store .., .cons .find (.nil _)⟩

theorem setBlocked (stores : Stores σ) (userId : Int) (w : World σ) :
    ∃ answer s, Makes stores userId (Action.store (stores.users.setStatus userId .blocked)) w answer
      [.block answer] s :=
  ⟨_, _, Action.runOn_store .., .cons .block (.nil _)⟩

theorem put (stores : Stores σ) (userId : Int) (record : LoginAttempt) (w : World σ) :
    ∃ answer s, Makes stores userId (put stores userId record) w answer
      [.put record (record.secondsLeft w.now) answer] s := by
  refine ⟨_, _, ?_, .cons (.put record (record.secondsLeft w.now)) (.nil _)⟩
  unfold Lockout.put
  rw [Action.runOn_bind_ok (Action.runOn_clock w), Action.runOn_store]

theorem bind_ok {x : α} {answer : Except Failure β} (ha : Makes stores userId a w (.ok x) calls s)
    (hf : Makes stores userId (f x) { w with stores := s } answer rest s₁) :
    Makes stores userId (a >>= f) w answer (calls ++ rest) s₁ :=
  ⟨(Action.runOn_bind_ok ha.run).trans hf.run, ha.performs.append hf.performs⟩

theorem bind_error {e : Failure} (ha : Makes stores userId a w (.error e) calls s) :
    Makes stores userId (a >>= f) w (.error e) calls s :=
  ⟨Action.runOn_bind_error ha.run, ha.performs⟩

/-- What makes no calls and changes nothing can be left out. -/
theorem of_bind {x : α} {answer : Except Failure β} (ha : a.runOn w = (.ok x, w))
    (hf : Makes stores userId (f x) w answer rest s) :
    Makes stores userId (a >>= f) w answer rest s :=
  ⟨(Action.runOn_bind_ok ha).trans hf.run, hf.performs⟩

end Makes

/-! ### Dates far from the end of the calendar -/

/-- The end of the calendar is at least two days away. -/
def FarFromEnd (now : Instant) : Prop := now.InCalendar ∧ (now.later (2 * 86400)).InCalendar

instance (now : Instant) : Decidable (FarFromEnd now) := by
  unfold FarFromEnd
  infer_instance

/-- Then there are dates for the record after each failure that can be counted. -/
theorem FarFromEnd.recordable {now : Instant} (h : FarFromEnd now) {prior : Nat} {seconds : Int}
    (hs : blockSeconds? prior = some seconds) : Recordable now seconds (prior + 1) := by
  obtain ⟨-, hlow, hhigh, -⟩ := blockSeconds?_bounds hs
  obtain ⟨hpositive, hlife⟩ := life_bounds hs
  have hdate (later : Int) (h₀ : 0 ≤ later) (hle : later ≤ 2 * 86400) :
      (now.later later).InCalendar := by
    obtain ⟨⟨hfirst, -⟩, -, hlast⟩ := h
    simp only [Instant.InCalendar, Instant.later_nanos] at hlast ⊢
    omega
  exact ⟨hdate _ hlow (by omega), hdate _ (by omega) (by omega)⟩

/-! ### The calls of the lockout -/

section Parts

variable (stores : Stores σ) (user : User) {w : World σ}

theorem makes_block (w : World σ) :
    ∃ reply s, Makes stores user.id (block stores user : Action σ α) w
      (reply >>= fun _ => .error (.error (.maxAttemptsReached user.id))) [.block reply] s := by
  obtain ⟨reply, s, hset⟩ := Makes.setBlocked stores user.id w
  unfold block
  refine ⟨reply, s, ?_⟩
  cases reply with
  | error f => exact hset.bind_error
  | ok _ => exact hset.bind_ok (.of_run rfl)

/-- The next record has its dates, and is kept for longer than no time. -/
theorem makes_next (hnow : FarFromEnd w.now) {count : Nat} {seconds : Int}
    (hs : blockSeconds? count = some seconds) :
    (Action.ofExcept (nextRecord w.now seconds (count + 1))).runOn w =
        (.ok (record w.now seconds (count + 1)), w) ∧
      ∃ kept reply s, 0 < kept ∧ Makes stores user.id
        (put stores user.id (record w.now seconds (count + 1))) w reply
        [.put (record w.now seconds (count + 1)) kept reply] s := by
  constructor
  · rw [Action.runOn_ofExcept, nextRecord_of_recordable hs (hnow.recordable hs)]
  · have hleft : (record w.now seconds (count + 1)).secondsLeft w.now =
        seconds + graceSeconds (count + 1) := Instant.secondsSince_later ..
    obtain ⟨reply, s, hput⟩ := Makes.put stores user.id (record w.now seconds (count + 1)) w
    rw [hleft] at hput
    exact ⟨_, reply, s, (life_bounds hs).1, hput⟩

theorem makes_recordFailure (hnow : FarFromEnd w.now) {prior : Nat} {seconds : Int}
    (hs : blockSeconds? prior = some seconds) :
    ∃ kept reply s, 0 < kept ∧ Makes stores user.id (recordFailure stores user prior) w reply
      [.put (record w.now seconds (prior + 1)) kept reply] s := by
  obtain ⟨hnext, kept, reply, s, hkept, hput⟩ := makes_next stores user hnow hs
  unfold recordFailure
  rw [hs]
  exact ⟨kept, reply, s, hkept, .of_bind (Action.runOn_clock w) (.of_bind hnext hput)⟩

/-- Below the last lock, a check that found failures keeps one more, and goes on if there is no
lock for them. -/
theorem makes_lock (hnow : FarFromEnd w.now) {count : Nat} {seconds : Int}
    (hs : blockSeconds? count = some seconds) :
    ∃ kept reply s, 0 < kept ∧ Makes stores user.id (do
        let now ← Action.clock
        let next ← Action.ofExcept (nextRecord now seconds (count + 1))
        put stores user.id next
        if now.before next.blockedUntil then Action.fail (.loginLocked next.blockedUntil)
        return count) w
      (reply >>= fun _ => if 0 < seconds then .error (.error (.loginLocked (w.now.later seconds)))
        else .ok count)
      [.put (record w.now seconds (count + 1)) kept reply] s := by
  obtain ⟨hnext, kept, reply, s, hkept, hput⟩ := makes_next stores user hnow hs
  refine ⟨kept, reply, s, hkept, .of_bind (Action.runOn_clock w) (.of_bind hnext ?_)⟩
  cases reply with
  | error f => exact hput.bind_error
  | ok _ =>
    refine hput.bind_ok (.of_run ?_)
    have hbefore := Instant.before_later_iff w.now seconds
    by_cases hlock : 0 < seconds
    · simp only [record, hbefore, hlock, if_true]
      rfl
    · simp only [record, hbefore, hlock, if_false]
      rfl

end Parts

/-! ### The check -/

/-- What a check answers, and the calls that it makes for that: the login goes on with no failure or
with one, and then at most one more is on record; counts from two to eight are kept for longer than no
time; a fault is one of the stores. -/
structure Checked (answer : Except Failure Nat) (calls : List LockoutCall) : Prop where
  prior : ∀ n, answer = .ok n → n ≤ 1 ∧ LockoutCall.left calls ≤ n + 1
  advances : ∀ call ∈ calls, call.Advances
  fault : ∀ f, answer = .error (.fault f) → ∃ call ∈ calls, call.failure? = some (.fault f)

namespace Checked

variable {found : LoginAttempt}

theorem of_error (f : Failure) : Checked (.error f) [.find (.error f)] where
  prior _ h := by cases h
  advances := by simp [LockoutCall.Advances]
  fault g h := ⟨.find (.error f), by simp, by cases h; rfl⟩

theorem of_no_failures {answer : Option LoginAttempt}
    (h : ∀ found, answer = some found → found.count = 0) :
    Checked (.ok 0) [.find (.ok answer)] where
  prior n hn := by
    cases hn
    cases answer with
    | none => simp [LockoutCall.left, LockoutCall.count]
    | some found => simp [LockoutCall.left, LockoutCall.count, h found rfl]
  advances := by simp [LockoutCall.Advances]
  fault f h := by cases h

theorem of_block (reply : Except Failure Unit) (userId : Int) :
    Checked (reply >>= fun _ => .error (.error (.maxAttemptsReached userId)))
      [.find (.ok (some found)), .block reply] where
  prior n h := by cases reply <;> cases h
  advances := by simp [LockoutCall.Advances]
  fault f h := by
    cases reply with
    | error e => exact ⟨.block (.error e), by simp, by cases h; rfl⟩
    | ok _ => cases h

theorem of_lock (reply : Except Failure Unit) (now : Instant) {seconds kept : Int}
    (hcount : found.count ≠ 0) (hs : blockSeconds? found.count = some seconds) (hkept : 0 < kept) :
    Checked (reply >>= fun _ =>
        if 0 < seconds then .error (.error (.loginLocked (now.later seconds))) else .ok found.count)
      [.find (.ok (some found)), .put (record now seconds (found.count + 1)) kept reply] := by
  obtain ⟨hle, -, -, hlock⟩ := blockSeconds?_bounds hs
  refine ⟨fun n h => ?_, ?_, fun f h => ?_⟩
  · obtain ⟨-, -, h⟩ := of_bind_ok h
    split at h
    · cases h
    · cases h
      have hone : found.count ≤ 1 := by omega
      exact ⟨hone, by simp [LockoutCall.left, LockoutCall.count, record]⟩
  · intro call hcall
    rcases List.mem_cons.mp hcall with rfl | hcall
    · exact trivial
    · obtain rfl := List.mem_singleton.mp hcall
      have hlow : 2 ≤ found.count + 1 := by omega
      have hhigh : found.count + 1 ≤ 8 := by omega
      exact ⟨hlow, hhigh, hkept⟩
  · cases reply with
    | error e =>
      refine ⟨.put (record now seconds (found.count + 1)) kept (.error e), by simp, ?_⟩
      cases h
      rfl
    | ok _ =>
      change (if 0 < seconds then _ else _) = _ at h
      split at h <;> cases h

end Checked

theorem makes_check (stores : Stores σ) (user : User) {w : World σ} (hnow : FarFromEnd w.now) :
    ∃ answer calls s, Makes stores user.id (check stores user) w answer calls s ∧
      Checked answer calls := by
  obtain ⟨reply, s, hfind⟩ := Makes.find stores user.id w
  unfold check
  match reply, hfind with
  | .error f, hfind => exact ⟨_, _, s, hfind.bind_error, .of_error f⟩
  | .ok none, hfind => exact ⟨_, _, s, hfind.bind_ok (.of_run rfl), .of_no_failures nofun⟩
  | .ok (some found), hfind =>
    by_cases hcount : found.count = 0
    · refine ⟨.ok 0, _, s, hfind.bind_ok (.of_run ?_), .of_no_failures ?_⟩
      · simp only [hcount, if_true]
        rfl
      · rintro _ ⟨⟩
        exact hcount
    · cases hs : blockSeconds? found.count with
      | none =>
        obtain ⟨reply, s₁, hblock⟩ := makes_block (α := Nat) stores user { w with stores := s }
        refine ⟨_, _, s₁, hfind.bind_ok ?_, .of_block reply user.id⟩
        simp only [hs, hcount, if_false]
        exact hblock
      | some seconds =>
        obtain ⟨kept, reply, s₁, hkept, hlock⟩ :=
          makes_lock stores user (w := { w with stores := s }) hnow hs
        refine ⟨_, _, s₁, hfind.bind_ok ?_, .of_lock reply w.now hcount hs hkept⟩
        simp only [hs, hcount, if_false]
        exact hlock

/-! ### The comparison -/

/-- One failure more than the check gave, which are not fewer than it left, is kept for longer than no
time. -/
structure Raises (prior left : Nat) (record : LoginAttempt) (seconds : Int) : Prop where
  count : record.count = prior + 1
  left : left ≤ record.count
  seconds : 0 < seconds

/-- How a comparison goes on after the check, by what that answered and left on record. -/
inductive Continued (passwords : PasswordScheme) (user : User) (password : String) (now : Instant)
    (left : Nat) : Except Failure Nat → Except Failure Unit → List LockoutCall → Prop
  | refused (f : Failure) : Continued passwords user password now left (.error f) (.error f) []
  | unusable {prior : Nat} {reason : String}
      (hverify : passwords.verify password user.passwordHash = .error reason) :
      Continued passwords user password now left (.ok prior) (.error (.error (.internal reason))) []
  | wrong {prior : Nat} {record : LoginAttempt} {seconds : Int} (reply : Except Failure Unit)
      (hverify : passwords.verify password user.passwordHash = .ok false)
      (hraises : Raises prior left record seconds) :
      Continued passwords user password now left (.ok prior)
        (reply >>= fun _ => .error (.error .incorrectPassword)) [.put record seconds reply]
  | right {prior : Nat} (reply : Except Failure Unit)
      (hverify : passwords.verify password user.passwordHash = .ok true) :
      Continued passwords user password now left (.ok prior) reply [.put (.cleared now) 0 reply]

theorem Checked.raises {prior : Nat} {calls : List LockoutCall} (h : Checked (.ok prior) calls)
    (stores : Stores σ) (user : User) {w : World σ} (hnow : FarFromEnd w.now) :
    ∃ record kept reply s, Makes stores user.id (recordFailure stores user prior) w reply
      [.put record kept reply] s ∧ Raises prior (LockoutCall.left calls) record kept := by
  obtain ⟨hone, hleft⟩ := h.prior prior rfl
  obtain ⟨kept, reply, s, hkept, hmakes⟩ :=
    makes_recordFailure stores user hnow (blockSeconds?_of_le hone)
  exact ⟨_, kept, reply, s, hmakes, rfl, hleft, hkept⟩

theorem makes_reset (stores : Stores σ) (userId : Int) (w : World σ) :
    ∃ reply s, Makes stores userId (reset stores userId) w reply
      [.put (.cleared w.now) 0 reply] s := by
  obtain ⟨reply, s, hput⟩ := Makes.put stores userId (.cleared w.now) w
  have hleft : (LoginAttempt.cleared w.now).secondsLeft w.now = 0 := Instant.secondsSince_self w.now
  rw [hleft] at hput
  exact ⟨reply, s, .of_bind (Action.runOn_clock w) hput⟩

/-- Whatever is on record for a user, at least two days before the end of the calendar no count and
no date gets out of range. A check goes on with no failure or with one only, keeps counts from two to
eight for longer than no time, and has no fault but those of the stores. So a wrong password is never
what blocks the account: it is one failure more, also if the clock has gone on since the check, and
with it there are not fewer failures than the check has left on record. -/
theorem counts_in_range (app : App σ) (user : User) (password : String) (w : World σ)
    (hnow : FarFromEnd w.now) :
    ∃ checked first s₁, Makes app.stores user.id (check app.stores user) w checked first s₁ ∧
      Checked checked first ∧
      (∀ prior, checked = .ok prior → ∀ v : World σ, FarFromEnd v.now → ∃ record kept reply s,
        Makes app.stores user.id (recordFailure app.stores user prior) v reply
          [.put record kept reply] s ∧ Raises prior (LockoutCall.left first) record kept) ∧
      ∃ answer rest s₂, Makes app.stores user.id (app.validatePassword user password) w answer
          (first ++ rest) s₂ ∧
        Continued app.passwords user password w.now (LockoutCall.left first) checked answer rest := by
  obtain ⟨checked, first, s₁, hcheck, hchecked⟩ := makes_check app.stores user hnow
  refine ⟨checked, first, s₁, hcheck, hchecked, ?_, ?_⟩
  · rintro prior rfl v hv
    exact hchecked.raises app.stores user hv
  unfold App.validatePassword
  cases checked with
  | error f =>
    refine ⟨.error f, [], s₁, ?_, .refused f⟩
    rw [List.append_nil]
    exact hcheck.bind_error
  | ok prior =>
    cases hverify : app.passwords.verify password user.passwordHash with
    | error reason =>
      exact ⟨_, _, s₁, hcheck.bind_ok (.of_run rfl), .unusable hverify⟩
    | ok matched =>
      cases matched with
      | false =>
        obtain ⟨record, kept, reply, s₂, hmakes, hraises⟩ :=
          hchecked.raises app.stores user (w := { w with stores := s₁ }) hnow
        refine ⟨_, _, s₂, hcheck.bind_ok ?_, .wrong reply hverify hraises⟩
        cases reply with
        | error f => exact hmakes.bind_error
        | ok _ => exact hmakes.bind_ok (.of_run rfl)
      | true =>
        obtain ⟨reply, s₂, hreset⟩ := makes_reset app.stores user.id { w with stores := s₁ }
        exact ⟨reply, _, s₂, hcheck.bind_ok hreset, .right reply hverify⟩

end Lockout

namespace Sample

open Lockout

/-- Stores with one record for everybody, which write down every call of a lockout. -/
def ledger (record : LoginAttempt) : Stores (List LockoutCall) :=
  let wire : SqlWire (List LockoutCall) := ⟨fun _ s => (.error .noRow, s)⟩
  { users := { wire.userStore with
      setStatus := fun _ _ _ s => (.ok (), s ++ [.block (.ok ())]) }
    sessions := wire.sessionStore
    attempts := {
      find := fun _ _ s => (.ok (some record), s ++ [.find (.ok (some record))])
      put := fun _ next seconds _ s => (.ok (), s ++ [.put next seconds (.ok ())])
      checkHealth := fun _ s => (.ok (), s) }
    policies := wire.policyStore }

theorem ledger_writes {record : LoginAttempt} {userId : Int} {now : Instant} (call : LockoutCall)
    (s s₁ : List LockoutCall) (h : Answers (ledger record) userId now s call s₁) :
    s₁ = s ++ [call] := by
  cases h <;> rfl

/-- Seven failures are on record, with dates that make no sense; what is kept for them is in range. -/
theorem edited_record_in_range :
    let app : App (List LockoutCall) := { service.app with stores := ledger ⟨7, .last, .first⟩ }
    let w : World (List LockoutCall) := { world with stores := [] }
    FarFromEnd w.now ∧ ∀ call ∈ ((check app.stores user).runOn w).2.stores, call.Advances := by
  intro app w
  have hnow : FarFromEnd w.now := by decide +kernel
  obtain ⟨checked, first, s₁, hcheck, hchecked, -⟩ := counts_in_range app user "guess" w hnow
  have hwritten : s₁ = [] ++ first := hcheck.performs.written ledger_writes
  refine ⟨hnow, ?_⟩
  rw [hcheck.run, hwritten]
  exact hchecked.advances

end Sample

end Turnstile
