import Turnstile.Proofs.Lockout.Record
import Turnstile.Proofs.MemoryService

/-!
One comparison of a password under the lockout. What it does is decided by the
failures that count: none or one lets the password decide, two to seven refuse
and write the next record, more block the account. `Compared` says so for the
whole comparison.
-/

namespace Turnstile.Lockout

/-! ### The parts of a comparison -/

/-- The life of a record after a failure that does not block the account. -/
theorem life_bounds {prior : Nat} {seconds : Int}
    (hs : blockSeconds? prior = some seconds) :
    0 < seconds + graceSeconds (prior + 1) ∧
      seconds + graceSeconds (prior + 1) ≤ 88800 := by
  obtain ⟨hcount, h₀, hle, -⟩ := blockSeconds?_bounds hs
  unfold graceSeconds
  omega

section Parts

variable {w : World MemoryState} {user : User} {prior : Nat} {seconds : Int}

theorem runOn_put (hs : blockSeconds? prior = some seconds) (userId : Int)
    (h : Recordable w.now seconds (prior + 1)) :
    (put MemoryState.stores userId (record w.now seconds (prior + 1))).runOn w =
      (.ok (),
        { w with stores := w.stores.keep userId (record w.now seconds (prior + 1)) }) := by
  obtain ⟨hpos, hle⟩ := life_bounds hs
  have hleft : (record w.now seconds (prior + 1)).secondsLeft w.now =
      seconds + graceSeconds (prior + 1) := Instant.secondsSince_later ..
  have hput : MemoryState.putAttempt userId (record w.now seconds (prior + 1))
      (seconds + graceSeconds (prior + 1)) w.now w.stores =
        (.ok (), w.stores.keep userId (record w.now seconds (prior + 1))) := by
    have hspan := countable_of_le (Int.le_of_lt hpos) hle
    unfold MemoryState.putAttempt
    rw [if_neg (by omega), Instant.addSeconds?_of_inCalendar hspan h.2]
    rfl
  unfold put
  rw [Action.runOn_bind_ok (Action.runOn_clock w), Action.runOn_store, hleft]
  exact congrArg (fun r => (r.1, { w with stores := r.2 })) hput

theorem runOn_reset (w : World MemoryState) (userId : Int) :
    (reset MemoryState.stores userId).runOn w =
      (.ok (), { w with stores := w.stores.forget userId }) := by
  have hleft : (LoginAttempt.cleared w.now).secondsLeft w.now = 0 :=
    Instant.secondsSince_self w.now
  unfold reset put
  rw [Action.runOn_bind_ok (Action.runOn_clock w), Action.runOn_bind_ok (Action.runOn_clock w),
    Action.runOn_store, hleft]
  rfl

theorem runOn_findAttempt (w : World MemoryState) (userId : Int) :
    (Action.store (MemoryState.stores.attempts.find userId)).runOn w =
      (.ok (w.stores.liveAttempt? userId w.now),
        { w with stores := w.stores.dropExpired userId w.now }) := by
  rw [Action.runOn_store]
  exact congrArg (fun r => (r.1, { w with stores := r.2 }))
    (MemoryState.findAttempt_eq w.stores userId w.now)

theorem runOn_check_of_none (h : w.stores.failures user.id w.now = 0) :
    (check MemoryState.stores user).runOn w =
      (.ok 0, { w with stores := w.stores.dropExpired user.id w.now }) := by
  unfold check
  rw [Action.runOn_bind_ok (runOn_findAttempt w user.id)]
  unfold MemoryState.failures at h
  cases hlive : w.stores.liveAttempt? user.id w.now with
  | none => rfl
  | some found =>
    rw [hlive] at h
    dsimp only [Option.elim] at h ⊢
    rw [if_pos h]
    rfl

/-- With failures that count, the check goes by the lock for them. -/
theorem runOn_check_of_some (hn : w.stores.failures user.id w.now = prior + 1) :
    (check MemoryState.stores user).runOn w =
      Action.runOn (match blockSeconds? (prior + 1) with
        | none => block MemoryState.stores user
        | some seconds => do
          let now ← Action.clock
          let next ← Action.ofExcept (nextRecord now seconds (prior + 2))
          put MemoryState.stores user.id next
          if now.before next.blockedUntil then Action.fail (.loginLocked next.blockedUntil)
          return prior + 1) w := by
  have hsome : w.stores.failures user.id w.now ≠ 0 := by omega
  obtain ⟨found, hlive, hcount⟩ := MemoryState.live_of_failures hsome
  rw [hn] at hcount
  unfold check
  rw [Action.runOn_bind_ok (runOn_findAttempt w user.id), hlive,
    MemoryState.dropExpired_of_live hlive]
  dsimp only
  rw [hcount]
  exact congrArg (fun a => Action.runOn a w) (if_neg (Nat.succ_ne_zero prior))

/-- As long as there is a lock for it, the count goes up before the password
is looked at. -/
theorem runOn_check_of_recordable (hn : w.stores.failures user.id w.now = prior + 1)
    (hs : blockSeconds? (prior + 1) = some seconds)
    (h : Recordable w.now seconds (prior + 2)) :
    (check MemoryState.stores user).runOn w =
      (if 0 < seconds then .error (.error (.loginLocked (w.now.later seconds)))
        else .ok (prior + 1),
        { w with stores := w.stores.keep user.id (record w.now seconds (prior + 2)) }) := by
  have hnext : (Action.ofExcept (nextRecord w.now seconds (prior + 2))).runOn w =
      (.ok (record w.now seconds (prior + 2)), w) := by
    rw [nextRecord_of_recordable hs h, Action.runOn_ofExcept]
  rw [runOn_check_of_some hn, hs]
  dsimp only
  rw [Action.runOn_bind_ok (Action.runOn_clock w), Action.runOn_bind_ok hnext,
    Action.runOn_bind_ok (runOn_put hs user.id h)]
  change Action.runOn (if w.now.before (w.now.later seconds) = true then _ else _) _ = _
  by_cases hpos : 0 < seconds
  · rw [if_pos ((Instant.before_later_iff w.now seconds).mpr hpos), if_pos hpos]
    rfl
  · rw [if_neg (fun h => hpos ((Instant.before_later_iff w.now seconds).mp h)), if_neg hpos]
    rfl

theorem runOn_check_of_not_recordable (hn : w.stores.failures user.id w.now = prior + 1)
    (hs : blockSeconds? (prior + 1) = some seconds)
    (h : ¬ Recordable w.now seconds (prior + 2)) :
    (check MemoryState.stores user).runOn w = (.error (.fault .timeOutOfRange), w) := by
  have hnext : (Action.ofExcept (nextRecord w.now seconds (prior + 2))).runOn w =
      (.error (.fault .timeOutOfRange), w) := by
    rw [nextRecord_of_not h, Action.runOn_ofExcept]
  rw [runOn_check_of_some hn, hs]
  dsimp only
  rw [Action.runOn_bind_ok (Action.runOn_clock w), Action.runOn_bind_error hnext]

theorem runOn_setStatus (w : World MemoryState) (userId : Int) (status : UserStatus) :
    (Action.store (MemoryState.stores.users.setStatus userId status)).runOn w =
      if w.stores.users.contains userId then
        (.ok (), { w with stores := w.stores.giveStatus userId status w.now })
      else (.error (.error (.userNotFound userId)), w) := by
  rw [Action.runOn_store]
  change ((MemoryState.setStatus userId status w.now w.stores).1,
    { w with stores := (MemoryState.setStatus userId status w.now w.stores).2 }) = _
  unfold MemoryState.setStatus
  split <;> rfl

/-- Beyond the longest lock the account is blocked, and the record stays as it
is. -/
theorem runOn_check_of_many (hn : 8 ≤ w.stores.failures user.id w.now) :
    (check MemoryState.stores user).runOn w =
      if w.stores.users.contains user.id then
        (.error (.error (.maxAttemptsReached user.id)),
          { w with stores := w.stores.giveStatus user.id .blocked w.now })
      else (.error (.error (.userNotFound user.id)), w) := by
  obtain ⟨prior, hprior⟩ : ∃ prior, w.stores.failures user.id w.now = prior + 1 :=
    ⟨w.stores.failures user.id w.now - 1, by omega⟩
  rw [runOn_check_of_some hprior, blockSeconds?_eq_none_iff.mpr (by omega)]
  dsimp only
  unfold block
  rw [Action.runOn_bind, runOn_setStatus]
  cases w.stores.users.contains user.id <;> rfl

theorem runOn_recordFailure (hs : blockSeconds? prior = some seconds)
    (h : Recordable w.now seconds (prior + 1)) :
    (recordFailure MemoryState.stores user prior).runOn w =
      (.ok (),
        { w with stores := w.stores.keep user.id (record w.now seconds (prior + 1)) }) := by
  have hnext : (Action.ofExcept (nextRecord w.now seconds (prior + 1))).runOn w =
      (.ok (record w.now seconds (prior + 1)), w) := by
    rw [nextRecord_of_recordable hs h, Action.runOn_ofExcept]
  unfold recordFailure
  rw [hs]
  dsimp only
  rw [Action.runOn_bind_ok (Action.runOn_clock w), Action.runOn_bind_ok hnext,
    runOn_put hs user.id h]

theorem runOn_recordFailure_of_not (hs : blockSeconds? prior = some seconds)
    (h : ¬ Recordable w.now seconds (prior + 1)) :
    (recordFailure MemoryState.stores user prior).runOn w =
      (.error (.fault .timeOutOfRange), w) := by
  have hnext : (Action.ofExcept (nextRecord w.now seconds (prior + 1))).runOn w =
      (.error (.fault .timeOutOfRange), w) := by
    rw [nextRecord_of_not h, Action.runOn_ofExcept]
  unfold recordFailure
  rw [hs]
  dsimp only
  rw [Action.runOn_bind_ok (Action.runOn_clock w), Action.runOn_bind_error hnext]

end Parts

/-! ### The comparison -/

/-- The state in which the password is looked at: with one failure, the second
is noted already. -/
def checked (s : MemoryState) (userId : Int) (now : Instant) : MemoryState :=
  if s.failures userId now = 0 then s.dropExpired userId now
  else s.keep userId (record now 0 2)

/-- What a comparison answers, and the state that it leaves. -/
inductive Compared (m : MemoryService) (user : User) (password : String) (now : Instant)
    (s : MemoryState) : Except Failure Unit → MemoryState → Prop
  | right (hn : s.failures user.id now ≤ 1)
      (hdates : s.failures user.id now = 1 → Recordable now 0 2)
      (hverify : m.passwords.verify password user.passwordHash = .ok true) :
      Compared m user password now s (.ok ()) (s.forget user.id)
  | wrong (hn : s.failures user.id now ≤ 1)
      (hdates : Recordable now 0 (s.failures user.id now + 1))
      (hverify : m.passwords.verify password user.passwordHash = .ok false) :
      Compared m user password now s (.error (.error .incorrectPassword))
        ((checked s user.id now).keep user.id (record now 0 (s.failures user.id now + 1)))
  | unusable {reason : String} (hn : s.failures user.id now ≤ 1)
      (hdates : s.failures user.id now = 1 → Recordable now 0 2)
      (hverify : m.passwords.verify password user.passwordHash = .error reason) :
      Compared m user password now s (.error (.error (.internal reason)))
        (checked s user.id now)
  | locked {seconds : Int} (hn : 2 ≤ s.failures user.id now)
      (hs : blockSeconds? (s.failures user.id now) = some seconds)
      (hdates : Recordable now seconds (s.failures user.id now + 1)) :
      Compared m user password now s (.error (.error (.loginLocked (now.later seconds))))
        (s.keep user.id (record now seconds (s.failures user.id now + 1)))
  | blocked (hn : 8 ≤ s.failures user.id now) (huser : s.users.contains user.id = true) :
      Compared m user password now s (.error (.error (.maxAttemptsReached user.id)))
        (s.giveStatus user.id .blocked now)
  | missing (hn : 8 ≤ s.failures user.id now) (huser : s.users.contains user.id = false) :
      Compared m user password now s (.error (.error (.userNotFound user.id))) s
  | undated {seconds : Int} (hs : blockSeconds? (s.failures user.id now) = some seconds)
      (hdates : ¬ Recordable now seconds (s.failures user.id now + 1))
      (hverify : s.failures user.id now = 0 →
        m.passwords.verify password user.passwordHash = .ok false) :
      Compared m user password now s (.error (.fault .timeOutOfRange))
        (s.dropExpired user.id now)

theorem checked_frame (s : MemoryState) (userId : Int) (now : Instant) :
    (checked s userId now).users = s.users ∧
      (checked s userId now).sessions = s.sessions := by
  unfold checked
  split
  · exact s.dropExpired_frame userId now
  · exact ⟨rfl, rfl⟩

theorem find?_checked_of_ne (s : MemoryState) {userId id : Int} (h : userId ≠ id)
    (now : Instant) :
    (checked s userId now).attempts.find? id = s.attempts.find? id := by
  unfold checked
  split
  · exact s.find?_dropExpired_of_ne h now
  · rw [MemoryState.find?_keep, if_neg h]

theorem checked_forget (s : MemoryState) (userId : Int) (now : Instant) :
    (checked s userId now).forget userId = s.forget userId := by
  unfold checked
  split
  · unfold MemoryState.dropExpired
    split
    · split
      · simp only [MemoryState.forget, Table.erase_erase]
      · rfl
    · rfl
  · simp only [MemoryState.forget, MemoryState.keep, Table.erase_put]

section Comparison

variable {m : MemoryService} {user : User} {w : World MemoryState} {password : String}

theorem runOn_validatePassword {prior : Nat} {w₁ : World MemoryState}
    (h : (check MemoryState.stores user).runOn w = (.ok prior, w₁)) :
    (m.app.validatePassword user password).runOn w =
      Action.runOn (match m.passwords.verify password user.passwordHash with
        | .error reason => Action.fail (.internal reason)
        | .ok false => do
          recordFailure MemoryState.stores user prior
          Action.fail .incorrectPassword
        | .ok true => reset MemoryState.stores user.id) w₁ := by
  unfold App.validatePassword
  rw [MemoryService.app_stores, Action.runOn_bind_ok h]
  rfl

theorem runOn_validatePassword_of_error {f : Failure} {w₁ : World MemoryState}
    (h : (check MemoryState.stores user).runOn w = (.error f, w₁)) :
    (m.app.validatePassword user password).runOn w = (.error f, w₁) := by
  unfold App.validatePassword
  rw [MemoryService.app_stores, Action.runOn_bind_error h]

/-- With at most one failure the password decides. -/
theorem compared_of_checked (hn : w.stores.failures user.id w.now ≤ 1)
    (hdates : w.stores.failures user.id w.now = 1 → Recordable w.now 0 2)
    (h : (check MemoryState.stores user).runOn w =
      (.ok (w.stores.failures user.id w.now),
        { w with stores := checked w.stores user.id w.now })) :
    ∃ answer s,
      (m.app.validatePassword user password).runOn w = (answer, { w with stores := s }) ∧
      Compared m user password w.now w.stores answer s := by
  have hs := blockSeconds?_of_le hn
  cases hverify : m.passwords.verify password user.passwordHash with
  | error reason =>
    refine ⟨_, _, ?_, .unusable hn hdates hverify⟩
    rw [runOn_validatePassword h, hverify]
    rfl
  | ok same =>
    cases same with
    | true =>
      refine ⟨_, _, ?_, .right hn hdates hverify⟩
      rw [runOn_validatePassword h, hverify]
      -- Whatever the check has noted goes with the record.
      exact (runOn_reset _ user.id).trans (by rw [checked_forget])
    | false =>
      by_cases hr : Recordable w.now 0 (w.stores.failures user.id w.now + 1)
      · refine ⟨_, _, ?_, .wrong hn hr hverify⟩
        rw [runOn_validatePassword h, hverify]
        exact Action.runOn_bind_ok (runOn_recordFailure hs hr)
      · -- A second failure would have been undated in the check already.
        have hzero : w.stores.failures user.id w.now = 0 := by
          rcases Nat.le_one_iff_eq_zero_or_eq_one.mp hn with hzero | hone
          · exact hzero
          · exact absurd (by rw [hone]; exact hdates hone) hr
        refine ⟨_, _, ?_, .undated hs hr fun _ => hverify⟩
        rw [runOn_validatePassword h, hverify]
        dsimp only
        have hfail : (recordFailure MemoryState.stores user
            (w.stores.failures user.id w.now)).runOn
              { w with stores := checked w.stores user.id w.now } =
            (.error (.fault .timeOutOfRange),
              { w with stores := checked w.stores user.id w.now }) :=
          runOn_recordFailure_of_not hs hr
        refine (Action.runOn_bind_error hfail).trans ?_
        rw [checked, if_pos hzero]

/-- With failures that count, the check goes by the lock for them. -/
theorem compared_of_locks {prior : Nat} {seconds : Int}
    (hn : w.stores.failures user.id w.now = prior + 1)
    (hs : blockSeconds? (prior + 1) = some seconds) :
    ∃ answer s,
      (m.app.validatePassword user password).runOn w = (answer, { w with stores := s }) ∧
      Compared m user password w.now w.stores answer s := by
  obtain ⟨-, h₀, -, hpos⟩ := blockSeconds?_bounds hs
  by_cases hr : Recordable w.now seconds (prior + 2)
  · have hcheck := runOn_check_of_recordable hn hs hr
    by_cases hlock : 0 < seconds
    · rw [if_pos hlock] at hcheck
      have htwo : 2 ≤ w.stores.failures user.id w.now := by
        rw [hn]
        exact hpos.mp hlock
      have hstep : Compared m user password w.now w.stores _ _ :=
        .locked htwo (by rw [hn]; exact hs) (by rw [hn]; exact hr)
      rw [hn] at hstep
      exact ⟨_, _, runOn_validatePassword_of_error hcheck, hstep⟩
    · rw [if_neg hlock] at hcheck
      -- Without a lock there is one failure, and the check has noted a second.
      obtain rfl : seconds = 0 := by omega
      obtain rfl : prior = 0 := by omega
      refine compared_of_checked (by omega) (fun _ => hr) ?_
      rw [hcheck, checked, if_neg (by omega), hn]
  · have hcheck := runOn_check_of_not_recordable hn hs hr
    have hstep : Compared m user password w.now w.stores _ _ :=
      .undated (by rw [hn]; exact hs) (by rw [hn]; exact hr) (by omega)
    -- The record counts, so there was none to drop.
    have hsome : w.stores.failures user.id w.now ≠ 0 := by omega
    obtain ⟨found, hlive, -⟩ := MemoryState.live_of_failures hsome
    rw [MemoryState.dropExpired_of_live hlive] at hstep
    exact ⟨_, _, runOn_validatePassword_of_error hcheck, hstep⟩

/-- Every comparison answers and leaves what `Compared` says, and touches
nothing but the stores. -/
theorem validatePassword_compared (m : MemoryService) (user : User) (password : String)
    (w : World MemoryState) :
    ∃ answer s,
      (m.app.validatePassword user password).runOn w = (answer, { w with stores := s }) ∧
      Compared m user password w.now w.stores answer s := by
  cases hn : w.stores.failures user.id w.now with
  | zero =>
    refine compared_of_checked (by omega) (by omega) ?_
    rw [runOn_check_of_none hn, checked, if_pos hn, hn]
  | succ prior =>
    cases hs : blockSeconds? (prior + 1) with
    | some seconds => exact compared_of_locks hn hs
    | none =>
      have hmany : 8 ≤ w.stores.failures user.id w.now := by
        rw [hn]
        exact blockSeconds?_eq_none_iff.mp hs
      have hcheck := runOn_check_of_many hmany
      cases huser : w.stores.users.contains user.id with
      | true =>
        rw [huser, if_pos rfl] at hcheck
        exact ⟨_, _, runOn_validatePassword_of_error hcheck, .blocked hmany huser⟩
      | false =>
        rw [huser, if_neg Bool.false_ne_true] at hcheck
        exact ⟨_, _, runOn_validatePassword_of_error hcheck, .missing hmany huser⟩

theorem compared_of_runOn {answer : Except Failure Unit} {s : MemoryState}
    (h : (m.app.validatePassword user password).runOn w = (answer, { w with stores := s })) :
    Compared m user password w.now w.stores answer s := by
  obtain ⟨other, t, hrun, hcompared⟩ := validatePassword_compared m user password w
  rw [h] at hrun
  cases hrun
  exact hcompared

end Comparison

end Turnstile.Lockout
