import Turnstile.Proofs.Lockout.Comparison

/-!
The lockout as a machine. It counts the failures of one user in a row, and
`Promised` is what it owes to the next call by that number alone. The count
that is stored is the number of failures as far as there is a lock for it;
`Counted` says so, and every call preserves it.
-/

namespace Turnstile.Lockout

/-- One call for a user: when, and with which password. -/
structure Guess where
  moment : Instant
  password : String

/-- A world, and how many calls failed in a row up to now. -/
structure Watch where
  world : World MemoryState
  streak : Nat

namespace Watch

variable (m : MemoryService) (user : User)

/-- How many failures in a row the next call has before it: the row ends when
the record expires. -/
def streakAt (v : Watch) (now : Instant) : Nat :=
  if (v.world.stores.liveAttempt? user.id now).isSome then v.streak else 0

/-- The next call: its answer, and the world after it. -/
def call (v : Watch) (g : Guess) : Except Failure Unit × World MemoryState :=
  (m.app.validatePassword user g.password).runOn { v.world with now := g.moment }

/-- After the next call. A success ends the row, and a refusal makes it
longer; a fault is neither. -/
def step (v : Watch) (g : Guess) : Watch :=
  { world := (v.call m user g).2
    streak := match (v.call m user g).1 with
      | .ok _ => 0
      | .error (.error _) => v.streakAt user g.moment + 1
      | .error (.fault _) => v.streakAt user g.moment }

/-- After a run of calls. -/
def run (w : World MemoryState) (calls : List Guess) : Watch :=
  calls.foldl (step m user) ⟨w, 0⟩

end Watch

/-- What the lockout owes to a call with `n` failures in a row before it. -/
inductive Promised (m : MemoryService) (user : User) (g : Guess) (n : Nat)
    (before after : MemoryState) : Except Failure Unit → Prop
  | accepted (hn : n ≤ 1) (hdates : n = 1 → Recordable g.moment 0 2)
      (hverify : m.passwords.verify g.password user.passwordHash = .ok true)
      (hrow : after.attempts.find? user.id = none) :
      Promised m user g n before after (.ok ())
  | rejected (hn : n ≤ 1) (hdates : Recordable g.moment 0 (n + 1))
      (hverify : m.passwords.verify g.password user.passwordHash = .ok false)
      (hrow : after.attempts.find? user.id =
        some (record g.moment 0 (n + 1), g.moment.later (300 * (n + 1)))) :
      Promised m user g n before after (.error (.error .incorrectPassword))
  | locked {seconds : Int} (hlow : 2 ≤ n) (hhigh : n ≤ 7)
      (hs : blockSeconds? n = some seconds) (hdates : Recordable g.moment seconds (n + 1))
      (hrow : after.attempts.find? user.id =
        some (record g.moment seconds (n + 1), g.moment.later (seconds + 300 * (n + 1)))) :
      Promised m user g n before after
        (.error (.error (.loginLocked (g.moment.later seconds))))
  | blocked (hn : 8 ≤ n) (hrow : after.attempts = before.attempts)
      (hstatus : (after.users.find? user.id).map (·.status) = some UserStatus.blocked.text) :
      Promised m user g n before after (.error (.error (.maxAttemptsReached user.id)))
  | undated {seconds : Int} (hs : blockSeconds? n = some seconds)
      (hdates : ¬ Recordable g.moment seconds (n + 1))
      (hverify : n = 0 → m.passwords.verify g.password user.passwordHash = .ok false)
      (hrow : after.liveAttempt? user.id g.moment = before.liveAttempt? user.id g.moment) :
      Promised m user g n before after (.error (.fault .timeOutOfRange))

/-! ### The count that is stored -/

/-- The user is there, and a record of failures counts those in a row as far
as there is a lock. -/
structure Counted (user : User) (v : Watch) : Prop where
  stored : v.world.stores.users.contains user.id = true
  row : ∀ found expiry, v.world.stores.attempts.find? user.id = some (found, expiry) →
    1 ≤ v.streak ∧ found.count = min v.streak 8

namespace Counted

variable {m : MemoryService} {user : User} {v : Watch}

theorem liveCount (h : Counted user v) (now : Instant) :
    (v.world.stores.liveAttempt? user.id now).map (·.count) =
      if v.streakAt user now = 0 then none else some (min (v.streakAt user now) 8) := by
  unfold Watch.streakAt
  cases hlive : v.world.stores.liveAttempt? user.id now with
  | none => rfl
  | some found =>
    obtain ⟨expiry, hrow, -⟩ := MemoryState.row_of_live hlive
    obtain ⟨hpos, hcount⟩ := h.row found expiry hrow
    rw [if_pos (Option.isSome_some ..), if_neg (by omega), Option.map_some, hcount]

theorem failures_eq (h : Counted user v) (now : Instant) :
    v.world.stores.failures user.id now = min (v.streakAt user now) 8 := by
  have hcount := h.liveCount now
  unfold MemoryState.failures
  cases hlive : v.world.stores.liveAttempt? user.id now with
  | none =>
    rw [hlive] at hcount
    by_cases hzero : v.streakAt user now = 0
    · rw [hzero]
      rfl
    · rw [if_neg hzero] at hcount
      cases hcount
  | some found =>
    rw [hlive] at hcount
    by_cases hzero : v.streakAt user now = 0
    · rw [if_pos hzero] at hcount
      cases hcount
    · rw [if_neg hzero] at hcount
      exact Option.some.inj hcount

theorem row_of_live (h : Counted user v) (now : Instant)
    (hlive : (v.world.stores.liveAttempt? user.id now).isSome) (found : LoginAttempt)
    (expiry : Instant) (hf : v.world.stores.attempts.find? user.id = some (found, expiry)) :
    1 ≤ v.streakAt user now ∧ found.count = min (v.streakAt user now) 8 := by
  unfold Watch.streakAt
  rw [if_pos hlive]
  exact h.row found expiry hf

/-- The record is the only row that has to be looked at after a call. -/
theorem of_row {n : Nat} {w : World MemoryState}
    (hstored : w.stores.users.contains user.id = true)
    {row : Option (LoginAttempt × Instant)}
    (hrow : w.stores.attempts.find? user.id = row)
    (h : ∀ found expiry, row = some (found, expiry) → 1 ≤ n ∧ found.count = min n 8) :
    Counted user ⟨w, n⟩ :=
  ⟨hstored, fun found expiry hf => h found expiry (hrow.symm.trans hf)⟩

/-- A record that was just written counts the whole row. -/
theorem of_keep {s : MemoryState} {n : Nat} {seconds : Int} {w : World MemoryState}
    {now : Instant} (hw : w.stores = s.keep user.id (record now seconds (n + 1)))
    (hstored : s.users.contains user.id = true) (hn : n ≤ 7) :
    Counted user ⟨w, n + 1⟩ := by
  have hrow := s.find?_keep_self user.id (record now seconds (n + 1))
  rw [← hw] at hrow
  refine of_row ?_ hrow ?_
  · rw [hw]
    exact hstored
  · rintro found expiry ⟨⟩
    exact ⟨Nat.le_add_left 1 n, (Nat.min_eq_left (Nat.succ_le_succ hn)).symm⟩

/-- One call keeps its promise, and the count stays right. -/
theorem call_promised (h : Counted user v) (g : Guess)
    (husable : ∃ right, m.passwords.verify g.password user.passwordHash = .ok right) :
    Promised m user g (v.streakAt user g.moment) v.world.stores (v.call m user g).2.stores
        (v.call m user g).1 ∧
      Counted user (v.step m user g) := by
  have hn := h.failures_eq g.moment
  have hrow₀ := h.row_of_live g.moment
  obtain ⟨answer, s, hrun, hc⟩ :=
    validatePassword_compared m user g.password { v.world with now := g.moment }
  have hcall : v.call m user g = (answer, { v.world with now := g.moment, stores := s }) := hrun
  unfold Watch.step
  rw [hcall]
  -- From here on the row of failures is a number; what ties it to the store is
  -- `hn` and, where a record counts, `hrow₀`.
  generalize v.streakAt user g.moment = n at hn hrow₀ ⊢
  dsimp only at hc ⊢
  cases hc with
  | right hle hdates hverify =>
    have hrow : (v.world.stores.forget user.id).attempts.find? user.id = none := by
      rw [MemoryState.find?_forget, if_pos rfl]
    refine ⟨.accepted (by omega) (fun h => hdates (by omega)) hverify hrow, ?_⟩
    exact of_row h.stored hrow (by simp)
  | wrong hle hdates hverify =>
    have hcount : v.world.stores.failures user.id g.moment = n := by omega
    rw [hcount] at hle hdates ⊢
    have hrow := (checked v.world.stores user.id g.moment).find?_keep_self user.id
      (record g.moment 0 (n + 1))
    have hstored : (checked v.world.stores user.id g.moment).users.contains user.id = true := by
      rw [(checked_frame ..).1]
      exact h.stored
    have hseven : n ≤ 7 := Nat.le_trans hle (by decide)
    refine ⟨.rejected hle hdates hverify ?_, of_keep rfl hstored hseven⟩
    rw [hrow, record, Int.zero_add]
    exact rfl
  | unusable hle hdates hverify =>
    obtain ⟨right, hright⟩ := husable
    rw [hright] at hverify
    cases hverify
  | @locked seconds htwo hs hdates =>
    obtain ⟨hseven, -, -, -⟩ := blockSeconds?_bounds hs
    have hcount : v.world.stores.failures user.id g.moment = n := by omega
    rw [hcount] at htwo hs hdates hseven ⊢
    have hrow := v.world.stores.find?_keep_self user.id (record g.moment seconds (n + 1))
    exact ⟨.locked htwo hseven hs hdates hrow, of_keep rfl h.stored hseven⟩
  | blocked hmany huser =>
    have hstatus := MemoryState.status_giveStatus h.stored .blocked g.moment
    refine ⟨.blocked (by omega) rfl hstatus, ?_⟩
    refine of_row ((MemoryState.contains_giveStatus ..).trans h.stored) rfl ?_
    intro found expiry hf
    -- The count that is stored does not grow any more, unlike the row.
    have hsome : v.world.stores.failures user.id g.moment ≠ 0 := by omega
    obtain ⟨live, hlive, -⟩ := MemoryState.live_of_failures hsome
    obtain ⟨-, hcount⟩ := hrow₀ (Option.isSome_iff_exists.mpr ⟨live, hlive⟩) found expiry hf
    change 1 ≤ n + 1 ∧ found.count = min (n + 1) 8
    omega
  | missing hmany huser =>
    rw [h.stored] at huser
    cases huser
  | @undated seconds hs hdates hverify =>
    obtain ⟨hseven, -, -, -⟩ := blockSeconds?_bounds hs
    have hcount : v.world.stores.failures user.id g.moment = n := by omega
    rw [hcount] at hs hdates hverify
    refine ⟨.undated hs hdates hverify (MemoryState.liveAttempt?_dropExpired ..), ?_⟩
    refine of_row ?_ rfl ?_
    · change (v.world.stores.dropExpired user.id g.moment).users.contains user.id = true
      rw [(MemoryState.dropExpired_frame ..).1]
      exact h.stored
    · intro found expiry hf
      cases hlive : v.world.stores.liveAttempt? user.id g.moment with
      | none =>
        rw [MemoryState.find?_dropExpired_of_none hlive] at hf
        cases hf
      | some live =>
        rw [MemoryState.dropExpired_of_live hlive] at hf
        exact hrow₀ (Option.isSome_iff_exists.mpr ⟨live, hlive⟩) found expiry hf

/-- A user without a record has no failures in a row. -/
theorem start {w : World MemoryState} (hstored : w.stores.users.contains user.id = true)
    (hnone : w.stores.attempts.find? user.id = none) : Counted user ⟨w, 0⟩ := by
  refine ⟨hstored, fun found expiry hf => ?_⟩
  rw [hnone] at hf
  cases hf

theorem run (h : Counted user v)
    (husable : ∀ password, ∃ right, m.passwords.verify password user.passwordHash = .ok right)
    (calls : List Guess) : Counted user (calls.foldl (Watch.step m user) v) := by
  induction calls generalizing v with
  | nil => exact h
  | cons g rest ih => exact ih (h.call_promised g (husable g.password)).2

end Counted

/-- After every run of calls for a user who had no record, the stored count is
that of the failures in a row, as far as there is a lock, and the next call
gets what the lockout owes to so many. -/
theorem run_promised (m : MemoryService) (user : User) (w : World MemoryState)
    (hstored : w.stores.users.contains user.id = true)
    (hnone : w.stores.attempts.find? user.id = none)
    (husable : ∀ password, ∃ right, m.passwords.verify password user.passwordHash = .ok right)
    (calls : List Guess) (g : Guess) :
    let v := Watch.run m user w calls
    let n := v.streakAt user g.moment
    (v.world.stores.liveAttempt? user.id g.moment).map (·.count) =
        (if n = 0 then none else some (min n 8)) ∧
      Promised m user g n v.world.stores (v.call m user g).2.stores (v.call m user g).1 := by
  have h : Counted user (Watch.run m user w calls) :=
    (Counted.start hstored hnone).run husable calls
  exact ⟨h.liveCount g.moment, (h.call_promised g (husable g.password)).1⟩

/-- After two wrong passwords even the right one has to wait. -/
theorem third_guess_promised :
    let v := Watch.run Sample.service Sample.user Sample.world
      [⟨.ofSeconds 0, "guess"⟩, ⟨.ofSeconds 1, "guess"⟩]
    let g : Guess := ⟨.ofSeconds 2, "secret"⟩
    (v.world.stores.liveAttempt? 1 g.moment).map (·.count) = some 2 ∧
      Promised Sample.service Sample.user g 2 v.world.stores
        (v.call Sample.service Sample.user g).2.stores
        (v.call Sample.service Sample.user g).1 := by
  have h := run_promised Sample.service Sample.user Sample.world rfl rfl (fun _ => ⟨_, rfl⟩)
    [⟨.ofSeconds 0, "guess"⟩, ⟨.ofSeconds 1, "guess"⟩] ⟨.ofSeconds 2, "secret"⟩
  have hn : (Watch.run Sample.service Sample.user Sample.world
      [⟨.ofSeconds 0, "guess"⟩, ⟨.ofSeconds 1, "guess"⟩]).streakAt
        Sample.user (.ofSeconds 2) = 2 := by
    decide +kernel
  dsimp only at h
  rw [hn] at h
  exact h

/-- At the end of the calendar there is no date for a record, so the first
wrong password is not refused but ends in a fault. -/
theorem last_guess_undated :
    Sample.world.stores.users.contains Sample.user.id = true ∧
      Sample.world.stores.attempts.find? Sample.user.id = none ∧
      Sample.service.passwords.verify "guess" Sample.user.passwordHash = .ok false ∧
      (Watch.call Sample.service Sample.user ⟨Sample.world, 0⟩ ⟨Instant.last, "guess"⟩).1 =
        .error (.fault .timeOutOfRange) :=
  ⟨rfl, rfl, rfl, rfl⟩

end Turnstile.Lockout
