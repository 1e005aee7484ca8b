import Turnstile.Password.Argon2
import Turnstile.Proofs.Cache.Refinement
import Turnstile.Proofs.Lockout.Comparison

/-!
A stored hash that cannot be used. No password is compared with it, but the check that comes
before has noted a second failure already where one counts. Without failures nothing is noted,
and from the second on the hash is not looked at.
-/

namespace Turnstile

namespace Lockout

/-- The check touches the attempts alone. -/
theorem checked_eq (s : MemoryState) (userId : Int) (now : Instant) :
    checked s userId now = { s with attempts := (checked s userId now).attempts } := by
  unfold checked MemoryState.dropExpired
  split
  · cases s.attempts.find? userId with
    | none => rfl
    | some row =>
      dsimp only
      split <;> rfl
  · rfl

/-- Without failures the check notes nothing. -/
theorem liveAttempt?_checked {s : MemoryState} {userId : Int} {now : Instant}
    (hnone : s.failures userId now = 0) (id : Int) {later : Instant}
    (hlater : now.nanos ≤ later.nanos) :
    (checked s userId now).liveAttempt? id later = s.liveAttempt? id later := by
  rw [checked, if_pos hnone, s.liveAttempt?_dropExpired_later userId id hlater]

/-- After the first failure it notes a second. -/
theorem find?_checked_of_one {s : MemoryState} {userId : Int} {now : Instant}
    (hone : s.failures userId now = 1) :
    (checked s userId now).attempts.find? userId =
      some (record now 0 2, now.later (graceSeconds 2)) := by
  rw [checked, if_neg (by omega), MemoryState.find?_keep_self]
  rfl

/-- The comparison comes to the hash where no lock stands before it. -/
theorem Compared.internal_iff {m : MemoryService} {user : User} {password : String}
    {now : Instant} {s t : MemoryState} {answer : Except Failure Unit} {reason : String}
    (h : Compared m user password now s answer t)
    (hverify : m.passwords.verify password user.passwordHash = .error reason) :
    answer = .error (.error (.internal reason)) ↔
      s.failures user.id now ≤ 1 ∧ (s.failures user.id now = 1 → Recordable now 0 2) := by
  cases h with
  | right _ _ hright =>
    rw [hverify] at hright
    cases hright
  | wrong _ _ hwrong =>
    rw [hverify] at hwrong
    cases hwrong
  | unusable hle hdates hother =>
    rw [hverify] at hother
    cases hother
    exact iff_of_true rfl ⟨hle, hdates⟩
  | locked hmany => exact iff_of_false (fun h => nomatch h) (by omega)
  | blocked hmany => exact iff_of_false (fun h => nomatch h) (by omega)
  | missing hmany => exact iff_of_false (fun h => nomatch h) (by omega)
  | undated hs hdates hwrong =>
    refine iff_of_false (fun h => nomatch h) ?_
    rintro ⟨hle, hone⟩
    rcases Nat.le_one_iff_eq_zero_or_eq_one.mp hle with hzero | heq
    · have hwrong := hwrong hzero
      rw [hverify] at hwrong
      cases hwrong
    · rw [heq] at hs hdates
      cases hs
      exact hdates (hone heq)

/-- A hash that cannot be used is a fault of the service if no failure counts, and also if one
counts and the record of a second one has dates. Then nothing changes but the attempts. If none
counts, they look as before from then on; but one failure of the user becomes two, which are kept
for ten minutes. -/
theorem unusable_hash (m : MemoryService) (user : User) (password : String)
    (w : World MemoryState) {reason : String}
    (hverify : m.passwords.verify password user.passwordHash = .error reason) :
    let failures := w.stores.failures user.id w.now
    let run := (m.app.validatePassword user password).runOn w
    let s := run.2.stores
    (run.1 = .error (.error (.internal reason)) ↔
      failures ≤ 1 ∧ (failures = 1 → Recordable w.now 0 2)) ∧
    (run.1 = .error (.error (.internal reason)) →
      run.2 = { w with stores := { w.stores with attempts := s.attempts } } ∧
      (failures = 0 → ∀ userId later, w.now.nanos ≤ later.nanos →
        s.liveAttempt? userId later = w.stores.liveAttempt? userId later) ∧
      (failures = 1 →
        s.attempts.find? user.id = some (record w.now 0 2, w.now.later 600) ∧
          ∀ userId, userId ≠ user.id →
            s.attempts.find? userId = w.stores.attempts.find? userId)) := by
  obtain ⟨answer, s, hrun, hcompared⟩ := validatePassword_compared m user password w
  rw [hrun]
  refine ⟨hcompared.internal_iff hverify, fun hinternal => ?_⟩
  dsimp only at hinternal ⊢
  subst hinternal
  cases hcompared with
  | unusable =>
    refine ⟨congrArg (fun stores => { w with stores := stores }) (checked_eq ..),
      fun hnone userId later hlater => liveAttempt?_checked hnone userId hlater,
      fun hone => ⟨find?_checked_of_one hone, fun userId hne => ?_⟩⟩
    exact find?_checked_of_ne w.stores hne.symm w.now

end Lockout

/-! ### A text that is no hash -/

namespace Sample

/-- The service with the hashes of Argon2, among which that of the user is none. -/
def argonService : MemoryService := { service with passwords := Argon2.scheme }

/-- Without failures the fault leaves no trace. -/
theorem fault_without_failures :
    let run := (argonService.app.validatePassword user "secret").runOn world
    run.1 = .error (.error (.internal
        "Invalid password hash format: password hash string missing field")) ∧
      run.2.stores.liveAttempt? 1 (.ofSeconds 0) = none := by
  intro run
  have hverify : argonService.passwords.verify "secret" user.passwordHash =
      .error "Invalid password hash format: password hash string missing field" := by
    decide +kernel
  obtain ⟨hiff, hleaves⟩ := Lockout.unusable_hash argonService user "secret" world hverify
  have hinternal := hiff.mpr (by decide +kernel)
  obtain ⟨-, hkept, -⟩ := hleaves hinternal
  exact ⟨hinternal, hkept (by decide +kernel) 1 (.ofSeconds 0) (Int.le_refl _)⟩

/-- One failure is two after the fault. -/
theorem fault_counts_as_failure :
    let w := { world with stores := world.stores.keep 1 (Lockout.record (.ofSeconds 0) 0 1) }
    let run := (argonService.app.validatePassword user "secret").runOn w
    run.1 = .error (.error (.internal
        "Invalid password hash format: password hash string missing field")) ∧
      w.stores.failures 1 (.ofSeconds 0) = 1 ∧ run.2.stores.failures 1 (.ofSeconds 0) = 2 := by
  decide +kernel

end Sample

end Turnstile
