import Turnstile.Proofs.Table
import Turnstile.Proofs.Time
import Turnstile.Service.Lockout
import Turnstile.Store.Memory

/-!
Records of failed logins in memory, as the lockout reads and writes them.
Failures count as long as their record has not expired, a record is kept until
the very instant it names, and all other rows of the table stay. The record
after a failure exists where its dates do.
-/

namespace Turnstile

namespace MemoryState

/-- The record of a user, unless it has expired. -/
def liveAttempt? (s : MemoryState) (userId : Int) (now : Instant) :
    Option LoginAttempt :=
  match s.attempts.find? userId with
  | some (attempt, expiry) => if expiry.nanos ≤ now.nanos then none else some attempt
  | none => none

/-- How many failures of a user count. -/
def failures (s : MemoryState) (userId : Int) (now : Instant) : Nat :=
  (s.liveAttempt? userId now).elim 0 (·.count)

/-- Without the record of a user if it has expired. -/
def dropExpired (s : MemoryState) (userId : Int) (now : Instant) : MemoryState :=
  match s.attempts.find? userId with
  | some (_, expiry) =>
    if expiry.nanos ≤ now.nanos then { s with attempts := s.attempts.erase userId } else s
  | none => s

/-- With a record for a user, kept until it is to be dropped. -/
def keep (s : MemoryState) (userId : Int) (record : LoginAttempt) : MemoryState :=
  { s with attempts := s.attempts.put userId (record, record.dropAt) }

/-- Without any record of a user. -/
def forget (s : MemoryState) (userId : Int) : MemoryState :=
  { s with attempts := s.attempts.erase userId }

/-- With another status for the account of a user. -/
def giveStatus (s : MemoryState) (userId : Int) (status : UserStatus) (now : Instant) :
    MemoryState :=
  { s with users := s.users.change userId fun u =>
      { u with status := status.text, updatedAt := now } }

theorem findAttempt_eq (s : MemoryState) (userId : Int) (now : Instant) :
    findAttempt userId now s = (.ok (s.liveAttempt? userId now), s.dropExpired userId now) := by
  unfold findAttempt liveAttempt? dropExpired
  cases s.attempts.find? userId with
  | none => rfl
  | some row =>
    dsimp only
    split <;> rfl

theorem find?_keep (s : MemoryState) (userId id : Int) (record : LoginAttempt) :
    (s.keep userId record).attempts.find? id =
      if userId = id then some (record, record.dropAt) else s.attempts.find? id :=
  Table.find?_put ..

theorem find?_keep_self (s : MemoryState) (userId : Int) (record : LoginAttempt) :
    (s.keep userId record).attempts.find? userId = some (record, record.dropAt) := by
  rw [find?_keep, if_pos rfl]

theorem find?_forget (s : MemoryState) (userId id : Int) :
    (s.forget userId).attempts.find? id = if userId = id then none else s.attempts.find? id :=
  Table.find?_erase ..

/-- Only attempts are dropped. -/
theorem dropExpired_frame (s : MemoryState) (userId : Int) (now : Instant) :
    (s.dropExpired userId now).users = s.users ∧
      (s.dropExpired userId now).sessions = s.sessions := by
  unfold dropExpired
  split
  · split <;> exact ⟨rfl, rfl⟩
  · exact ⟨rfl, rfl⟩

/-- Giving a status loses nobody. -/
theorem contains_giveStatus (s : MemoryState) (userId id : Int) (status : UserStatus)
    (now : Instant) :
    (s.giveStatus userId status now).users.contains id = s.users.contains id := by
  unfold giveStatus Table.contains
  rw [Table.find?_change]
  split
  · exact Option.isSome_map
  · rfl

/-- Whoever is there has the status that was given. -/
theorem status_giveStatus {s : MemoryState} {userId : Int}
    (h : s.users.contains userId = true) (status : UserStatus) (now : Instant) :
    ((s.giveStatus userId status now).users.find? userId).map (·.status) =
      some status.text := by
  obtain ⟨user, huser⟩ := Option.isSome_iff_exists.mp h
  unfold giveStatus
  rw [Table.find?_change, if_pos rfl, huser]
  rfl

/-- Without a record that counts, no record is left. -/
theorem find?_dropExpired_of_none {s : MemoryState} {userId : Int} {now : Instant}
    (h : s.liveAttempt? userId now = none) :
    (s.dropExpired userId now).attempts.find? userId = none := by
  unfold liveAttempt? at h
  unfold dropExpired
  cases hrow : s.attempts.find? userId with
  | none => exact hrow
  | some row =>
    rw [hrow] at h
    dsimp only at h ⊢
    split at h
    · rename_i hexp
      rw [if_pos hexp, Table.find?_erase, if_pos rfl]
    · cases h

theorem find?_dropExpired_of_ne (s : MemoryState) {userId id : Int} (h : userId ≠ id)
    (now : Instant) :
    (s.dropExpired userId now).attempts.find? id = s.attempts.find? id := by
  unfold dropExpired
  split
  · split
    · exact (Table.find?_erase ..).trans (if_neg h)
    · rfl
  · rfl

/-- A record that counts stands in the table and has not expired. -/
theorem row_of_live {s : MemoryState} {userId : Int} {now : Instant} {record : LoginAttempt}
    (h : s.liveAttempt? userId now = some record) :
    ∃ expiry, s.attempts.find? userId = some (record, expiry) ∧ now.nanos < expiry.nanos := by
  unfold liveAttempt? at h
  cases hrow : s.attempts.find? userId with
  | none =>
    rw [hrow] at h
    cases h
  | some row =>
    rw [hrow] at h
    dsimp only at h
    split at h
    · cases h
    · rename_i hexp
      cases h
      exact ⟨row.2, rfl, Int.not_le.mp hexp⟩

/-- A record that counts has not expired, so there is nothing to drop. -/
theorem dropExpired_of_live {s : MemoryState} {userId : Int} {now : Instant}
    {record : LoginAttempt} (h : s.liveAttempt? userId now = some record) :
    s.dropExpired userId now = s := by
  obtain ⟨expiry, hrow, hlt⟩ := row_of_live h
  unfold dropExpired
  rw [hrow]
  exact if_neg (Int.not_le.mpr hlt)

/-- Dropping what has expired does not show. -/
theorem liveAttempt?_dropExpired (s : MemoryState) (userId : Int) (now : Instant) :
    (s.dropExpired userId now).liveAttempt? userId now = s.liveAttempt? userId now := by
  cases hlive : s.liveAttempt? userId now with
  | none =>
    unfold liveAttempt?
    rw [find?_dropExpired_of_none hlive]
  | some record => rw [dropExpired_of_live hlive, hlive]

/-- Failures that count stand in a record that has not expired. -/
theorem live_of_failures {s : MemoryState} {userId : Int} {now : Instant}
    (h : s.failures userId now ≠ 0) :
    ∃ record, s.liveAttempt? userId now = some record ∧
      record.count = s.failures userId now := by
  unfold failures at h ⊢
  cases hlive : s.liveAttempt? userId now with
  | none =>
    rw [hlive] at h
    exact absurd rfl h
  | some record => exact ⟨record, rfl, rfl⟩

section Failures

variable {s : MemoryState} {userId : Int} {now expiry : Instant} {record : LoginAttempt}

/-- A record counts until it expires. -/
theorem live_of_row (hrow : s.attempts.find? userId = some (record, expiry))
    (hlt : now.nanos < expiry.nanos) : s.liveAttempt? userId now = some record := by
  unfold liveAttempt?
  rw [hrow]
  exact if_neg (Int.not_le.mpr hlt)

theorem failures_of_live (h : s.liveAttempt? userId now = some record) :
    s.failures userId now = record.count := by
  unfold failures
  rw [h]
  rfl

theorem failures_of_expired (hrow : s.attempts.find? userId = some (record, expiry))
    (hle : expiry.nanos ≤ now.nanos) : s.failures userId now = 0 := by
  unfold failures liveAttempt?
  rw [hrow]
  dsimp only
  rw [if_pos hle]
  rfl

theorem failures_of_none (hrow : s.attempts.find? userId = none) : s.failures userId now = 0 := by
  unfold failures liveAttempt?
  rw [hrow]
  rfl

end Failures

end MemoryState

namespace Lockout

/-- The dates of the record after a failure exist. -/
def Recordable (now : Instant) (seconds : Int) (count : Nat) : Prop :=
  (now.later seconds).InCalendar ∧ (now.later (seconds + graceSeconds count)).InCalendar

instance (now : Instant) (seconds : Int) (count : Nat) :
    Decidable (Recordable now seconds count) := by
  unfold Recordable
  infer_instance

/-- The record after a failure: refused for so many seconds, and dropped after
the grace. -/
def record (now : Instant) (seconds : Int) (count : Nat) : LoginAttempt :=
  ⟨count, now.later seconds, now.later (seconds + graceSeconds count)⟩

theorem blockSeconds?_bounds {count : Nat} {seconds : Int}
    (h : blockSeconds? count = some seconds) :
    count ≤ 7 ∧ 0 ≤ seconds ∧ seconds ≤ 86400 ∧ (0 < seconds ↔ 2 ≤ count) := by
  unfold blockSeconds? at h
  split at h <;> cases h <;> simp

theorem blockSeconds?_of_le {count : Nat} (h : count ≤ 1) :
    blockSeconds? count = some 0 := by
  match count, h with
  | 0, _ => rfl
  | 1, _ => rfl

theorem blockSeconds?_eq_none_iff {count : Nat} :
    blockSeconds? count = none ↔ 8 ≤ count := by
  match count with
  | 0 | 1 | 2 | 3 | 4 | 5 | 6 | 7 => simp [blockSeconds?]
  | n + 8 => simp [blockSeconds?]

theorem countable_of_le {seconds : Int} (h₀ : 0 ≤ seconds) (h : seconds ≤ 88800) :
    Instant.Countable seconds := by
  unfold Instant.Countable Instant.maxSpanSeconds
  omega

section NextRecord

variable {now : Instant} {count : Nat} {seconds : Int}

theorem nextRecord_of_dates {blockedUntil dropAt : Instant}
    (hb : now.addSeconds? seconds = some blockedUntil)
    (hd : blockedUntil.addSeconds? (graceSeconds count) = some dropAt) :
    nextRecord now seconds count = .ok ⟨count, blockedUntil, dropAt⟩ := by
  unfold nextRecord
  rw [hb]
  dsimp only
  rw [hd]

theorem nextRecord_of_recordable (hs : blockSeconds? count = some seconds)
    (h : Recordable now seconds (count + 1)) :
    nextRecord now seconds (count + 1) = .ok (record now seconds (count + 1)) := by
  obtain ⟨hcount, h₀, hle, -⟩ := blockSeconds?_bounds hs
  have hgrace : Instant.Countable (graceSeconds (count + 1)) :=
    countable_of_le (by unfold graceSeconds; omega) (by unfold graceSeconds; omega)
  have hdrop : ((now.later seconds).later (graceSeconds (count + 1))).InCalendar := by
    rw [Instant.later_later]
    exact h.2
  have hblock : Instant.Countable seconds := countable_of_le h₀ (by omega)
  rw [nextRecord_of_dates (Instant.addSeconds?_of_inCalendar hblock h.1)
    (Instant.addSeconds?_of_inCalendar hgrace hdrop), Instant.later_later, record]

theorem nextRecord_of_not (h : ¬ Recordable now seconds count) :
    nextRecord now seconds count = .error (.fault .timeOutOfRange) := by
  unfold nextRecord
  by_cases hblock : (now.later seconds).InCalendar
  · have hdrop : ¬ ((now.later seconds).later (graceSeconds count)).InCalendar := by
      rw [Instant.later_later]
      exact fun hd => h ⟨hblock, hd⟩
    cases hadd : now.addSeconds? seconds with
    | none => rfl
    | some blockedUntil =>
      have hlater : blockedUntil = now.later seconds := by
        unfold Instant.addSeconds? at hadd
        dsimp only at hadd
        split at hadd
        · cases hadd
          rfl
        · cases hadd
      subst hlater
      -- The end of the lock is a date, so it is the end of the record that is not.
      dsimp only
      rw [Instant.addSeconds?_of_not hdrop]
  · rw [Instant.addSeconds?_of_not hblock]

end NextRecord

end Lockout

end Turnstile
