import Turnstile.Proofs.Lockout.Release

/-!
Locks only ever extend. As long as the record counts that a lock has left, the next lock is a
longer one and starts later, so it ends later than the user was told; `Announced` says so, and
every step preserves it. The record outlives the lock, and when the end of the lock has passed,
any other lock ends later than it starts.
-/

namespace Turnstile

/-- A login for the user that is refused with the end of a lock. -/
def Call.LocksUntil (m : MemoryService) (userId : Int) (c : Call) (lockEnd : Instant) : Prop :=
  ∃ request client user, c.operation = .login request client ∧
    c.world.stores.named? request.identity = some user ∧ user.id = userId ∧
    ((m.app.login request client).runOn c.world).1 = .error (.error (.loginLocked lockEnd))

namespace Lockout

/-- From the second failure on, each lock is longer than the one before. -/
theorem blockSeconds?_lt_succ {count : Nat} (htwo : 2 ≤ count) {shorter longer : Int}
    (hshorter : blockSeconds? count = some shorter)
    (hlonger : blockSeconds? (count + 1) = some longer) : shorter < longer := by
  obtain ⟨hseven, -, -, -⟩ := blockSeconds?_bounds hlonger
  have hcount : count = 2 ∨ count = 3 ∨ count = 4 ∨ count = 5 ∨ count = 6 := by omega
  rcases hcount with rfl | rfl | rfl | rfl | rfl <;> cases hshorter <;> cases hlonger <;> decide

/-- Until the end of the lock that was told, the record counts that the lock has left or a later
one, and the next lock, if it started now, would end later. -/
def Announced (lockEnd now : Instant) (row : Option (LoginAttempt × Instant)) : Prop :=
  now.nanos < lockEnd.nanos → ∃ found expiry, row = some (found, expiry) ∧ 2 ≤ found.count ∧
    lockEnd.nanos ≤ expiry.nanos ∧
    ∀ seconds, blockSeconds? found.count = some seconds →
      lockEnd.nanos < (now.later seconds).nanos

section Announced

variable {m : MemoryService} {userId : Int} {lockEnd now : Instant} {s : MemoryState}

theorem announced_record {prior : Nat} {seconds : Int} (htwo : 2 ≤ prior)
    (hs : blockSeconds? prior = some seconds) (hend : lockEnd.nanos ≤ (now.later seconds).nanos) :
    Announced lockEnd now
      (some (record now seconds (prior + 1), (record now seconds (prior + 1)).dropAt)) := by
  refine fun _ => ⟨_, _, rfl, Nat.le_succ_of_le htwo, ?_, fun longer hlonger => ?_⟩
  · show lockEnd.nanos ≤ (now.later (seconds + graceSeconds (prior + 1))).nanos
    rw [Instant.later_nanos, graceSeconds] at *
    omega
  · have hlt := blockSeconds?_lt_succ htwo hs hlonger
    rw [Instant.later_nanos] at hend ⊢
    omega

/-- Until its end, the failures that led to a lock count. -/
theorem Announced.live (h : Announced lockEnd now (s.attempts.find? userId))
    (hsoon : now.nanos < lockEnd.nanos) :
    ∃ found, s.liveAttempt? userId now = some found ∧ 2 ≤ s.failures userId now ∧
      ∀ seconds, blockSeconds? (s.failures userId now) = some seconds →
        lockEnd.nanos < (now.later seconds).nanos := by
  obtain ⟨found, expiry, hrow, htwo, hexpiry, hnext⟩ := h hsoon
  have hlive := MemoryState.live_of_row hrow (Int.lt_of_lt_of_le hsoon hexpiry)
  rw [MemoryState.failures_of_live hlive]
  exact ⟨found, hlive, htwo, hnext⟩

/-- A lock that the user is told next ends later. -/
theorem Announced.lt_next (h : Announced lockEnd now (s.attempts.find? userId))
    (htwo : 2 ≤ s.failures userId now) {seconds : Int}
    (hs : blockSeconds? (s.failures userId now) = some seconds) :
    lockEnd.nanos < (now.later seconds).nanos := by
  by_cases hsoon : now.nanos < lockEnd.nanos
  · obtain ⟨-, -, -, hnext⟩ := h.live hsoon
    exact hnext seconds hs
  · -- The end has passed, and any lock from two failures on ends later than it starts.
    obtain ⟨-, -, -, hpos⟩ := blockSeconds?_bounds hs
    have hlocks := hpos.mpr htwo
    rw [Instant.later_nanos]
    omega

theorem announced_invariant (m : MemoryService) (userId : Int) (lockEnd : Instant) :
    RecordInvariant m userId (Announced lockEnd) where
  later := fun {now later row} hle h hsoon => by
    obtain ⟨found, expiry, hrow, htwo, hexpiry, hnext⟩ := h (Int.lt_of_le_of_lt hle hsoon)
    refine ⟨found, expiry, hrow, htwo, hexpiry, fun seconds hs => ?_⟩
    have hlt := hnext seconds hs
    rw [Instant.later_nanos] at hlt ⊢
    omega
  compared := fun {user password now s answer t} hid hcompared h hsoon => by
    subst hid
    -- Two failures count at the least, so it does not come to the password.
    obtain ⟨found, hlive, htwo, -⟩ := h.live hsoon
    cases hcompared with
    | right hle => omega
    | wrong hle => omega
    | unusable hle => omega
    | locked _ hs =>
      rw [MemoryState.find?_keep_self]
      exact announced_record htwo hs (Int.le_of_lt (h.lt_next htwo hs)) hsoon
    | blocked => exact h hsoon
    | missing => exact h hsoon
    | undated =>
      rw [MemoryState.dropExpired_of_live hlive]
      exact h hsoon

end Announced

section Histories

variable {m : MemoryService} {userId : Int}

/-- What a lock was started for, and what it leaves. -/
theorem announced_of_locksUntil [SizeLimit] {c : Call} {lockEnd : Instant}
    (h : c.LocksUntil m userId lockEnd) :
    ∃ seconds, 2 ≤ c.world.stores.failures userId c.world.now ∧
      blockSeconds? (c.world.stores.failures userId c.world.now) = some seconds ∧
      lockEnd = c.world.now.later seconds ∧
      Announced lockEnd (c.next m).now ((c.next m).stores.attempts.find? userId) := by
  obtain ⟨w, op⟩ := c
  obtain ⟨request, client, user, rfl, hnamed, rfl, hlocked⟩ := h
  obtain ⟨seconds, htwo, hs, rfl, hrow⟩ := row_of_lock hnamed hlocked
  have hnow : (m.step w (.login request client)).now = w.now := by
    rw [MemoryService.step, (login_ends m request client w).now]
  refine ⟨seconds, htwo, hs, rfl, ?_⟩
  rw [Call.next]
  dsimp only
  rw [hrow, hnow, Instant.later_later]
  exact announced_record htwo hs (Int.le_refl _)

/-- No password is accepted while two failures count. -/
theorem not_accepted_of_many {w : World MemoryState} {request : LoginRequest} {client : Client}
    (hlogin : Call.IsLoginOf ⟨w, .login request client⟩ userId)
    (hmany : 2 ≤ w.stores.failures userId w.now) (response : LoginResponse) :
    ((m.app.login request client).runOn w).1 ≠ .ok response := by
  intro hok
  have hends := login_ends m request client w
  rw [hok] at hends
  generalize ((m.app.login request client).runOn w).2 = v at hends
  cases hends with
  | started hnamed _ hrun =>
    unfold Call.IsLoginOf MemoryState.loginOf? at hlogin
    dsimp only at hlogin
    rw [hnamed, Option.map_some] at hlogin
    obtain rfl := Option.some.inj hlogin
    cases compared_of_runOn hrun with
    | right hle => omega

theorem locks_pairwise [SizeLimit] {w : World MemoryState} {ops : List Operation}
    (hforward : ∀ c ∈ m.calls w ops, c.Forward) :
    (m.calls w ops).Pairwise fun earlier later => ∀ first second,
      earlier.LocksUntil m userId first → later.LocksUntil m userId second →
      first.nanos < second.nanos := by
  induction ops generalizing w with
  | nil => exact .nil
  | cons op rest ih =>
    have hrest : ∀ c ∈ m.calls (m.step w op) rest, c.Forward :=
      fun c hc => hforward c (List.mem_cons_of_mem _ hc)
    refine List.pairwise_cons.mpr ⟨fun later hlater first second hfirst hsecond => ?_, ih hrest⟩
    obtain ⟨-, -, -, -, hannounced⟩ := announced_of_locksUntil hfirst
    obtain ⟨seconds, htwo, hs, rfl, -⟩ := announced_of_locksUntil hsecond
    have hstill := (announced_invariant m userId first).at_call hrest hannounced hlater
    exact hstill.lt_next htwo hs

end Histories

/-- As long as the clock is not set back, whatever else happens, of two locks that a user is told
the later one ends later, and no login of the user that finds two failures or more succeeds. -/
theorem locks_extend [SizeLimit] (m : MemoryService) (userId : Int) (w : World MemoryState)
    (ops : List Operation) (hforward : ∀ c ∈ m.calls w ops, c.Forward) :
    ((m.calls w ops).Pairwise fun earlier later => ∀ first second,
        earlier.LocksUntil m userId first → later.LocksUntil m userId second →
        first.nanos < second.nanos) ∧
      ∀ c ∈ m.calls w ops, ∀ request client, c.operation = .login request client →
        c.IsLoginOf userId → 2 ≤ c.world.stores.failures userId c.world.now →
        ∀ response, ((m.app.login request client).runOn c.world).1 ≠ .ok response := by
  refine ⟨locks_pairwise hforward, ?_⟩
  rintro ⟨v, op⟩ - request client rfl hlogin hmany response
  exact not_accepted_of_many hlogin hmany response

end Lockout

namespace Sample

/-- The third guess is told a lock of thirty seconds, and ten seconds later the fourth one of a
minute. Then the right password does not help. -/
theorem fourth_guess_extends :
    let past := [guess, guess, guess, .clock (.ofSeconds 10), guess]
    let third : Call := ⟨service.after world (past.take 2), guess⟩
    let fourth : Call := ⟨service.after world (past.take 4), guess⟩
    third.LocksUntil service 1 (.ofSeconds 30) ∧ fourth.LocksUntil service 1 (.ofSeconds 70) ∧
      (Instant.ofSeconds 30).nanos < (Instant.ofSeconds 70).nanos ∧
      ∀ response, ((service.app.login right client).runOn (service.after world past)).1 ≠
        .ok response := by
  intro past third fourth
  have hthird : third.LocksUntil service 1 (.ofSeconds 30) :=
    ⟨_, _, user, rfl, by decide +kernel, rfl, refused_of_map (by decide +kernel)⟩
  have hfourth : fourth.LocksUntil service 1 (.ofSeconds 70) :=
    ⟨_, _, user, rfl, by decide +kernel, rfl, refused_of_map (by decide +kernel)⟩
  have hnamed : (service.after world past).stores.named? right.identity = some user := by
    decide +kernel
  have hlogin : Call.IsLoginOf ⟨service.after world past, .login right client⟩ 1 :=
    Call.isLoginOf_of_named hnamed
  have hforward : ∀ c ∈ service.calls world (past ++ [.login right client]), c.Forward := by
    decide +kernel
  have hsub : [third, fourth].Sublist (service.calls world (past ++ [.login right client])) :=
    .cons _ (.cons _ (.cons_cons _ (.cons _ (.cons_cons _ (.cons _ .slnil)))))
  obtain ⟨hlocks, hrefused⟩ := Lockout.locks_extend service 1 world _ hforward
  have hpair := List.pairwise_pair.mp (hlocks.sublist hsub)
  refine ⟨hthird, hfourth, hpair _ _ hthird hfourth, ?_⟩
  exact hrefused _ (List.mem_of_getLast? rfl) right client rfl hlogin (by decide +kernel)

end Sample

end Turnstile
