import Turnstile.Proofs.Run

/-!
How fast passwords can be guessed. A wrong password leaves a record of `n`
failures that stays for five minutes for each of them, whatever happens except
an accepted password; `Held` says so, and every step preserves it. While two
failures are held, no password is compared, so two guesses have five minutes
between them, and of any three the first and the last.
-/

namespace Turnstile

/-! ### Guesses in a history -/

namespace Call

variable (m : MemoryService) (userId : Int) (c : Call)

/-- A login for the user whose password was compared and is wrong. -/
def WrongGuess : Prop :=
  ∃ request client user, c.operation = .login request client ∧
    c.world.stores.named? request.identity = some user ∧ user.id = userId ∧
    ((m.app.login request client).runOn c.world).1 = .error (.error .incorrectPassword)

/-- A login for the user whose password was accepted, whatever came of the
login. -/
def Accepted : Prop :=
  ∃ request client user, c.operation = .login request client ∧
    c.world.stores.named? request.identity = some user ∧ user.id = userId ∧ user.MayAct ∧
    ((m.app.validatePassword user request.password).runOn c.world).1 = .ok ()

/-- The clock is not set back. -/
def Forward : Prop := ∀ now, c.operation = .clock now → c.world.now.nanos ≤ now.nanos

end Call

namespace Lockout

/-! ### What a failure leaves behind -/

/-- Since `t` a record of `n` failures or more is held, for five minutes for
each of the `n`. -/
structure Held (userId : Int) (t : Instant) (n : Nat) (now : Instant) (s : MemoryState) :
    Prop where
  past : t.nanos ≤ now.nanos
  row : now.nanos < (t.later (300 * n)).nanos →
    ∃ found expiry, s.attempts.find? userId = some (found, expiry) ∧ n ≤ found.count ∧
      (t.later (300 * n)).nanos ≤ expiry.nanos

namespace Held

variable {userId : Int} {t now : Instant} {n : Nat} {s : MemoryState}

theorem of_row {found : LoginAttempt} {expiry : Instant} (hpast : t.nanos ≤ now.nanos)
    (hrow : s.attempts.find? userId = some (found, expiry)) (hcount : n ≤ found.count)
    (hexpiry : (t.later (300 * n)).nanos ≤ expiry.nanos) : Held userId t n now s :=
  ⟨hpast, fun _ => ⟨found, expiry, hrow, hcount, hexpiry⟩⟩

/-- A record of as many failures, written later, holds them at least as long.
-/
theorem keep {seconds : Int} {count : Nat} (hpast : t.nanos ≤ now.nanos)
    (hcount : n ≤ count) (hs : 0 ≤ seconds) :
    Held userId t n now (s.keep userId (record now seconds count)) := by
  refine of_row hpast (s.find?_keep_self userId _) hcount ?_
  show (t.later (300 * n)).nanos ≤ (now.later (seconds + graceSeconds count)).nanos
  rw [Instant.later_nanos, Instant.later_nanos, graceSeconds]
  omega

/-- Fewer failures are held for a shorter time. -/
theorem mono {k : Nat} (h : Held userId t n now s) (hk : k ≤ n) :
    Held userId t k now s := by
  refine ⟨h.past, fun hlt => ?_⟩
  rw [Instant.later_nanos] at hlt
  obtain ⟨found, expiry, hrow, hcount, hexpiry⟩ := h.row (by rw [Instant.later_nanos]; omega)
  rw [Instant.later_nanos] at hexpiry
  exact ⟨found, expiry, hrow, by omega, by rw [Instant.later_nanos]; omega⟩

/-- As long as time does not go back and the row stays, nothing is lost. -/
theorem congr {later : Instant} {v : MemoryState} (h : Held userId t n now s)
    (hlater : now.nanos ≤ later.nanos)
    (hrow : v.attempts.find? userId = s.attempts.find? userId) :
    Held userId t n later v := by
  refine ⟨Int.le_trans h.past hlater, fun hlt => ?_⟩
  rw [hrow]
  exact h.row (Int.lt_of_le_of_lt hlater hlt)

/-- Failures that are held count. -/
theorem live (h : Held userId t n now s) (hlt : now.nanos < (t.later (300 * n)).nanos) :
    ∃ found, s.liveAttempt? userId now = some found ∧ n ≤ found.count := by
  obtain ⟨found, expiry, hrow, hcount, hexpiry⟩ := h.row hlt
  exact ⟨found, MemoryState.live_of_row hrow (Int.lt_of_lt_of_le hlt hexpiry), hcount⟩

theorem failures (h : Held userId t n now s) (hlt : now.nanos < (t.later (300 * n)).nanos) :
    n ≤ s.failures userId now := by
  obtain ⟨found, hlive, hcount⟩ := h.live hlt
  rw [MemoryState.failures_of_live hlive]
  exact hcount

end Held

section Compared

variable {m : MemoryService} {user : User} {password : String} {now : Instant}
  {s v : MemoryState} {answer : Except Failure Unit}

/-- A comparison for one user does not touch the records of others. -/
theorem Compared.find?_of_ne (h : Compared m user password now s answer v) {userId : Int}
    (hne : user.id ≠ userId) : v.attempts.find? userId = s.attempts.find? userId := by
  cases h with
  | right => exact (s.find?_forget user.id userId).trans (if_neg hne)
  | wrong =>
    rw [MemoryState.find?_keep, if_neg hne]
    exact find?_checked_of_ne s hne now
  | unusable => exact find?_checked_of_ne s hne now
  | locked => rw [MemoryState.find?_keep, if_neg hne]
  | blocked => rfl
  | missing => rfl
  | undated => exact s.find?_dropExpired_of_ne hne now

/-- A comparison that does not accept the password keeps what is held. -/
theorem Compared.held {t : Instant} {n : Nat} (h : Compared m user password now s answer v)
    (hheld : Held user.id t n now s) (hanswer : answer ≠ .ok ()) :
    Held user.id t n now v := by
  by_cases hlt : now.nanos < (t.later (300 * n)).nanos
  -- What is no longer held cannot be lost.
  case neg => exact ⟨hheld.past, fun hother => absurd hother hlt⟩
  have hcount := hheld.failures hlt
  obtain ⟨found, hlive, -⟩ := hheld.live hlt
  cases h with
  | right => exact absurd rfl hanswer
  | wrong => exact .keep hheld.past (by omega) (Int.le_refl 0)
  | unusable hle =>
    unfold checked
    split
    · rw [MemoryState.dropExpired_of_live hlive]
      exact hheld
    · exact .keep hheld.past (by omega) (Int.le_refl 0)
  | locked _ hs =>
    obtain ⟨-, hpos, -, -⟩ := blockSeconds?_bounds hs
    exact .keep hheld.past (by omega) hpos
  | blocked => exact hheld.congr (Int.le_refl _) rfl
  | missing => exact hheld
  | undated =>
    rw [MemoryState.dropExpired_of_live hlive]
    exact hheld

/-- A wrong password is compared with one failure at most before it, and
leaves one more. -/
theorem Compared.held_of_wrong
    (h : Compared m user password now s (.error (.error .incorrectPassword)) v) :
    s.failures user.id now ≤ 1 ∧ Held user.id now (s.failures user.id now + 1) now v := by
  cases h with
  | wrong hle => exact ⟨hle, .keep (Int.le_refl _) (Nat.le_refl _) (Int.le_refl 0)⟩

end Compared

/-! ### Through a history -/

section History

variable {m : MemoryService} {userId : Int} {t : Instant} {n : Nat}

theorem held_login {request : LoginRequest} {client : Client} {w v : World MemoryState}
    {answer : Except Failure LoginResponse} (hends : LoginEnd m request client w answer v)
    (h : Held userId t n w.now w.stores)
    (haccepted : ¬ Call.Accepted m userId ⟨w, .login request client⟩) :
    Held userId t n v.now v.stores := by
  cases hends with
  | unnamed => exact h
  | inactive => exact h
  | @refused user f s hnamed hact hrun =>
    have hcompared := compared_of_runOn hrun
    by_cases hid : user.id = userId
    · subst hid
      exact hcompared.held h fun h => nomatch h
    · exact h.congr (Int.le_refl _) (hcompared.find?_of_ne hid)
  | @unissued user f s drawn hnamed hact hrun =>
    have hid : user.id ≠ userId := fun hid =>
      haccepted ⟨request, client, user, rfl, hnamed, hid, hact, by rw [hrun]⟩
    exact h.congr (Int.le_refl _) ((compared_of_runOn hrun).find?_of_ne hid)
  | @started user response s hnamed hact hrun =>
    have hid : user.id ≠ userId := fun hid =>
      haccepted ⟨request, client, user, rfl, hnamed, hid, hact, by rw [hrun]⟩
    exact h.congr (Int.le_refl _) ((compared_of_runOn hrun).find?_of_ne hid)

theorem held_quiet {w v : World MemoryState} (hquiet : w.QuietTo v)
    (h : Held userId t n w.now w.stores) : Held userId t n v.now v.stores := by
  rw [hquiet.now]
  exact h.congr (Int.le_refl _) (by rw [hquiet.attempts])

variable [SizeLimit]

/-- A step that neither sets the clock back nor accepts the password keeps
what is held. -/
theorem Held.next {c : Call} (h : Held userId t n c.world.now c.world.stores)
    (hforward : c.Forward) (haccepted : ¬ c.Accepted m userId) :
    Held userId t n (c.next m).now (c.next m).stores := by
  obtain ⟨w, op⟩ := c
  cases op <;> rw [Call.next, MemoryService.step]
  case login request client => exact held_login (login_ends m request client w) h haccepted
  case refresh request client =>
    obtain ⟨hnow, -, hattempts⟩ := (refresh_ends m request client w).leaves
    rw [hnow]
    exact h.congr (Int.le_refl _) (by rw [hattempts])
  case logout bearer =>
    obtain ⟨hnow, -, hattempts⟩ := (logout_ends m bearer w).leaves
    rw [hnow]
    exact h.congr (Int.le_refl _) (by rw [hattempts])
  case register request => exact held_quiet (m.quiet_register request w) h
  case authorize bearer elementId =>
    exact held_quiet (m.quiet_authorize bearer elementId w) h
  case admin call => exact held_quiet (m.quiet_admin call w) h
  case setStatus userId status =>
    exact held_quiet (Action.Quiet.setStatus userId status w) h
  case clock now => exact h.congr (hforward now rfl) rfl

/-- Nothing that happens between two guesses takes away what is held. -/
theorem Held.after {w : World MemoryState} (h : Held userId t n w.now w.stores)
    (ops : List Operation) (hforward : ∀ c ∈ m.calls w ops, c.Forward)
    (haccepted : ∀ c ∈ m.calls w ops, ¬ c.Accepted m userId) :
    Held userId t n (m.after w ops).now (m.after w ops).stores := by
  induction ops generalizing w with
  | nil => exact h
  | cons op rest ih =>
    have hnext : Held userId t n (m.step w op).now (m.step w op).stores :=
      Held.next (c := ⟨w, op⟩) h (hforward _ List.mem_cons_self)
        (haccepted _ List.mem_cons_self)
    exact ih hnext (fun c hc => hforward c (List.mem_cons_of_mem _ hc))
      fun c hc => haccepted c (List.mem_cons_of_mem _ hc)

/-- A wrong guess finds one failure at most, and leaves one more that is held
from then on. -/
theorem held_of_wrongGuess {c : Call} (h : c.WrongGuess m userId)
    (haccepted : ¬ c.Accepted m userId) :
    c.world.stores.failures userId c.world.now ≤ 1 ∧
      Held userId c.world.now (c.world.stores.failures userId c.world.now + 1) (c.next m).now
        (c.next m).stores := by
  obtain ⟨w, op⟩ := c
  obtain ⟨request, client, user, rfl, hnamed, rfl, hwrong⟩ := h
  have hends := login_ends m request client w
  rw [hwrong] at hends
  rw [Call.next, MemoryService.step]
  generalize ((m.app.login request client).runOn w).2 = v at hends
  dsimp only at hnamed ⊢
  cases hends with
  | inactive _ hstate => exact absurd hstate (User.checkState_ne_incorrectPassword _)
  | refused hfound _ hrun =>
    rw [hnamed] at hfound
    cases hfound
    exact (compared_of_runOn hrun).held_of_wrong
  | unissued hfound hact hrun =>
    rw [hnamed] at hfound
    cases hfound
    exact absurd ⟨request, client, user, rfl, hnamed, rfl, hact, by rw [hrun]⟩ haccepted

/-- A run in which time goes on and no password of the user is accepted. -/
structure Guarded (m : MemoryService) (userId : Int) (w : World MemoryState)
    (ops : List Operation) : Prop where
  forward : ∀ c ∈ m.calls w ops, c.Forward
  refused : ∀ c ∈ m.calls w ops, ¬ c.Accepted m userId

theorem guarded_cons_iff {w : World MemoryState} {op : Operation} {rest : List Operation} :
    Guarded m userId w (op :: rest) ↔
      (Call.Forward ⟨w, op⟩ ∧ ¬ Call.Accepted m userId ⟨w, op⟩) ∧
        Guarded m userId (m.step w op) rest := by
  constructor
  · intro h
    exact ⟨⟨h.forward _ List.mem_cons_self, h.refused _ List.mem_cons_self⟩,
      fun c hc => h.forward c (List.mem_cons_of_mem _ hc),
      fun c hc => h.refused c (List.mem_cons_of_mem _ hc)⟩
  · rintro ⟨⟨hforward, hrefused⟩, hrest⟩
    constructor
    · intro c hc
      rcases List.mem_cons.mp hc with rfl | hc
      · exact hforward
      · exact hrest.forward c hc
    · intro c hc
      rcases List.mem_cons.mp hc with rfl | hc
      · exact hrefused
      · exact hrest.refused c hc

/-- The first of some steps in a run, and the run before and after it. -/
theorem exists_run_of_sublist {w : World MemoryState} {ops : List Operation} {g : Call}
    {rest : List Call} (h : Guarded m userId w ops)
    (hsub : (g :: rest).Sublist (m.calls w ops)) :
    ∃ ops₁ ops₂, g.world = m.after w ops₁ ∧ Guarded m userId w ops₁ ∧
      ¬ g.Accepted m userId ∧ Guarded m userId (g.next m) ops₂ ∧
      rest.Sublist (m.calls (g.next m) ops₂) := by
  induction ops generalizing w with
  | nil => cases hsub
  | cons op tail ih =>
    obtain ⟨hop, htail⟩ := guarded_cons_iff.mp h
    cases hsub with
    | cons _ hsub =>
      obtain ⟨ops₁, ops₂, hworld, hbefore, hrest⟩ := ih htail hsub
      exact ⟨op :: ops₁, ops₂, hworld, guarded_cons_iff.mpr ⟨hop, hbefore⟩, hrest⟩
    | cons_cons _ hsub =>
      refine ⟨[], tail, rfl, ⟨?_, ?_⟩, hop.2, htail, hsub⟩
      · exact fun c hc => nomatch hc
      · exact fun c hc => nomatch hc

/-- What is held when a run starts is held when the first of some guesses is
made. -/
theorem Held.first_guess {w : World MemoryState} {ops : List Operation} {g : Call}
    {rest : List Call} (h : Held userId t n w.now w.stores) (hguarded : Guarded m userId w ops)
    (hsub : (g :: rest).Sublist (m.calls w ops)) :
    Held userId t n g.world.now g.world.stores := by
  obtain ⟨ops₁, -, hworld, hbefore, -⟩ := exists_run_of_sublist hguarded hsub
  rw [hworld]
  exact h.after ops₁ hbefore.forward hbefore.refused

/-- Of three wrong guesses the last is made five minutes after the first, at
least. -/
theorem third_guess {w : World MemoryState} {ops : List Operation} {g₁ g₂ g₃ : Call}
    {rest : List Call} (hguarded : Guarded m userId w ops)
    (hsub : (g₁ :: g₂ :: g₃ :: rest).Sublist (m.calls w ops))
    (hwrong : ∀ g ∈ [g₁, g₂, g₃], g.WrongGuess m userId) :
    (g₁.world.now.later 300).nanos ≤ g₃.world.now.nanos := by
  obtain ⟨-, ops₂, -, -, hrefused₁, hguarded₂, hsub₂⟩ :=
    exists_run_of_sublist hguarded hsub
  obtain ⟨-, ops₃, -, -, hrefused₂, hguarded₃, hsub₃⟩ :=
    exists_run_of_sublist hguarded₂ hsub₂
  obtain ⟨-, -, -, -, hrefused₃, -⟩ := exists_run_of_sublist hguarded₃ hsub₃
  obtain ⟨-, hheld₁⟩ := held_of_wrongGuess (hwrong g₁ (by simp)) hrefused₁
  obtain ⟨-, hheld₂⟩ := held_of_wrongGuess (hwrong g₂ (by simp)) hrefused₂
  obtain ⟨hfew, -⟩ := held_of_wrongGuess (hwrong g₃ (by simp)) hrefused₃
  have hone := (hheld₁.mono (Nat.le_add_left 1 _)).first_guess hguarded₂ hsub₂
  have hthen := hheld₂.first_guess hguarded₃ hsub₃
  rw [Instant.later_nanos]
  have hpast := hthen.past
  by_cases hsoon : g₂.world.now.nanos < g₁.world.now.nanos + 300 * 1000000000
  · -- The second guess comes while the first failure counts, so it leaves two.
    have hcount := hone.failures (by rw [Instant.later_nanos]; omega)
    have htwo := hthen.mono (Nat.succ_le_succ hcount)
    by_cases hlocked : g₃.world.now.nanos < g₂.world.now.nanos + 600 * 1000000000
    · -- Two failures count at the third guess, but then it is not compared.
      have hmany := htwo.failures (by rw [Instant.later_nanos]; omega)
      omega
    · have hfirst := hone.past
      omega
  · omega

theorem guarded_guess_rate {w : World MemoryState} {ops : List Operation} {k : Nat}
    {first : Call} {rest : List Call} (hguarded : Guarded m userId w ops)
    (hsub : (first :: rest).Sublist (m.calls w ops))
    (hwrong : ∀ g ∈ first :: rest, g.WrongGuess m userId) (hlength : rest.length = 2 * k) :
    (first.world.now.later (300 * k)).nanos ≤
      ((first :: rest).getLast (List.cons_ne_nil first rest)).world.now.nanos := by
  induction k generalizing first rest with
  | zero =>
    obtain rfl := List.eq_nil_of_length_eq_zero hlength
    rw [Instant.later_nanos]
    show first.world.now.nanos + 0 ≤ first.world.now.nanos
    omega
  | succ k ih =>
    match rest, hlength with
    | g₂ :: g₃ :: rest, hlength =>
      -- Two more guesses add five minutes, and the third starts the next pair.
      have hthird := third_guess hguarded hsub fun g hg =>
        hwrong g (List.mem_of_mem_take (i := 3) hg)
      have htail : (g₃ :: rest).Sublist (m.calls w ops) :=
        (((List.Sublist.refl _).cons g₂).cons first).trans hsub
      have hrest : rest.length = 2 * k := by
        rw [List.length_cons, List.length_cons] at hlength
        omega
      have hlast := ih htail (fun g hg => hwrong g (by simp [hg])) hrest
      rw [List.getLast_cons_cons, List.getLast_cons_cons]
      rw [Instant.later_nanos] at hthird hlast ⊢
      omega

end History

/-- However logins of a user are timed: if no password is accepted in between,
the last of 2k + 1 wrong guesses comes at least 300 k seconds after the first.
-/
theorem guess_rate [SizeLimit] (m : MemoryService) (userId : Int) (w : World MemoryState)
    (ops : List Operation) (hforward : ∀ c ∈ m.calls w ops, c.Forward)
    (pre history post : List Call) (hhistory : m.calls w ops = pre ++ history ++ post)
    (haccepted : ∀ c ∈ history, ¬ c.Accepted m userId) (k : Nat) {first : Call} {rest : List Call}
    (hguesses : (first :: rest).Sublist history)
    (hwrong : ∀ g ∈ first :: rest, g.WrongGuess m userId) (hlength : rest.length = 2 * k) :
    (first.world.now.later (300 * k)).nanos ≤
      ((first :: rest).getLast (List.cons_ne_nil first rest)).world.now.nanos := by
  rw [List.append_assoc] at hhistory
  obtain ⟨ops₁, ops', -, -, hrest⟩ := m.calls_eq_append hhistory
  obtain ⟨ops₂, -, -, rfl, -⟩ := m.calls_eq_append hrest.symm
  refine guarded_guess_rate ⟨fun c hc => hforward c ?_, haccepted⟩ hguesses hwrong hlength
  rw [hhistory]
  exact List.mem_append_right _ (List.mem_append_left _ hc)

/-- Three wrong passwords: the second after a second, the third as soon as it
is compared again. -/
theorem three_guesses_rate :
    let guess : Operation := .login ⟨"1", "guess"⟩ ⟨"127.0.0.1", "agent"⟩
    let second := Sample.service.after Sample.world [guess, .clock (.ofSeconds 1)]
    let third := Sample.service.after second [guess, .clock (.ofSeconds 601)]
    [⟨Sample.world, guess⟩, ⟨second, guess⟩, ⟨third, guess⟩].Sublist
        (Sample.service.calls Sample.world
          [guess, .clock (.ofSeconds 1), guess, .clock (.ofSeconds 601), guess]) ∧
      (Sample.world.now.later 300).nanos ≤ third.now.nanos := by
  intro guess second third
  have hsub : [⟨Sample.world, guess⟩, ⟨second, guess⟩, ⟨third, guess⟩].Sublist
      (Sample.service.calls Sample.world
        [guess, .clock (.ofSeconds 1), guess, .clock (.ofSeconds 601), guess]) :=
    .cons_cons _ (.cons _ (.cons_cons _ (.cons _ (.cons_cons _ .slnil))))
  have hlogin (w : World MemoryState) (hnamed : w.stores.named? "1" = some Sample.user)
      (hrun : ((Sample.service.app.validatePassword Sample.user "guess").runOn w).1 =
        .error (.error .incorrectPassword)) :
      Call.Forward ⟨w, guess⟩ ∧ ¬ Call.Accepted Sample.service 1 ⟨w, guess⟩ := by
    refine ⟨(fun _ hop => nomatch hop), ?_⟩
    rintro ⟨request, client, user, hop, hfound, -, -, hok⟩
    cases hop
    rw [hnamed] at hfound
    cases hfound
    rw [hrun] at hok
    cases hok
  have hclock (w : World MemoryState) (now : Instant) (h : w.now.nanos ≤ now.nanos) :
      Call.Forward ⟨w, .clock now⟩ ∧ ¬ Call.Accepted Sample.service 1 ⟨w, .clock now⟩ := by
    constructor
    · rintro other hop
      cases hop
      exact h
    · rintro ⟨request, client, user, hop, -⟩
      cases hop
  have hguarded : Guarded Sample.service 1 Sample.world
      [guess, .clock (.ofSeconds 1), guess, .clock (.ofSeconds 601), guess] := by
    refine guarded_cons_iff.mpr ⟨hlogin _ rfl rfl, ?_⟩
    refine guarded_cons_iff.mpr ⟨hclock _ _ (by decide +kernel), ?_⟩
    refine guarded_cons_iff.mpr ⟨hlogin _ rfl rfl, ?_⟩
    refine guarded_cons_iff.mpr ⟨hclock _ _ (by decide +kernel), ?_⟩
    refine guarded_cons_iff.mpr ⟨hlogin _ rfl rfl, ?_⟩
    exact ⟨(fun _ h => nomatch h), (fun _ h => nomatch h)⟩
  have hwrong (w : World MemoryState) (hnamed : w.stores.named? "1" = some Sample.user)
      (hrun : ((Sample.service.app.login ⟨"1", "guess"⟩ ⟨"127.0.0.1", "agent"⟩).runOn w).1 =
        .error (.error .incorrectPassword)) : Call.WrongGuess Sample.service 1 ⟨w, guess⟩ :=
    ⟨_, _, Sample.user, rfl, hnamed, rfl, hrun⟩
  refine ⟨hsub, guess_rate Sample.service 1 Sample.world _ hguarded.forward [] _ []
    (List.append_nil _).symm hguarded.refused 1 hsub ?_ rfl⟩
  refine List.forall_mem_cons.mpr ⟨hwrong _ rfl rfl, ?_⟩
  refine List.forall_mem_cons.mpr ⟨hwrong _ rfl rfl, ?_⟩
  exact List.forall_mem_singleton.mpr (hwrong _ rfl rfl)

end Lockout

end Turnstile
