import Turnstile.Proofs.Action
import Turnstile.Proofs.Cache.Record
import Turnstile.Proofs.Lockout.Record

/-!
Attempts on a server and in memory answer alike. `Obeys` is what is asked of a server, and `Mirrors`
relates its values to the table in memory: under the key of a user there is, from now on and for as
long as the record counts, the text of that record.
-/

namespace Turnstile

/-! ### Calls -/

/-- A call of a store of attempts. -/
inductive AttemptCall where
  | get (userId : Int)
  | set (userId : Int) (record : LoginAttempt) (seconds : Int)

namespace AttemptCall

variable {σ : Type}

def step (store : AttemptStore σ) : AttemptCall → StoreStep σ (Option LoginAttempt)
  | get userId => store.find userId
  | set userId record seconds => (store.put userId record seconds).map fun _ => none

/-- What the calls of a run are answered, each made at a moment of its own. -/
def run (store : AttemptStore σ) (s : σ) :
    List (Instant × AttemptCall) → List (Except Failure (Option LoginAttempt))
  | [] => []
  | (now, call) :: rest =>
    let (answer, s') := call.step store now s
    answer :: run store s' rest

/-- A record can be written, and the instant up to which it is to be kept exists. In memory that
instant is computed and stands with the record. -/
def Allowed (now : Instant) : AttemptCall → Prop
  | get _ => True
  | set _ record seconds =>
    record.Writable ∧ (0 < seconds → (now.addSeconds? seconds).isSome = true)

end AttemptCall

/-! ### Servers -/

/-- In the states that are ready, the server keeps a map of texts: it tells what is there, and a
text that is set for some seconds is there until they have passed. -/
structure CacheLink.Obeys {σ : Type} (link : CacheLink σ) (Ready : σ → Prop)
    (value? : σ → Instant → String → Option String) : Prop where
  get : ∀ key now s, Ready s → ∃ s', Ready s' ∧
    link.send (.get key) now s =
      (.ok ((value? s now key).elim .missing .value), s') ∧
    ∀ later k, now.nanos ≤ later.nanos → value? s' later k = value? s later k
  set : ∀ key text seconds now s, Ready s → 0 < seconds → ∃ reply s', Ready s' ∧
    link.send (.set key text seconds) now s = (.ok reply, s') ∧
    ∀ later k, now.nanos ≤ later.nanos → value? s' later k =
      if key = k then
        if (now.later seconds).nanos ≤ later.nanos then none else some text
      else value? s later k
  delete : ∀ key now s, Ready s → ∃ reply s', Ready s' ∧
    link.send (.delete key) now s = (.ok reply, s') ∧
    ∀ later k, now.nanos ≤ later.nanos →
      value? s' later k = if key = k then none else value? s later k

namespace CacheServer

theorem value?_set (server : CacheServer) (hexpires : server.expires = true) (key text : String)
    (seconds : Int) (now later : Instant) (k : String) :
    (server.answer now (.set key text seconds)).2.value? later k =
      if key = k then if (now.later seconds).nanos ≤ later.nanos then none else some text
      else server.value? later k := by
  have hserver : (server.answer now (.set key text seconds)).2 = { server with
      rows := server.rows.put key (text, some (now.later seconds).nanos) } := by
    unfold answer
    dsimp only
    rw [if_pos hexpires]
    rfl
  rw [hserver]
  unfold value?
  rw [Table.find?_put]
  by_cases hk : key = k
  · simp only [if_pos hk, ← Int.not_le, ite_not]
  · rw [if_neg hk, if_neg hk]

theorem value?_delete (server : CacheServer) (key : String) (now later : Instant) (k : String) :
    (server.answer now (.delete key)).2.value? later k =
      if key = k then none else server.value? later k := by
  unfold answer value?
  dsimp only
  rw [Table.find?_erase]
  by_cases hk : key = k
  · rw [if_pos hk, if_pos hk]
  · rw [if_neg hk, if_neg hk]

theorem answer_get (server : CacheServer) (now : Instant) (key : String) :
    server.answer now (.get key) = ((server.value? now key).elim .missing .value, server) := by
  unfold answer
  dsimp only
  cases server.value? now key <;> rfl

end CacheServer

namespace CacheTalk

/-- The link after a command that was answered. -/
def answered (t : CacheTalk) (now : Instant) (command : CacheCommand) : CacheTalk :=
  { t with sent := command.words :: t.sent, server := (t.server.answer now command).2 }

/-- Where no failure is asked for, the server answers. -/
theorem send_ready {t : CacheTalk} (h : t.nextFailure = none) (command : CacheCommand)
    (now : Instant) : link.send command now t =
      (.ok (t.server.answer now command).1, t.answered now command) := by
  change send command now t = _
  unfold send answered
  dsimp only
  rw [h]

theorem answer_expires (server : CacheServer) (now : Instant) (command : CacheCommand) :
    (server.answer now command).2.expires = server.expires := by
  unfold CacheServer.answer
  cases command with
  | ping => rfl
  | get key =>
    dsimp only
    split <;> rfl
  | set key text seconds =>
    dsimp only
    split <;> rfl
  | delete key => rfl

/-- It is asked for no failures, and it lets values go. -/
def Ready (t : CacheTalk) : Prop := t.nextFailure = none ∧ t.server.expires = true

theorem Ready.answered {t : CacheTalk} (h : t.Ready) (now : Instant) (command : CacheCommand) :
    (t.answered now command).Ready :=
  ⟨h.1, (answer_expires ..).trans h.2⟩

theorem link_obeys : link.Obeys Ready (fun t now key => t.server.value? now key) where
  get := fun key now t ht => by
    refine ⟨t.answered now (.get key), ht.answered .., ?_, fun later k _ => ?_⟩
    · rw [send_ready ht.1, CacheServer.answer_get]
    · rw [answered, CacheServer.answer_get]
  set := fun key text seconds now t ht _ =>
    ⟨_, t.answered now (.set key text seconds), ht.answered .., send_ready ht.1 _ now,
      fun later k _ => t.server.value?_set ht.2 key text seconds now later k⟩
  delete := fun key now t ht =>
    ⟨_, t.answered now (.delete key), ht.answered .., send_ready ht.1 _ now,
      fun later k _ => t.server.value?_delete key now later k⟩

end CacheTalk

/-! ### Records in memory -/

namespace MemoryState

variable {now later : Instant}

/-- Whoever looks later does not see that an expired record was dropped. -/
theorem liveAttempt?_dropExpired_later (m : MemoryState) (userId id : Int)
    (h : now.nanos ≤ later.nanos) :
    (m.dropExpired userId now).liveAttempt? id later = m.liveAttempt? id later := by
  by_cases hid : userId = id
  · subst hid
    unfold liveAttempt? dropExpired
    cases hrow : m.attempts.find? userId with
    | none => simp only [hrow]
    | some row =>
      obtain ⟨record, expiry⟩ := row
      dsimp only
      -- The row that is dropped had expired, and at a later time it still has.
      by_cases hexpired : expiry.nanos ≤ now.nanos
      · simp only [if_pos hexpired, Table.find?_erase, if_true]
        rw [if_pos (Int.le_trans hexpired h)]
      · simp only [if_neg hexpired, hrow]
  · unfold liveAttempt?
    rw [find?_dropExpired_of_ne m hid]

/-- No row comes in by dropping one. -/
theorem of_find?_dropExpired {m : MemoryState} {userId id : Int} {row : LoginAttempt × Instant}
    (h : (m.dropExpired userId now).attempts.find? id = some row) :
    m.attempts.find? id = some row := by
  unfold dropExpired at h
  split at h
  · split at h
    · exact Table.find?_of_find?_erase h
    · exact h
  · exact h

theorem liveAttempt?_put (m : MemoryState) (userId id : Int) (record : LoginAttempt)
    (expiry : Instant) :
    liveAttempt? { m with attempts := m.attempts.put userId (record, expiry) } id later =
      if userId = id then if expiry.nanos ≤ later.nanos then none else some record
      else m.liveAttempt? id later := by
  unfold liveAttempt?
  rw [Table.find?_put]
  by_cases hid : userId = id
  · rw [if_pos hid, if_pos hid]
  · rw [if_neg hid, if_neg hid]

theorem liveAttempt?_forget (m : MemoryState) (userId id : Int) :
    (m.forget userId).liveAttempt? id later =
      if userId = id then none else m.liveAttempt? id later := by
  unfold liveAttempt?
  rw [find?_forget]
  by_cases hid : userId = id
  · rw [if_pos hid, if_pos hid]
  · rw [if_neg hid, if_neg hid]

end MemoryState

/-! ### The simulation -/

/-- From now on, the values on the server are the texts of the records in memory, and these can be
read back. -/
structure Mirrors {σ : Type} (value? : σ → Instant → String → Option String) (now : Instant)
    (s : σ) (m : MemoryState) : Prop where
  values : ∀ later id, now.nanos ≤ later.nanos →
    value? s later (CacheLink.attemptKey id) = (m.liveAttempt? id later).map LoginAttempt.text
  writable : ∀ id row, m.attempts.find? id = some row → row.1.Writable

namespace Mirrors

variable {σ : Type} {link : CacheLink σ} {Ready : σ → Prop}
  {value? : σ → Instant → String → Option String} {now later : Instant} {s : σ} {m : MemoryState}

theorem advance (h : Mirrors value? now s m) (hnow : now.nanos ≤ later.nanos) :
    Mirrors value? later s m :=
  ⟨fun u id hu => h.values u id (Int.le_trans hnow hu), h.writable⟩

/-- An empty server and an empty table. -/
theorem start (hs : ∀ later key, value? s later key = none) (hm : m.attempts = {}) :
    Mirrors value? now s m where
  values := fun later id _ => by
    rw [hs, MemoryState.liveAttempt?, hm]
    rfl
  writable := fun id row hrow => by
    rw [hm] at hrow
    cases hrow

theorem get (hlink : link.Obeys Ready value?) (hs : Ready s) (h : Mirrors value? now s m)
    (userId : Int) : ∃ s', Ready s' ∧
      link.findAttempt userId now s = (.ok (m.liveAttempt? userId now), s') ∧
      Mirrors value? now s' (m.dropExpired userId now) := by
  obtain ⟨s', hs', hsend, hkept⟩ := hlink.get (CacheLink.attemptKey userId) now s hs
  refine ⟨s', hs', ?_, ⟨fun later id hlater => ?_, fun id row hrow => ?_⟩⟩
  · have hvalue := h.values now userId (Int.le_refl _)
    unfold CacheLink.findAttempt CacheLink.step
    rw [hsend, hvalue]
    cases hlive : m.liveAttempt? userId now with
    | none => rfl
    | some record =>
      obtain ⟨expiry, hrow, -⟩ := MemoryState.row_of_live hlive
      simp only [Option.map_some, Option.elim_some,
        LoginAttempt.ofText?_text (h.writable userId _ hrow)]
  · rw [hkept later _ hlater, m.liveAttempt?_dropExpired_later userId id hlater]
    exact h.values later id hlater
  · exact h.writable id row (MemoryState.of_find?_dropExpired hrow)

/-- What mirrors a table mirrors it without the record of a user once the key is deleted. -/
theorem forget {s' : σ} (h : Mirrors value? now s m) {userId : Int}
    (hs' : ∀ later k, now.nanos ≤ later.nanos → value? s' later k =
      if CacheLink.attemptKey userId = k then none else value? s later k) :
    Mirrors value? now s' (m.forget userId) where
  values := fun later id hlater => by
    rw [hs' later _ hlater, MemoryState.liveAttempt?_forget, h.values later id hlater]
    simp only [CacheLink.attemptKey_injective.eq_iff]
    split <;> rfl
  writable := fun id row hrow => by
    rw [MemoryState.find?_forget] at hrow
    split at hrow
    · cases hrow
    · exact h.writable id row hrow

/-- It mirrors the table with another record once the text of the record is set. -/
theorem put {s' : σ} (h : Mirrors value? now s m) {userId : Int} {record : LoginAttempt}
    (hrecord : record.Writable) {expiry : Instant}
    (hs' : ∀ later k, now.nanos ≤ later.nanos → value? s' later k =
      if CacheLink.attemptKey userId = k then
        if expiry.nanos ≤ later.nanos then none else some record.text
      else value? s later k) :
    Mirrors value? now s' { m with attempts := m.attempts.put userId (record, expiry) } where
  values := fun later id hlater => by
    rw [hs' later _ hlater, MemoryState.liveAttempt?_put, h.values later id hlater]
    simp only [CacheLink.attemptKey_injective.eq_iff]
    split
    · split <;> rfl
    · rfl
  writable := fun id row hrow => by
    rw [Table.find?_put] at hrow
    split at hrow
    · cases hrow
      exact hrecord
    · exact h.writable id row hrow

theorem set (hlink : link.Obeys Ready value?) (hs : Ready s) (h : Mirrors value? now s m)
    {userId : Int} {record : LoginAttempt} {seconds : Int}
    (hallowed : (AttemptCall.set userId record seconds).Allowed now) : ∃ s' m', Ready s' ∧
      link.stepOnly (CacheLink.putCommand userId record seconds) now s = (.ok (), s') ∧
      MemoryState.putAttempt userId record seconds now m = (.ok (), m') ∧
      Mirrors value? now s' m' := by
  obtain ⟨hrecord, hend⟩ := hallowed
  unfold CacheLink.stepOnly CacheLink.step CacheLink.putCommand MemoryState.putAttempt
  by_cases hseconds : seconds ≤ 0
  · obtain ⟨reply, s', hs', hsend, hvalues⟩ :=
      hlink.delete (CacheLink.attemptKey userId) now s hs
    rw [if_pos hseconds, if_pos hseconds, hsend]
    exact ⟨s', _, hs', rfl, rfl, h.forget hvalues⟩
  · -- The seconds that the server counts end at the instant that memory keeps.
    have hpositive := Int.not_le.mp hseconds
    obtain ⟨expiry, hexpiry⟩ := Option.isSome_iff_exists.mp (hend hpositive)
    obtain ⟨rfl, -⟩ := Instant.of_addSeconds? hexpiry
    obtain ⟨reply, s', hs', hsend, hvalues⟩ :=
      hlink.set (CacheLink.attemptKey userId) record.text seconds now s hs hpositive
    rw [if_neg hseconds, if_neg hseconds, hsend, hexpiry]
    exact ⟨s', _, hs', rfl, rfl, h.put hrecord hvalues⟩

/-- A call is answered alike on the server and in memory, and the states stay alike. -/
theorem step (hlink : link.Obeys Ready value?) (hs : Ready s) (h : Mirrors value? now s m)
    {call : AttemptCall} (hallowed : call.Allowed now) : ∃ answer s' m', Ready s' ∧
      call.step link.attemptStore now s = (answer, s') ∧
      call.step MemoryState.attemptStore now m = (answer, m') ∧ Mirrors value? now s' m' := by
  cases call with
  | get userId =>
    obtain ⟨s', hs', hfind, hmirrors⟩ := h.get hlink hs userId
    exact ⟨_, s', _, hs', hfind, m.findAttempt_eq userId now, hmirrors⟩
  | set userId record seconds =>
    obtain ⟨s', m', hs', hserver, hmemory, hmirrors⟩ := h.set hlink hs hallowed
    refine ⟨.ok none, s', m', hs', ?_, ?_, hmirrors⟩
    · change StoreStep.map _ (link.stepOnly _) now s = _
      rw [StoreStep.map, hserver]
      rfl
    · change StoreStep.map _ (MemoryState.putAttempt _ _ _) now m = _
      rw [StoreStep.map, hmemory]
      rfl

/-- So a whole run is answered alike, as long as the clock never goes back. -/
theorem run (hlink : link.Obeys Ready value?) (hs : Ready s) (h : Mirrors value? now s m)
    {calls : List (Instant × AttemptCall)}
    (hclock : calls.Pairwise fun a b => a.1.nanos ≤ b.1.nanos)
    (hstart : ∀ c ∈ calls, now.nanos ≤ c.1.nanos) (hallowed : ∀ c ∈ calls, c.2.Allowed c.1) :
    AttemptCall.run link.attemptStore s calls =
      AttemptCall.run MemoryState.attemptStore m calls := by
  induction calls generalizing s m now with
  | nil => rfl
  | cons call rest ih =>
    obtain ⟨hnext, hrest⟩ := List.pairwise_cons.mp hclock
    obtain ⟨hcall, hallowed⟩ := List.forall_mem_cons.mp hallowed
    have hmirrors := h.advance (hstart call List.mem_cons_self)
    obtain ⟨answer, s', m', hs', hserver, hmemory, hmirrors⟩ := hmirrors.step hlink hs hcall
    rw [AttemptCall.run, AttemptCall.run, hserver, hmemory]
    exact congrArg (answer :: ·) (ih hs' hmirrors hrest hnext hallowed)

end Mirrors

/-- On a server that obeys, a run of calls is answered as in memory: from empty stores, with records
that can be written and a clock that never goes back. No two users share a key, and the text of a
record is read back as that record. -/
theorem attempts_refine {σ : Type} {link : CacheLink σ} {Ready : σ → Prop}
    {value? : σ → Instant → String → Option String} (hlink : link.Obeys Ready value?)
    {s : σ} (hs : Ready s) (hempty : ∀ now key, value? s now key = none)
    {m : MemoryState} (hm : m.attempts = {}) {calls : List (Instant × AttemptCall)}
    (hclock : calls.Pairwise fun a b => a.1.nanos ≤ b.1.nanos)
    (hallowed : ∀ c ∈ calls, c.2.Allowed c.1) :
    AttemptCall.run link.attemptStore s calls =
        AttemptCall.run MemoryState.attemptStore m calls ∧
      Function.Injective CacheLink.attemptKey ∧
      ∀ record : LoginAttempt, record.Writable →
        LoginAttempt.ofText? record.text = some record := by
  refine ⟨?_, CacheLink.attemptKey_injective, fun record => LoginAttempt.ofText?_text⟩
  cases calls with
  | nil => rfl
  | cons call rest =>
    have hmirrors : Mirrors value? call.1 s m := .start hempty hm
    refine hmirrors.run hlink hs hclock (List.forall_mem_cons.mpr ⟨Int.le_refl _, ?_⟩) hallowed
    exact (List.pairwise_cons.mp hclock).1

namespace Sample

/-- Two failures, with dates of half a second. -/
def twoFailures : LoginAttempt :=
  ⟨2, ⟨1700000000500000000, false⟩, ⟨1700000060500000000, false⟩⟩

/-- A record is kept for a minute and asked for in its last second and after it. -/
def keptForAMinute : List (Instant × AttemptCall) :=
  [(.ofSeconds 100, .set 7 twoFailures 60), (.ofSeconds 159, .get 7), (.ofSeconds 160, .get 7)]

theorem twoFailures_writable : twoFailures.Writable :=
  ⟨by decide, ⟨by decide, by decide⟩, ⟨by decide, by decide⟩⟩

theorem server_keeps_for_a_minute :
    AttemptCall.run CacheTalk.link.attemptStore {} keptForAMinute =
      [.ok none, .ok (some twoFailures), .ok none] := by
  have hallowed : ∀ c ∈ keptForAMinute, c.2.Allowed c.1 :=
    List.forall_mem_cons.mpr ⟨⟨twoFailures_writable, fun _ => by decide⟩,
      List.forall_mem_cons.mpr ⟨trivial, List.forall_mem_singleton.mpr trivial⟩⟩
  have hrefine := attempts_refine CacheTalk.link_obeys (s := {}) ⟨rfl, rfl⟩ (fun _ _ => rfl)
    (m := {}) rfl (by decide) hallowed
  rw [hrefine.1]
  decide

end Sample

end Turnstile
