import Turnstile.Proofs.Policy.Membership

/-!
In which order a user was given roles. The tables only say which roles a user has. Since when they
have them is told by the history: from the call on that gave a role which they did not have, and that
no later call took. The identifiers of the roles are in this order as long as every role that is
given is a later one than those that the user has already.
-/

namespace Turnstile

variable [SizeLimit]

/-- The user has the role from the call at this place of the history on: it gave them the role,
which was not theirs before, and no later call takes it. -/
def HeldFrom (m : MemoryService) (history : List Call) (userId roleId : Int) (place : Nat) : Prop :=
  ∃ pre c post, history = pre ++ c :: post ∧ pre.length = place ∧ c.Gives m userId roleId ∧
    (userId, roleId) ∉ c.world.stores.policies.userRoles ∧ ∀ d ∈ post, ¬ d.Takes userId roleId

/-- Of the roles that the user has, this one was given first. -/
def Earliest (m : MemoryService) (history : List Call) (userId roleId : Int) : Prop :=
  ∃ place, HeldFrom m history userId roleId place ∧
    ∀ other later, HeldFrom m history userId other later → place ≤ later

/-- Of two roles of the user the one with the higher identifier was given later. -/
def GrantedInOrder (m : MemoryService) (history : List Call) (userId : Int) : Prop :=
  ∀ roleId roleId' place place', HeldFrom m history userId roleId place →
    HeldFrom m history userId roleId' place' → roleId < roleId' → place < place'

namespace Call

/-- A new role that the call gives to the user comes after all that they have. -/
def GivesUpwards (m : MemoryService) (c : Call) (userId : Int) : Prop :=
  ∀ roleId, c.Gives m userId roleId → (userId, roleId) ∉ c.world.stores.policies.userRoles →
    ∀ other, (userId, other) ∈ c.world.stores.policies.userRoles → other < roleId

variable {m : MemoryService} {c : Call} {userId roleId userId' roleId' : Int}

theorem Gives.unique (h : c.Gives m userId roleId) (h' : c.Gives m userId' roleId') :
    userId' = userId ∧ roleId' = roleId := by
  rcases h with ⟨hop, -⟩ | ⟨request, profile, role, hop, hok, rfl, hrole, rfl⟩
  · rcases h' with ⟨hop', -⟩ | ⟨_, _, _, hop', -⟩
    · rw [hop] at hop'
      cases hop'
      exact ⟨rfl, rfl⟩
    · cases hop.symm.trans hop'
  · rcases h' with ⟨hop', -⟩ | ⟨request', profile', role', hop', hok', rfl, hrole', rfl⟩
    · cases hop.symm.trans hop'
    · cases hop.symm.trans hop'
      cases hok.symm.trans hok'
      cases hrole.symm.trans hrole'
      exact ⟨rfl, rfl⟩

theorem Gives.not_takes (h : c.Gives m userId roleId) : ¬ c.Takes userId' roleId' := by
  rintro (hop' | hop') <;> rcases h with ⟨hop, -⟩ | ⟨_, _, _, hop, -⟩ <;>
    cases hop.symm.trans hop'

end Call

section Concat

variable {m : MemoryService} {history : List Call} {c : Call} {userId roleId : Int} {place : Nat}

theorem not_heldFrom_nil : ¬ HeldFrom m [] userId roleId place := by
  rintro ⟨pre, c, post, hhistory, -⟩
  cases pre <;> cases hhistory

/-- After one call more the user has the roles that it leaves, from where they had them, and a new
one if it gives one. -/
theorem heldFrom_concat : HeldFrom m (history ++ [c]) userId roleId place ↔
    HeldFrom m history userId roleId place ∧ ¬ c.Takes userId roleId ∨
      place = history.length ∧ c.Gives m userId roleId ∧
        (userId, roleId) ∉ c.world.stores.policies.userRoles := by
  constructor
  · rintro ⟨pre, d, post, hhistory, hplace, hgives, hnew, hkept⟩
    rcases List.eq_nil_or_concat post with rfl | ⟨post, last, rfl⟩
    · obtain ⟨rfl, hlast⟩ := List.append_inj' hhistory rfl
      cases hlast
      exact .inr ⟨hplace.symm, hgives, hnew⟩
    · rw [List.concat_eq_append] at hhistory hkept
      rw [← List.cons_append, ← List.append_assoc] at hhistory
      obtain ⟨rfl, hlast⟩ := List.append_inj' hhistory rfl
      cases hlast
      refine .inl ⟨⟨pre, d, post, rfl, hplace, hgives, hnew, fun e he => ?_⟩, ?_⟩
      · exact hkept e (List.mem_append_left _ he)
      · exact hkept c (by simp)
  · rintro (⟨⟨pre, d, post, rfl, hplace, hgives, hnew, hkept⟩, hleft⟩ | ⟨hplace, hgives, hnew⟩)
    · refine ⟨pre, d, post ++ [c], by simp, hplace, hgives, hnew, ?_⟩
      exact List.forall_mem_append.mpr ⟨hkept, List.forall_mem_singleton.mpr hleft⟩
    · exact ⟨history, c, [], rfl, hplace.symm, hgives, hnew, List.forall_mem_nil _⟩

/-- An assignment takes no role, and gives this one if it is new. -/
theorem Call.Assigns.heldFrom_concat {given : Int} (h : c.Assigns m userId given) :
    HeldFrom m (history ++ [c]) userId roleId place ↔ HeldFrom m history userId roleId place ∨
      place = history.length ∧ roleId = given ∧
        (userId, roleId) ∉ c.world.stores.policies.userRoles := by
  have hgives : c.Gives m userId roleId ↔ roleId = given :=
    ⟨fun h' => (Call.Gives.unique (.inl h) h').2, fun heq => heq ▸ .inl h⟩
  have hkept : ¬ c.Takes userId roleId := Call.Gives.not_takes (.inl h)
  rw [Turnstile.heldFrom_concat, hgives, and_iff_left hkept]

theorem HeldFrom.lt_length (h : HeldFrom m history userId roleId place) :
    place < history.length := by
  obtain ⟨pre, c, post, rfl, rfl, -⟩ := h
  simp

end Concat

section Runs

variable {m : MemoryService} {w : World MemoryState} {userId roleId : Int}

/-- From tables without roles on, users have just the roles that they have from some call on. -/
theorem MemoryService.mem_userRoles_iff_heldFrom (hempty : w.stores.policies = {})
    (ops : List Operation) :
    (userId, roleId) ∈ (m.after w ops).stores.policies.userRoles ↔
      ∃ place, HeldFrom m (m.calls w ops) userId roleId place := by
  induction ops using List.reverseRecOn with
  | nil =>
    refine ⟨fun hlink => ?_, fun ⟨_, h⟩ => absurd h not_heldFrom_nil⟩
    rw [MemoryService.after, List.foldl_nil, hempty] at hlink
    cases hlink
  | append_singleton ops op ih =>
    have hkept : (m.after w ops).stores.policies.RolesKept :=
      MemoryService.after_rolesKept (hempty ▸ .empty) ops
    let c : Call := ⟨m.after w ops, op⟩
    have hstep : (userId, roleId) ∈ (c.next m).stores.policies.userRoles ↔
        c.Gives m userId roleId ∨
          (userId, roleId) ∈ c.world.stores.policies.userRoles ∧ ¬ c.Takes userId roleId :=
      Call.mem_userRoles_next hkept
    have hlast : m.after w (ops ++ [op]) = c.next m := m.after_append w ops [op]
    rw [hlast, hstep, m.calls_concat]
    constructor
    · intro h
      by_cases hheld : (userId, roleId) ∈ c.world.stores.policies.userRoles
      · have hleft : ¬ c.Takes userId roleId := h.elim (·.not_takes) (·.2)
        obtain ⟨place, hplace⟩ := ih.mp hheld
        exact ⟨place, heldFrom_concat.mpr (.inl ⟨hplace, hleft⟩)⟩
      · have hgives : c.Gives m userId roleId := h.resolve_right fun hold => hheld hold.1
        exact ⟨_, heldFrom_concat.mpr (.inr ⟨rfl, hgives, hheld⟩)⟩
    · rintro ⟨place, hplace⟩
      rcases heldFrom_concat.mp hplace with ⟨hold, hleft⟩ | ⟨-, hgives, -⟩
      · exact .inr ⟨ih.mpr ⟨place, hold⟩, hleft⟩
      · exact .inl hgives

/-- There is no second call from which on a user has a role. -/
theorem MemoryService.heldFrom_unique (hempty : w.stores.policies = {}) {ops : List Operation}
    {place place' : Nat} (h : HeldFrom m (m.calls w ops) userId roleId place)
    (h' : HeldFrom m (m.calls w ops) userId roleId place') : place' = place := by
  induction ops using List.reverseRecOn with
  | nil => exact absurd h not_heldFrom_nil
  | append_singleton ops op ih =>
    have hheld {place : Nat} (h : HeldFrom m (m.calls w ops) userId roleId place) :
        (userId, roleId) ∈ (m.after w ops).stores.policies.userRoles :=
      (MemoryService.mem_userRoles_iff_heldFrom hempty ops).mpr ⟨place, h⟩
    rw [m.calls_concat, heldFrom_concat] at h h'
    rcases h with ⟨hold, -⟩ | ⟨rfl, -, hnew⟩
    · rcases h' with ⟨hold', -⟩ | ⟨-, -, hnew'⟩
      · exact ih hold hold'
      · exact absurd (hheld hold) hnew'
    · rcases h' with ⟨hold', -⟩ | ⟨rfl, -, -⟩
      · exact absurd (hheld hold') hnew
      · rfl

/-- After roles in order the next call keeps the order exactly if it gives upwards. -/
theorem MemoryService.grantedInOrder_concat_iff (hempty : w.stores.policies = {})
    {ops : List Operation} (h : GrantedInOrder m (m.calls w ops) userId) (op : Operation) :
    GrantedInOrder m (m.calls w (ops ++ [op])) userId ↔
      Call.GivesUpwards m ⟨m.after w ops, op⟩ userId := by
  rw [m.calls_concat]
  constructor
  · intro horder roleId hgives hnew other hother
    obtain ⟨place, hplace⟩ := (MemoryService.mem_userRoles_iff_heldFrom hempty ops).mp hother
    have hold := heldFrom_concat.mpr (.inl ⟨hplace, hgives.not_takes⟩)
    have hlast : HeldFrom m (m.calls w ops ++ [⟨m.after w ops, op⟩]) userId roleId
        (m.calls w ops).length := heldFrom_concat.mpr (.inr ⟨rfl, hgives, hnew⟩)
    rcases Int.lt_trichotomy other roleId with hlt | rfl | hgt
    · exact hlt
    · exact absurd hother hnew
    · have hbefore := horder _ _ _ _ hlast hold hgt
      have hlt := hplace.lt_length
      omega
  · intro hupwards roleId roleId' place place' hheld hheld' hlt
    rcases heldFrom_concat.mp hheld with ⟨hold, -⟩ | ⟨rfl, hgives, hnew⟩
    · rcases heldFrom_concat.mp hheld' with ⟨hold', -⟩ | ⟨rfl, -, -⟩
      · exact h _ _ _ _ hold hold' hlt
      · exact hold.lt_length
    · rcases heldFrom_concat.mp hheld' with ⟨hold', -⟩ | ⟨-, hgives', -⟩
      · have hother := (MemoryService.mem_userRoles_iff_heldFrom hempty ops).mpr ⟨_, hold'⟩
        have hgt := hupwards _ hgives hnew _ hother
        omega
      · obtain ⟨-, rfl⟩ := hgives.unique hgives'
        omega

/-- In all states of a run the roles of a user are in the order in which they were given, exactly
if every call that gives the user a role gives upwards. -/
theorem MemoryService.grantedInOrder_iff (hempty : w.stores.policies = {}) (ops : List Operation)
    (userId : Int) :
    (∀ pre, pre <+: ops → GrantedInOrder m (m.calls w pre) userId) ↔
      ∀ c ∈ m.calls w ops, c.GivesUpwards m userId := by
  induction ops using List.reverseRecOn with
  | nil =>
    refine ⟨fun _ => List.forall_mem_nil _, fun _ pre hpre => ?_⟩
    obtain rfl := List.prefix_nil.mp hpre
    exact fun _ _ _ _ h => absurd h not_heldFrom_nil
  | append_singleton ops op ih =>
    rw [m.calls_concat, List.forall_mem_append, List.forall_mem_singleton, ← ih]
    constructor
    · intro hall
      have hold : ∀ pre, pre <+: ops → GrantedInOrder m (m.calls w pre) userId :=
        fun pre hpre => hall pre (hpre.trans (List.prefix_append ops [op]))
      have hlast := hold ops (List.prefix_refl ops)
      exact ⟨hold, (grantedInOrder_concat_iff hempty hlast op).mp (hall _ (List.prefix_refl _))⟩
    · rintro ⟨hold, hupwards⟩ pre hpre
      rcases List.prefix_concat_iff.mp hpre with rfl | hshorter
      · exact (grantedInOrder_concat_iff hempty (hold ops (List.prefix_refl ops)) op).mpr hupwards
      · exact hold pre hshorter

end Runs

end Turnstile
