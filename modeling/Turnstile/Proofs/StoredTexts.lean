import Turnstile.Proofs.FirstLogin
import Turnstile.Proofs.Policy.Membership

/-!
The texts that are stored, and the rules for their lengths. A request is checked as it comes, and
stored without the white space at the ends of its texts. So no stored text is longer than its rule
allows, but a text can be shorter than it has to be: nothing is left of white space alone.
-/

namespace Turnstile

/-- A text, and the least and the greatest number of characters that it may have. -/
structure BoundedText where
  value : String
  low : Nat
  high : Nat

namespace BoundedText

def IsKept (text : BoundedText) : Prop :=
  text.low ≤ text.value.length ∧ text.value.length ≤ text.high

/-- The text as it is stored. -/
def trimmed (text : BoundedText) : BoundedText := { text with value := Text.trim text.value }

end BoundedText

/-! ### What is stored -/

def User.texts (u : User) : List BoundedText := [⟨u.name, 1, 100⟩, ⟨u.phone, 6, 20⟩]

def Role.texts (r : Role) : List BoundedText := [⟨r.name, 1, 64⟩]

def Permission.texts (p : Permission) : List BoundedText := [⟨p.name, 1, 64⟩]

def Resource.texts (r : Resource) : List BoundedText :=
  [⟨r.name, 0, 64⟩, ⟨r.method, 1, 64⟩, ⟨r.path, 1, 255⟩]

/-- One of the values of the table has the text. -/
def Table.HasText {κ α : Type} (t : Table κ α) (texts : α → List BoundedText)
    (text : BoundedText) : Prop :=
  ∃ a ∈ t.values, text ∈ texts a

def PolicyTables.HasText (t : PolicyTables) (text : BoundedText) : Prop :=
  t.roles.HasText Role.texts text ∨ t.permissions.HasText Permission.texts text ∨
    t.resources.HasText Resource.texts text

def MemoryState.HasText (s : MemoryState) (text : BoundedText) : Prop :=
  s.users.HasText User.texts text ∨ s.policies.HasText text

/-- All stored texts have as many characters as they must and may have. -/
def MemoryState.KeepsRules (s : MemoryState) : Prop := ∀ text, s.HasText text → text.IsKept

/-! ### What is asked for -/

/-- The texts of an operation on the tables of policies. -/
def PolicyOperation.texts : PolicyOperation → List BoundedText
  | createRole entry _ | updateRole _ entry | createPermission entry _
  | updatePermission _ entry => [⟨entry.name, 1, 64⟩]
  | createResource asked | updateResource _ asked =>
    [⟨asked.name, 0, 64⟩, ⟨asked.method, 1, 64⟩, ⟨asked.path, 1, 255⟩]
  | _ => []

/-- The texts that a registration asks for, as they were sent. -/
def RegisterRequest.texts (request : RegisterRequest) : List BoundedText :=
  [⟨request.name, 1, 100⟩, ⟨request.phone, 6, 20⟩]

def ResourceRequest.texts (request : ResourceRequest) : List BoundedText :=
  [⟨request.name, 0, 64⟩, ⟨request.method, 1, 64⟩, ⟨request.path, 1, 255⟩]

/-- The texts that a call of the administration asks for, as they were sent. -/
def AdminCall.texts : AdminCall → List BoundedText
  | addRole request | updateRole _ request => [⟨request.name, 1, 64⟩]
  | addPermission request | updatePermission _ request => [⟨request.name, 1, 64⟩]
  | addResource request | updateResource _ request => request.texts
  | _ => []

def Operation.texts : Operation → List BoundedText
  | register request => request.texts
  | admin call => call.texts
  | _ => []

/-- The call stores its texts: a user is registered, or the tables of policies are changed. What
comes of the rules after the change does not matter. -/
def Call.GoesThrough (m : MemoryService) (c : Call) : Prop :=
  (∃ request profile, c.operation = .register request ∧
    ((m.app.register request).runOn c.world).1 = .ok profile) ∨
  ∃ call t, c.operation = .admin call ∧
    call.change c.world.now c.world.stores.policies = .ok ((), t)

/-! ### The rules of requests -/

section Checks

variable {text : BoundedText}

theorem BoundedText.IsKept.of_check {α : Type} [Request α] {a : α} (h : Request.check a = .ok ())
    (hrule : ∃ field message,
      FieldRule.length field message text.value text.low (some text.high) ∈ Request.rules a) :
    text.IsKept := by
  obtain ⟨field, message, hrule⟩ := hrule
  have hkept := FieldRule.isKept_of_checkAll h _ hrule
  simpa [FieldRule.length, IsKept] using hkept

theorem RegisterRequest.isKept_of_check {request : RegisterRequest}
    (h : Request.check request = .ok ()) (htext : text ∈ request.texts) : text.IsKept := by
  refine .of_check h ?_
  rcases List.mem_pair.mp htext with rfl | rfl
  · exact ⟨"name", "Name is required", by simp [Request.rules]⟩
  · exact ⟨"phone", "Phone must be 6 to 20 characters", by simp [Request.rules]⟩

theorem ResourceRequest.isKept_of_check {request : ResourceRequest}
    (h : Request.check request = .ok ()) (htext : text ∈ request.texts) : text.IsKept := by
  refine .of_check h ?_
  rcases List.mem_cons.mp htext with rfl | hrest
  · exact ⟨"name", "Resource name is too long", by simp [Request.rules]⟩
  · rcases List.mem_pair.mp hrest with rfl | rfl
    · exact ⟨"method", "Method is required", by simp [Request.rules]⟩
    · exact ⟨"path", "Path is required", by simp [Request.rules]⟩

/-- Where a change is made, the texts that were sent keep their rules. -/
theorem AdminCall.isKept_of_change {call : AdminCall} {now : Instant} {t t' : PolicyTables}
    (h : call.change now t = .ok ((), t')) (htext : text ∈ call.texts) : text.IsKept := by
  cases call with
  | addRole request | updateRole _ request =>
    obtain rfl := List.mem_singleton.mp htext
    exact .of_check (PolicyTables.Change.check_of_after h)
      ⟨"name", "Role name is required", by simp [Request.rules]⟩
  | addPermission request | updatePermission _ request =>
    obtain rfl := List.mem_singleton.mp htext
    exact .of_check (PolicyTables.Change.check_of_after h)
      ⟨"name", "Permission name is required", by simp [Request.rules]⟩
  | addResource request | updateResource _ request =>
    exact request.isKept_of_check (PolicyTables.Change.check_of_after h) htext
  | _ => cases htext

theorem Call.GoesThrough.isKept {m : MemoryService} {c : Call} (h : c.GoesThrough m)
    (htext : text ∈ c.operation.texts) : text.IsKept := by
  rcases h with ⟨request, profile, hop, hok⟩ | ⟨call, t, hop, hchange⟩
  · rw [hop] at htext
    exact RegisterRequest.isKept_of_check (check_of_register hok) htext
  · rw [hop] at htext
    exact AdminCall.isKept_of_change hchange htext

end Checks

/-! ### Changes of a table -/

namespace Table.HasText

variable {κ α : Type} [DecidableEq κ] {t : Table κ α} {k : κ} {a : α}
  {texts : α → List BoundedText} {text : BoundedText}

theorem of_put [LT κ] [DecidableLT κ] (h : (t.put k a).HasText texts text) :
    t.HasText texts text ∨ text ∈ texts a := by
  obtain ⟨b, hb, htext⟩ := h
  rcases Table.mem_values_put hb with rfl | hold
  · exact .inr htext
  · exact .inl ⟨b, hold, htext⟩

theorem put [LT κ] [DecidableLT κ] (h : text ∈ texts a) : (t.put k a).HasText texts text :=
  ⟨a, Table.mem_values_put_self t k a, h⟩

theorem of_erase (h : (t.erase k).HasText texts text) : t.HasText texts text := by
  obtain ⟨b, hb, htext⟩ := h
  exact ⟨b, Table.mem_values_erase hb, htext⟩

/-- A change that keeps the texts of a value keeps those of the table. -/
theorem of_change {f : α → α} (h : (t.change k f).HasText texts text)
    (hf : ∀ b, texts (f b) = texts b) : t.HasText texts text := by
  obtain ⟨b, hb, htext⟩ := h
  obtain ⟨row, hrow, rfl⟩ := List.mem_map.mp hb
  rcases Table.mem_change hrow with hold | ⟨old, hold, rfl⟩
  · exact ⟨row.2, List.mem_map_of_mem hold, htext⟩
  · exact ⟨old.2, List.mem_map_of_mem hold, hf old.2 ▸ htext⟩

end Table.HasText

/-! ### Changes of the tables of policies -/

section Changes

variable {now : Instant} {t t' : PolicyTables} {text : BoundedText}

theorem PolicyTables.Made.of_hasText {op : PolicyOperation} {issued : Option Int}
    (h : Made now t op issued t') (htext : t'.HasText text) :
    t.HasText text ∨ text ∈ op.texts := by
  cases h with
  | roleCreated | roleUpdated =>
    rcases htext with hroles | hother
    · exact hroles.of_put.imp_left .inl
    · exact .inl (.inr hother)
  | roleDeleted => exact .inl (htext.imp_left .of_erase)
  | permissionCreated | permissionUpdated =>
    rcases htext with hroles | hpermissions | hresources
    · exact .inl (.inl hroles)
    · exact hpermissions.of_put.imp_left fun hold => .inr (.inl hold)
    · exact .inl (.inr (.inr hresources))
  | permissionDeleted => exact .inl (htext.imp_right (.imp_left .of_erase))
  | resourceCreated | resourceUpdated =>
    rcases htext with hroles | hpermissions | hresources
    · exact .inl (.inl hroles)
    · exact .inl (.inr (.inl hpermissions))
    · exact hresources.of_put.imp_left fun hold => .inr (.inr hold)
  | resourceDeleted => exact .inl (htext.imp_right (.imp_right .of_erase))
  | _ => exact .inl htext

theorem PolicyTables.Made.hasText {op : PolicyOperation} {issued : Option Int}
    (h : Made now t op issued t') (htext : text ∈ op.texts) : t'.HasText text := by
  cases h with
  | roleCreated | roleUpdated => exact .inl (.put htext)
  | permissionCreated | permissionUpdated => exact .inr (.inl (.put htext))
  | resourceCreated | resourceUpdated => exact .inr (.inr (.put htext))
  | _ => cases htext

namespace AdminCall

variable {call : AdminCall}

/-- The operation that a call makes has the texts of the call without white space at their ends. -/
theorem texts_of_operation? {op : PolicyOperation} (h : call.operation? = some op) :
    op.texts = call.texts.map .trimmed := by
  cases call with
  | assignPermissions _ ids | removePermissions _ ids | assignResources _ ids
  | removeResources _ ids =>
    cases ids <;> cases h
    rfl
  | userPermissions | loadPolicy | reload => cases h
  | _ => cases h; rfl

theorem texts_of_no_operation (h : call.operation? = none) : call.texts = [] := by
  cases call with
  | assignPermissions | removePermissions | assignResources | removeResources | userPermissions
  | loadPolicy | reload => rfl
  | _ => cases h

theorem of_hasText_change (h : call.change now t = .ok ((), t')) (htext : t'.HasText text) :
    t.HasText text ∨ text ∈ call.texts.map .trimmed := by
  rcases of_change h with ⟨-, rfl⟩ | ⟨op, issued, hop, hmade⟩
  · exact .inl htext
  · rw [← texts_of_operation? hop]
    exact hmade.of_hasText htext

theorem hasText_of_change (h : call.change now t = .ok ((), t')) (htext : text ∈ call.texts) :
    t'.HasText text.trimmed := by
  rcases of_change h with ⟨hnone, rfl⟩ | ⟨op, issued, hop, hmade⟩
  · rw [texts_of_no_operation hnone] at htext
    cases htext
  · refine hmade.hasText ?_
    rw [texts_of_operation? hop]
    exact List.mem_map_of_mem htext

end AdminCall

end Changes

/-! ### Steps -/

section Steps

variable {m : MemoryService} {c : Call} {text : BoundedText}

/-- A registration leaves the accounts as they are, or answers with the one that it has added: the
default role is one that can be given. -/
theorem RegisterEnd.added {request : RegisterRequest} {w v : World MemoryState}
    {answer : Except Failure UserProfile} (h : RegisterEnd m request w answer v)
    (hkept : w.stores.policies.RolesKept) (hrows : w.stores.policies.roles.Ascending) :
    v.stores.users = w.stores.users ∨
      ∃ user, answer = .ok user.profile ∧ (m.app.newUser request w.drawn).Makes user ∧
        v.stores.users = w.stores.users.put user.id user := by
  cases h with
  | invalid => exact .inl rfl
  | known => exact .inl rfl
  | clashed hcreate =>
    obtain rfl := MemoryState.of_createUser_error hcreate
    exact .inl rfl
  | alone hcreate =>
    obtain ⟨-, -, rfl⟩ := MemoryState.of_createUser hcreate
    exact .inr ⟨_, rfl, (MemoryState.of_createUser_made hcreate).1, rfl⟩
  | joined hcreate =>
    obtain ⟨-, -, rfl⟩ := MemoryState.of_createUser hcreate
    exact .inr ⟨_, rfl, (MemoryState.of_createUser_made hcreate).1, rfl⟩
  | @unassigned user _ role _ hcreate hrole hassign =>
    obtain ⟨-, -, rfl⟩ := MemoryState.of_createUser hcreate
    have hthere : w.stores.policies.roles.contains role.id = true :=
      Option.isSome_of_eq_some (hkept.find?_defaultRole hrows hrole)
    unfold PolicyTables.assignRole PolicyTables.requireRole at hassign
    rw [if_pos hthere] at hassign
    cases hassign

theorem NewUser.Makes.texts {request : RegisterRequest} {number : Nat} {user : User}
    (h : (m.app.newUser request number).Makes user) :
    user.texts = request.texts.map .trimmed := by
  unfold User.texts
  rw [h.name, h.phone]
  rfl

variable [SizeLimit]

theorem Call.of_users_next (hkept : c.world.stores.policies.RolesKept)
    (hrows : c.world.stores.policies.roles.Ascending)
    (h : (c.next m).stores.users.HasText User.texts text) :
    c.world.stores.users.HasText User.texts text ∨
      c.GoesThrough m ∧ text ∈ c.operation.texts.map .trimmed := by
  by_cases hregister : ∃ request, c.operation = .register request
  · obtain ⟨request, hop⟩ := hregister
    rw [next_of_register hop] at h
    rcases (register_ends m request c.world).added hkept hrows with hsame | ⟨user, hok, hmade, hput⟩
    · exact .inl (hsame ▸ h)
    · rw [hput] at h
      rcases h.of_put with hold | htext
      · exact .inl hold
      · refine .inr ⟨.inl ⟨request, _, hop, hok⟩, ?_⟩
        rw [hop]
        exact hmade.texts ▸ htext
  · have hstep := account_step m c
    generalize (c.next m).stores.users = users at hstep h
    -- Another status is all that other calls give to an account.
    cases hstep with
    | kept => exact .inl h
    | created hop => exact absurd ⟨_, hop⟩ hregister
    | lockedOut | given => exact .inl (h.of_change fun _ => rfl)

theorem Call.of_policies_next (h : (c.next m).stores.policies.HasText text) :
    c.world.stores.policies.HasText text ∨
      c.GoesThrough m ∧ text ∈ c.operation.texts.map .trimmed := by
  have hstep := policy_step m c
  generalize (c.next m).stores.policies = t, (c.next m).engine = e at hstep h
  cases hstep with
  | kept => exact .inl h
  | @administered call _ _ hop hchange =>
    rcases AdminCall.of_hasText_change hchange h with hold | htext
    · exact .inl hold
    · refine .inr ⟨.inr ⟨call, t, hop, hchange⟩, ?_⟩
      rw [hop]
      exact htext
  | joined _ hassign =>
    obtain ⟨-, rfl⟩ := PolicyTables.of_assignRole hassign
    exact .inl h

/-- After a step there are no texts but the old ones, and those of a call that goes through. -/
theorem Call.of_hasText_next (hkept : c.world.stores.policies.RolesKept)
    (hrows : c.world.stores.policies.roles.Ascending) (h : (c.next m).stores.HasText text) :
    c.world.stores.HasText text ∨ c.GoesThrough m ∧ text ∈ c.operation.texts.map .trimmed := by
  rcases h with husers | hpolicies
  · exact (Call.of_users_next hkept hrows husers).imp_left .inl
  · exact (Call.of_policies_next hpolicies).imp_left .inr

/-- The texts of a call that goes through are stored. -/
theorem Call.GoesThrough.hasText (h : c.GoesThrough m) (htext : text ∈ c.operation.texts) :
    (c.next m).stores.HasText text.trimmed := by
  rcases h with ⟨request, profile, hop, hok⟩ | ⟨call, t, hop, hchange⟩
  · rw [hop] at htext
    rw [next_of_register hop]
    rcases (register_ends m request c.world).users with
      ⟨-, hfails⟩ | ⟨user, s, hcreate, husers, -⟩
    · exact absurd hok (hfails profile)
    · have hmade := (MemoryState.of_createUser_made hcreate).1
      obtain ⟨-, -, rfl⟩ := MemoryState.of_createUser hcreate
      refine .inl ?_
      rw [husers]
      exact .put (hmade.texts ▸ List.mem_map_of_mem htext)
  · rw [hop] at htext
    rw [next_of_admin hop]
    refine .inr ?_
    rw [AdminCall.policies_of_change hchange]
    exact AdminCall.hasText_of_change hchange htext

end Steps

/-! ### Runs -/

section Runs

variable {m : MemoryService} {w : World MemoryState} {text : BoundedText}

theorem MemoryState.not_hasText {s : MemoryState} (hnobody : s.users = {}) (hempty : s.policies = {}) :
    ¬ s.HasText text := by
  unfold MemoryState.HasText PolicyTables.HasText
  rw [hnobody, hempty]
  rintro (⟨_, h, -⟩ | ⟨_, h, -⟩ | ⟨_, h, -⟩ | ⟨_, h, -⟩) <;> cases h

theorem MemoryService.of_hasText_concat [SizeLimit] (hempty : w.stores.policies = {})
    {ops : List Operation} {op : Operation} (h : (m.after w (ops ++ [op])).stores.HasText text) :
    (m.after w ops).stores.HasText text ∨
      Call.GoesThrough m ⟨m.after w ops, op⟩ ∧ text ∈ op.texts.map .trimmed := by
  rw [m.after_append] at h
  exact Call.of_hasText_next (c := ⟨m.after w ops, op⟩)
    (MemoryService.after_rolesKept (hempty ▸ .empty) ops)
    (MemoryService.after_rolesAscending (hempty ▸ .nil) ops) h

/-- Every text that is stored after a run was sent with a call that went through. -/
theorem MemoryService.of_hasText_after [SizeLimit] (hnobody : w.stores.users = {})
    (hempty : w.stores.policies = {}) {ops : List Operation}
    (h : (m.after w ops).stores.HasText text) :
    ∃ c ∈ m.calls w ops, c.GoesThrough m ∧ text ∈ c.operation.texts.map .trimmed := by
  induction ops using List.reverseRecOn with
  | nil => exact absurd h (MemoryState.not_hasText hnobody hempty)
  | append_singleton ops op ih =>
    rw [m.calls_concat]
    rcases MemoryService.of_hasText_concat hempty h with hold | hlast
    · obtain ⟨c, hc, hsent⟩ := ih hold
      exact ⟨c, List.mem_append_left _ hc, hsent⟩
    · exact ⟨_, List.mem_append_right _ (List.mem_singleton_self _), hlast⟩

theorem Call.GoesThrough.trimmed_isKept {c : Call} (h : c.GoesThrough m) {sent : BoundedText}
    (hsent : sent ∈ c.operation.texts) :
    sent.trimmed.IsKept ↔ sent.low ≤ (Text.trim sent.value).length :=
  and_iff_left ((Text.length_trim_le sent.value).trans (h.isKept hsent).2)

/-- In all states of a run the stored texts keep their rules, exactly if enough is left of what the
calls sent. -/
theorem MemoryService.keepsRules_iff [SizeLimit] (hnobody : w.stores.users = {})
    (hempty : w.stores.policies = {}) (ops : List Operation) :
    (∀ pre, pre <+: ops → (m.after w pre).stores.KeepsRules) ↔
      ∀ c ∈ m.calls w ops, c.GoesThrough m → ∀ sent ∈ c.operation.texts,
        sent.low ≤ (Text.trim sent.value).length := by
  induction ops using List.reverseRecOn with
  | nil =>
    refine ⟨fun _ => List.forall_mem_nil _, fun _ pre hpre text htext => ?_⟩
    obtain rfl := List.prefix_nil.mp hpre
    exact absurd htext (MemoryState.not_hasText hnobody hempty)
  | append_singleton ops op ih =>
    rw [m.calls_concat, List.forall_mem_append, List.forall_mem_singleton, ← ih]
    constructor
    · intro hall
      refine ⟨fun pre hpre => hall pre (hpre.trans (List.prefix_append ops [op])),
        fun hthrough sent hsent => (hthrough.trimmed_isKept hsent).mp ?_⟩
      have hlast := hthrough.hasText hsent
      have hafter : m.after w (ops ++ [op]) = Call.next m ⟨m.after w ops, op⟩ :=
        m.after_append w ops [op]
      exact hall _ (List.prefix_refl _) _ (hafter ▸ hlast)
    · rintro ⟨hold, hlast⟩ pre hpre
      rcases List.prefix_concat_iff.mp hpre with rfl | hshorter
      · intro text htext
        rcases MemoryService.of_hasText_concat hempty htext with hstored | ⟨hthrough, hmem⟩
        · exact hold ops (List.prefix_refl ops) text hstored
        · obtain ⟨sent, hsent, rfl⟩ := List.mem_map.mp hmem
          exact (hthrough.trimmed_isKept hsent).mpr (hlast hthrough sent hsent)
      · exact hold pre hshorter

/-- From empty stores on, whatever is done with a service: every stored text was sent with a call
that went through, kept its rule then, and is stored without the white space at its ends. It has
no more characters than the rule allows. In all states of a run the stored texts have as many as
they must have too, exactly if this holds of what the calls that went through sent, once the white
space at the ends is taken away. -/
theorem stored_texts_bounded [SizeLimit] (m : MemoryService) {w : World MemoryState}
    (hnobody : w.stores.users = {}) (hempty : w.stores.policies = {}) (ops : List Operation) :
    (∀ text, (m.after w ops).stores.HasText text →
      text.value.length ≤ text.high ∧ Text.trim text.value = text.value ∧
      ∃ c ∈ m.calls w ops, c.GoesThrough m ∧
        ∃ sent ∈ c.operation.texts, sent.IsKept ∧ sent.trimmed = text) ∧
    ((∀ pre, pre <+: ops → (m.after w pre).stores.KeepsRules) ↔
      ∀ c ∈ m.calls w ops, c.GoesThrough m → ∀ sent ∈ c.operation.texts,
        sent.low ≤ (Text.trim sent.value).length) := by
  refine ⟨fun text htext => ?_, MemoryService.keepsRules_iff hnobody hempty ops⟩
  obtain ⟨c, hc, hthrough, hmem⟩ := MemoryService.of_hasText_after hnobody hempty htext
  obtain ⟨sent, hsent, rfl⟩ := List.mem_map.mp hmem
  have hkept := hthrough.isKept hsent
  exact ⟨(Text.length_trim_le sent.value).trans hkept.2, Text.trim_trim sent.value,
    c, hc, hthrough, sent, hsent, hkept, rfl⟩

end Runs

namespace Sample

def plainTexts : List Operation :=
  [.admin (.addResource ⟨"", "", .http, "GET", "/files"⟩),
    .admin (.addPermission ⟨"read", "", [1]⟩), .admin (.addRole ⟨"member", "", [2]⟩),
    .register applicant]

theorem plain_texts_kept :
    let s := (service.after blank plainTexts).stores
    s.KeepsRules ∧ s.users.values.map (fun u => (u.name, u.phone)) = [("Ann", "+10000000001")] := by
  refine ⟨?_, by decide +kernel⟩
  have hops : ∀ op ∈ plainTexts, ∀ sent ∈ op.texts,
      sent.low ≤ (Text.trim sent.value).length := by decide +kernel
  have hcalls : ∀ c ∈ service.calls blank plainTexts, c.operation ∈ plainTexts := by
    intro c hc
    rw [← MemoryService.operations_calls service blank plainTexts]
    exact List.mem_map_of_mem hc
  have hkept := (stored_texts_bounded service (w := blank) rfl rfl plainTexts).2.mpr
    fun c hc _ => hops c.operation (hcalls c hc)
  exact hkept plainTexts (List.prefix_refl _)

/-- What is sent keeps every rule, but for the most part it is white space. -/
def blankTexts : List Operation :=
  [.admin (.addRole ⟨" ", "", []⟩), .admin (.addPermission ⟨" ", "", []⟩),
    .admin (.addResource ⟨"", "", .http, " ", " "⟩),
    .register ⟨" ", "  123 ", "ann@example.com", "password"⟩]

theorem blank_texts_stored :
    let s := (service.after blank blankTexts).stores
    s.policies.roles.values.map (·.name) = [""] ∧
      s.policies.permissions.values.map (·.name) = [""] ∧
      s.policies.resources.values.map (fun r => (r.method, r.path)) = [("", "")] ∧
      s.users.values.map (fun u => (u.name, u.phone)) = [("", "123")] := by
  refine ⟨?_, ?_, ?_, ?_⟩ <;> decide +kernel

end Sample

end Turnstile
