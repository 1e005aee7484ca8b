import Turnstile.Proofs.Policy.Tables

/-!
Role names. Grants, tokens and registrations know a role by its name, so a name should stand for
one role. A creation under a name that is taken is refused; a change of a role to a name that is
taken is not, and it is the only way to two roles of one name.
-/

namespace Turnstile

namespace PolicyTables

variable {now : Instant} {t t' : PolicyTables} {op : PolicyOperation} {issued : Option Int}

/-- No two roles have the same name. -/
def NamesDistinct (t : PolicyTables) : Prop :=
  ∀ id id' role role', t.roles.find? id = some role → t.roles.find? id' = some role' →
    role.name = role'.name → id = id'

/-- Roles are known by their names: to whoever looks for one, among the roles that users have, of
which the first is in their tokens, and in the rules. -/
structure RolesNamed (t : PolicyTables) : Prop where
  found : ∀ now name role,
    (MemoryState.policyStore.findRoleByName name now { policies := t }).1 = .ok (some role) ↔
      t.roles.find? role.id = some role ∧ role.name = name
  held : ∀ userId role, role ∈ t.rolesOf userId →
    ∀ id other, t.roles.find? id = some other → other.name = role.name → id = role.id
  granted : ∀ serviceType rule, rule ∈ (t.grants serviceType).map Grant.toRule →
    ∃ role, t.roles.find? role.id = some role ∧ role.name = rule.role ∧
      ∀ c, t.HasChain c → t.ruleOf? serviceType c = some rule → c.role = role.id

theorem NamesDistinct.put (h : t.NamesDistinct) {id : Int} {role : Role}
    (hfree : ∀ other taken, other ≠ id → t.roles.find? other = some taken →
      taken.name ≠ role.name) (hroles : t'.roles = t.roles.put id role) : t'.NamesDistinct := by
  intro i j a b ha hb hname
  rw [hroles, Table.find?_put] at ha hb
  split at ha <;> split at hb
  · rename_i hi hj
    exact hi.symm.trans hj
  · rename_i hi hj
    cases ha
    exact absurd hname.symm (hfree j b (Ne.symm hj) hb)
  · rename_i hi hj
    cases hb
    exact absurd hname (hfree i a (Ne.symm hi) ha)
  · exact h i j a b ha hb hname

theorem NamesDistinct.erase (h : t.NamesDistinct) {id : Int}
    (hroles : t'.roles = t.roles.erase id) : t'.NamesDistinct := by
  intro i j a b ha hb hname
  rw [hroles] at ha hb
  exact h i j a b (Table.find?_of_find?_erase ha) (Table.find?_of_find?_erase hb) hname

theorem RolesKept.mem_values (h : t.RolesKept) (hrows : t.roles.Ascending) {role : Role} :
    role ∈ t.roles.values ↔ t.roles.find? role.id = some role :=
  hrows.mem_values_iff h.keyed

/-- The name of the rule of a chain is that of the role where the chain starts. -/
theorem role_of_ruleOf? {serviceType : ServiceType} {c : Chain} {rule : Rule}
    (h : t.ruleOf? serviceType c = some rule) :
    ∃ role, t.roles.find? c.role = some role ∧ role.name = rule.role := by
  unfold ruleOf? at h
  split at h
  · rename_i role resource hrole hresource
    split at h
    · cases h
      exact ⟨role, hrole, rfl⟩
    · cases h
  · cases h

/-- Distinct names are as good as identifiers. -/
theorem RolesKept.rolesNamed (h : t.RolesKept) (hrows : t.roles.Ascending)
    (hnames : t.NamesDistinct) : t.RolesNamed where
  found := fun now name role => by
    have hanswer : (MemoryState.policyStore.findRoleByName name now { policies := t }).1 =
        .ok (t.roles.values.find? fun r => r.name == name) := rfl
    rw [hanswer, Except.ok.injEq]
    constructor
    · intro hfind
      exact ⟨(h.mem_values hrows).mp (List.mem_of_find?_eq_some hfind),
        by simpa using List.find?_some hfind⟩
    · rintro ⟨hstored, rfl⟩
      -- Somebody of the name is found, and it can be nobody else.
      have hmem := Table.mem_values_of_find? hstored
      have hfound : (t.roles.values.find? fun r => r.name == role.name).isSome = true :=
        List.find?_isSome.mpr ⟨role, hmem, beq_self_eq_true role.name⟩
      obtain ⟨other, hfind⟩ := Option.isSome_iff_exists.mp hfound
      have hother := (h.mem_values hrows).mp (List.mem_of_find?_eq_some hfind)
      have hsame : other.id = role.id :=
        hnames _ _ _ _ hother hstored (by simpa using List.find?_some hfind)
      rw [hsame, hstored] at hother
      rw [hfind, hother]
  held := fun userId role hrole id other hother hname =>
    hnames _ _ _ _ hother (h.mem_rolesOf.mp hrole).2 hname
  granted := fun serviceType rule hrule => by
    rw [grants_eq_chains, List.mem_filterMap] at hrule
    obtain ⟨c, -, hc⟩ := hrule
    obtain ⟨role, hrole, hname⟩ := role_of_ruleOf? hc
    obtain hid := h.keyed _ role hrole
    refine ⟨role, by rwa [hid], hname, fun d _ hd => ?_⟩
    obtain ⟨role', hrole', hname'⟩ := role_of_ruleOf? hd
    exact (hnames _ _ _ _ hrole' hrole (hname'.trans hname.symm)).trans hid.symm

/-- Roles stand in the order of their identifiers whatever is made of the tables. -/
theorem Made.roles_ascending (h : Made now t op issued t') (ht : t.roles.Ascending) :
    t'.roles.Ascending := by
  cases h with
  | roleCreated | roleUpdated => exact ht.put _ _
  | roleDeleted => exact ht.erase _
  | _ => exact ht

/-- A role is not created under a name that is taken. -/
theorem createRole_of_taken {entry : NamedEntry} {id : Int} {role : Role}
    (hrole : t.roles.find? id = some role) (hname : role.name = entry.name) (ids : List Int) :
    createRole entry ids now t =
      .error (.invalidReference ("Role " ++ entry.name ++ " already exists")) := by
  have hmem := Table.mem_values_of_find? hrole
  have htaken : (t.roles.values.any fun r => r.name == entry.name) = true :=
    List.any_eq_true.mpr ⟨role, hmem, by simpa using hname⟩
  unfold createRole
  rw [if_pos htaken]
  rfl

end PolicyTables

namespace PolicyEntry

open PolicyTables (Made NamesDistinct)

/-- A role was changed to a name that another role has. -/
def TakesName (e : PolicyEntry) : Prop :=
  ∃ id entry other role, e.operation = .updateRole id entry ∧ e.answer.isOk = true ∧
    other ≠ id ∧ e.before.roles.find? other = some role ∧ role.name = entry.name

variable {e : PolicyEntry}

/-- After such a change two roles have the name. -/
theorem Happens.not_namesDistinct (h : e.Happens) (htakes : e.TakesName) :
    ¬ e.after.NamesDistinct := by
  obtain ⟨id, entry, other, role, hop, hok, hother, hrole, hname⟩ := htakes
  cases h with
  | refused => cases hok
  | made hmade =>
    dsimp only at hop hrole
    subst hop
    cases hmade with
    | roleUpdated =>
      -- The other role still stands under its own identifier.
      intro hnames
      refine hother (hnames other id role _ ?_ (Table.find?_put_self ..) hname)
      rw [Table.find?_put, if_neg hother.symm]
      exact hrole

/-- Everything else leaves distinct names distinct. -/
theorem Happens.namesDistinct (h : e.Happens) (htakes : ¬ e.TakesName)
    (hnames : e.before.NamesDistinct) : e.after.NamesDistinct := by
  cases h with
  | refused => exact hnames
  | made hmade =>
    cases hmade with
    | roleCreated hfree =>
      exact hnames.put (fun _ taken _ htaken => hfree taken (Table.mem_values_of_find? htaken)) rfl
    | roleUpdated =>
      refine hnames.put (fun other taken hother htaken hname => ?_) rfl
      exact htakes ⟨_, _, other, taken, rfl, rfl, hother, htaken, hname⟩
    | roleDeleted => exact hnames.erase rfl
    | _ => exact hnames

end PolicyEntry

namespace PolicyOperation

open PolicyTables (Made)

/-- Along every run from empty tables, role names are distinct as long as no role is changed to a
name that another one has. A creation under a taken name is refused, and what is refused changes
nothing; where names are distinct, each stands for one role. -/
theorem names_distinct_iff (s : MemoryState) (hs : s.policies = {})
    (calls : List (Instant × PolicyOperation)) :
    ((∀ e ∈ run s calls, e.after.NamesDistinct) ↔ ∀ e ∈ run s calls, ¬ e.TakesName) ∧
      ∀ e ∈ run s calls,
        (∀ f, e.answer = .error f → e.after = e.before) ∧
        (∀ entry ids id role, e.operation = .createRole entry ids →
          e.before.roles.find? id = some role → role.name = entry.name →
          e.answer = .error (.error
            (.invalidReference ("Role " ++ entry.name ++ " already exists")))) ∧
        (e.after.NamesDistinct → e.after.RolesNamed) := by
  have hhappens : ∀ e ∈ run s calls, e.Happens := happens_of_mem_run
  have hstart : s.policies.NamesDistinct ∧ s.policies.RolesKept ∧ s.policies.roles.Ascending := by
    rw [hs]
    exact ⟨fun _ _ _ _ h => (nomatch h),
      ⟨fun _ _ h => (nomatch h), List.forall_mem_nil _, .nil⟩, .nil⟩
  obtain ⟨hnames, hroles, hrows⟩ := hstart
  refine ⟨⟨fun hall e he htakes => ?_, fun hnone e he => ?_⟩, fun e he => ⟨?_, ?_, ?_⟩⟩
  · exact (hhappens e he).not_namesDistinct htakes (hall e he)
  · exact (run_keeps (fun d hd hhappens => hhappens.namesDistinct (hnone d hd)) hnames e he).2
  · intro f hf
    cases hhappens e he with
    | refused => rfl
    | made => cases hf
  · intro entry ids id role hop hrole hname
    cases hhappens e he with
    | refused hrefused =>
      dsimp only at hop hrole
      subst hop
      rw [change, PolicyTables.Change.map, PolicyTables.createRole_of_taken hrole hname] at hrefused
      cases hrefused
      rfl
    | made hmade =>
      dsimp only at hop hrole
      subst hop
      -- A creation that goes through has found the name free.
      cases hmade with
      | roleCreated hfree => exact absurd hname (hfree role (Table.mem_values_of_find? hrole))
  · have hkept : ∀ d ∈ run s calls, d.before.RolesKept ∧ d.after.RolesKept :=
      run_keeps (fun _ _ hd => hd.keeps fun hmade ht => ht.edited hmade.edited) hroles
    have hascending : ∀ d ∈ run s calls, d.before.roles.Ascending ∧ d.after.roles.Ascending :=
      run_keeps (P := fun t => t.roles.Ascending)
        (fun _ _ hd => hd.keeps (P := fun t => t.roles.Ascending) Made.roles_ascending) hrows
    exact (hkept e he).2.rolesNamed (hascending e he).2

end PolicyOperation

namespace Sample

/-- A role is created twice. -/
def createdTwice : List (Instant × PolicyOperation) :=
  [(.ofSeconds 0, .createRole ⟨"member", ""⟩ []), (.ofSeconds 1, .createRole ⟨"member", ""⟩ [])]

theorem taken_name_refused :
    ∃ e ∈ PolicyOperation.run {} createdTwice,
      e.answer = .error (.error (.invalidReference "Role member already exists")) ∧
        e.after = e.before ∧ e.after.RolesNamed := by
  let run := PolicyOperation.run {} createdTwice
  obtain ⟨hdistinct, hentries⟩ := PolicyOperation.names_distinct_iff {} rfl createdTwice
  have hcreates : ∀ e ∈ run, ∃ entry ids, e.operation = .createRole entry ids :=
    List.forall_mem_cons.mpr ⟨⟨_, _, rfl⟩, List.forall_mem_singleton.mpr ⟨_, _, rfl⟩⟩
  have hnames : ∀ e ∈ run, e.after.NamesDistinct := hdistinct.mpr fun e he htakes => by
    obtain ⟨entry, ids, hop⟩ := hcreates e he
    obtain ⟨_, _, _, _, hupdate, -⟩ := htakes
    cases hop.symm.trans hupdate
  have hlast : run.get ⟨1, by decide⟩ ∈ run := List.get_mem _ _
  obtain ⟨hkept, htaken, hnamed⟩ := hentries _ hlast
  have hrefused := htaken ⟨"member", ""⟩ [] 1 _ rfl rfl rfl
  exact ⟨_, hlast, hrefused, hkept _ hrefused, hnamed (hnames _ hlast)⟩

/-- A role is changed to the name of another one, and both keep it. -/
theorem two_roles_of_one_name :
    let run := PolicyOperation.run {} [(.ofSeconds 0, .createRole ⟨"a", ""⟩ []),
      (.ofSeconds 0, .createRole ⟨"b", ""⟩ []), (.ofSeconds 0, .updateRole 2 ⟨"a", ""⟩)]
    (∀ e ∈ run, e.answer.isOk = true) ∧ ∃ e ∈ run, ¬ e.after.NamesDistinct := by
  intro run
  refine ⟨?_, run.get ⟨2, by decide⟩, List.get_mem _ _, fun hnames => ?_⟩
  · have hall : (run.all fun e => e.answer.isOk) = true := by decide
    exact List.all_eq_true.mp hall
  · exact absurd (hnames 1 2 _ _ rfl rfl rfl) (by decide)

end Sample

end Turnstile
