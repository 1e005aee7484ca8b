import Turnstile.Proofs.Policy.Integrity
import Turnstile.Proofs.Policy.Method

/-!
When the stored grants can be put in force. Patterns are taken as they come when a resource is
stored, and looked at when the grants are loaded. So a load is refused exactly where a chain leads
to a resource with a pattern that cannot be used, and every such resource was asked for.
-/

namespace Turnstile

/-- The patterns of a resource can be used: the expression of its action compiles, and where the
matcher knows colons, that of its path does. -/
structure Loadable [SizeLimit] (matcher : PathMatcher) (serviceType method path : String) :
    Prop where
  action : ∃ a, Regex.compile
    ("^(?:".toList ++ (serviceType ++ ":" ++ method).toList ++ ")$".toList) = .ok a
  path : matcher = .colon →
    ∃ b, Regex.compile ('^' :: (PathMatcher.dotStars path.toList ++ ['$'])) = .ok b

/-- The role has no part in it. -/
theorem Rule.usable_iff_loadable [SizeLimit] {matcher : PathMatcher}
    {role serviceType method path : String} :
    (Rule.mk role (serviceType ++ ":" ++ method) path).Usable matcher ↔
      Loadable matcher serviceType method path :=
  ⟨fun h => ⟨h.1, h.2⟩, fun h => ⟨h.action, h.path⟩⟩

/-! ### Resources that were asked for -/

/-- The resource that an operation asks for. -/
def PolicyOperation.asks? : PolicyOperation → Option NewResource
  | createResource asked | updateResource _ asked => some asked
  | _ => none

/-- The resource that a call asks for. -/
def AdminCall.asks? (call : AdminCall) : Option NewResource :=
  call.operation?.bind PolicyOperation.asks?

namespace PolicyTables

variable {now : Instant} {t t' : PolicyTables}

/-- A stored resource was stored before, or it is as the operation asks. -/
theorem Made.resource_known {op : PolicyOperation} {issued : Option Int}
    (h : Made now t op issued t') {id : Int} {r : Resource} (hr : t'.resources.find? id = some r) :
    t.resources.find? id = some r ∨ ∃ asked, op.asks? = some asked ∧ IsAsked asked r := by
  cases h with
  | resourceCreated =>
    rw [Table.find?_put] at hr
    split at hr
    · cases hr
      exact .inr ⟨_, rfl, rfl, rfl, rfl⟩
    · exact .inl hr
  | resourceUpdated =>
    rw [Table.find?_put] at hr
    split at hr
    · cases hr
      exact .inr ⟨_, rfl, rfl, rfl, rfl⟩
    · exact .inl hr
  | resourceDeleted => exact .inl (Table.find?_of_find?_erase hr)
  | _ => exact .inl hr

/-- Links lead to what is stored, and every resource is one of those asked for. -/
structure Catalogued (asked : NewResource → Prop) (t : PolicyTables) : Prop where
  linked : t.Linked
  known : ∀ id r, t.resources.find? id = some r → ∃ a, asked a ∧ IsAsked a r

variable {asked : NewResource → Prop}

theorem Catalogued.change (h : t.Catalogued asked) {call : AdminCall}
    (hcall : ∀ a, call.asks? = some a → asked a) (hchange : call.change now t = .ok ((), t')) :
    t'.Catalogued asked := by
  obtain ⟨-, rfl⟩ | ⟨op, issued, hop, hmade⟩ := AdminCall.of_change hchange
  · exact h
  · refine ⟨hmade.linked h.linked, fun id r hr => ?_⟩
    rcases hmade.resource_known hr with hold | ⟨a, ha, hasked⟩
    · exact h.known id r hold
    · exact ⟨a, hcall a (by rw [AdminCall.asks?, hop]; exact ha), hasked⟩

/-- The rules that are loaded are those of the chains to resources of the type. -/
theorem Linked.forall_rules [SizeLimit] (h : t.Linked) {matcher : PathMatcher}
    {serviceType : ServiceType} :
    (∀ rule ∈ (t.grants serviceType).map Grant.toRule, rule.Usable matcher) ↔
      ∀ c r, t.HasChain c → t.resources.find? c.resource = some r →
        r.serviceType = serviceType.text → Loadable matcher r.serviceType r.method r.path := by
  constructor
  · -- Links lead to what is stored, so the chain has a role and gives a rule.
    intro hrules c r hc hr htype
    obtain ⟨role, hrole⟩ := Option.isSome_iff_exists.mp (h.rolePermissions _ hc.1).1
    have hrule : t.ruleOf? serviceType c =
        some ⟨role.name, serviceType.text ++ ":" ++ r.method, r.path⟩ := by
      simp [ruleOf?, hrole, hr, htype]
    rw [htype]
    exact Rule.usable_iff_loadable.mp
      (hrules _ ((h.rolesKept.tellsAccesses.grants _ _).mpr ⟨c, hc, hrule⟩))
  · intro hload rule hmem
    obtain ⟨c, hc, hrule⟩ := (h.rolesKept.tellsAccesses.grants _ _).mp hmem
    unfold ruleOf? at hrule
    split at hrule
    · rename_i role r hrole hr
      split at hrule
      · rename_i htype
        cases hrule
        rw [← htype]
        exact Rule.usable_iff_loadable.mpr (hload c r hc hr htype)
      · cases hrule
    · cases hrule

end PolicyTables

namespace MemoryService

variable [SizeLimit] (m : MemoryService) {w : World MemoryState}

/-- A load takes over the stored grants, or is refused for a pattern and changes nothing. -/
theorem loadPolicy_ends (w : World MemoryState) (serviceType : ServiceType) :
    let rules := (w.stores.policies.grants serviceType).map Grant.toRule
    (∀ r ∈ rules, r.Usable w.engine.matcher) ∧ (m.app.loadPolicy serviceType).runOn w =
        (.ok rules.eraseDups.length, { w with engine := w.engine.inForce rules.eraseDups }) ∨
      (∃ r ∈ rules, ¬ r.Usable w.engine.matcher) ∧
        ∃ f, f.IsInvalidPolicy ∧ (m.app.loadPolicy serviceType).runOn w = (.error f, w) := by
  intro rules
  rw [AdminCall.runOn_counted]
  rcases w.engine.replace_ends rules with ⟨husable, h⟩ | ⟨hunusable, reason, h⟩
  · exact .inl ⟨husable, by rw [h]⟩
  · exact .inr ⟨hunusable, _, ⟨reason, rfl⟩, by rw [h]⟩

theorem loadPolicy_eq_ok_iff (w : World MemoryState) (serviceType : ServiceType) :
    (∃ n, ((m.app.loadPolicy serviceType).runOn w).1 = .ok n) ↔
      ∀ rule ∈ (w.stores.policies.grants serviceType).map Grant.toRule,
        rule.Usable w.engine.matcher := by
  rcases m.loadPolicy_ends w serviceType with ⟨husable, h⟩ | ⟨⟨r, hr, hunusable⟩, f, -, h⟩
  · exact ⟨fun _ => husable, fun _ => ⟨_, congrArg Prod.fst h⟩⟩
  · refine ⟨fun ⟨n, hn⟩ => ?_, fun husable => absurd (husable r hr) hunusable⟩
    cases hn.symm.trans (congrArg Prod.fst h)

/-- What the calls of a run keep is kept in every world of the run. -/
theorem administer_keeps {P : World MemoryState → Prop} {calls : List (Instant × AdminCall)}
    (hkeeps : ∀ timed ∈ calls, ∀ v, P v →
      P ((timed.2.action m.app).runOn { v with now := timed.1 }).2) (hw : P w) :
    ∀ v ∈ w :: (m.administer w calls).map AdminEntry.world, P v := by
  induction calls generalizing w with
  | nil => exact List.forall_mem_singleton.mpr hw
  | cons timed rest ih =>
    have hfirst := hkeeps timed List.mem_cons_self w hw
    exact List.forall_mem_cons.mpr
      ⟨hw, ih (fun later hlater => hkeeps later (List.mem_cons_of_mem _ hlater)) hfirst⟩

/-- A refused load answers nothing but that a pattern cannot be used. -/
theorem loadPolicy_refused_iff (w : World MemoryState) (serviceType : ServiceType) :
    (∃ f, f.IsInvalidPolicy ∧ ((m.app.loadPolicy serviceType).runOn w).1 = .error f) ↔
      ¬ ∃ n, ((m.app.loadPolicy serviceType).runOn w).1 = .ok n := by
  constructor
  · rintro ⟨f, -, hf⟩ ⟨n, hn⟩
    cases hf.symm.trans hn
  · intro hnot
    rcases m.loadPolicy_ends w serviceType with ⟨-, hok⟩ | ⟨-, f, hinvalid, hf⟩
    · exact absurd ⟨_, congrArg Prod.fst hok⟩ hnot
    · exact ⟨f, hinvalid, congrArg Prod.fst hf⟩

/-- Every resource in a world of a run was asked for by one of the calls, whatever they answered. -/
theorem administer_catalogued (w : World MemoryState) (htables : w.stores.policies = {})
    (calls : List (Instant × AdminCall)) :
    ∀ v ∈ w :: (m.administer w calls).map AdminEntry.world,
      v.stores.policies.Catalogued (fun a => ∃ timed ∈ calls, timed.2.asks? = some a) ∧
        v.engine.matcher = w.engine.matcher := by
  refine m.administer_keeps (fun timed htimed v hv => ?_) ?_
  · obtain ⟨hcatalogued, hmatcher⟩ := hv
    have hends := AdminCall.action_ends m { v with now := timed.1 } timed.2
    generalize (timed.2.action m.app).runOn { v with now := timed.1 } = r at hends
    obtain ⟨answer, u⟩ := r
    -- A stale call has changed the tables too: only its load was refused.
    cases hends with
    | refused => exact ⟨hcatalogued, hmatcher⟩
    | changed hchange | loaded hchange | stale hchange =>
      exact ⟨hcatalogued.change (fun a ha => ⟨timed, htimed, ha⟩) hchange, hmatcher⟩
  · rw [htables]
    exact ⟨⟨PolicyTables.linked_empty, fun _ _ h => (nomatch h)⟩, rfl⟩

/-- In every world of a run from empty tables, a load is refused exactly where a chain leads to a
resource of the type with a pattern that cannot be used, and then it changes nothing. Such a
resource was asked for in the run; where only resources that can be loaded are asked for, no load
is refused. -/
theorem load_refused_iff (w : World MemoryState) (htables : w.stores.policies = {})
    (calls : List (Instant × AdminCall)) :
    ∀ v ∈ w :: (m.administer w calls).map AdminEntry.world, ∀ serviceType,
      let t := v.stores.policies
      let loaded := (m.app.loadPolicy serviceType).runOn v
      ((∃ n, loaded.1 = .ok n) ∨ ∃ f, f.IsInvalidPolicy ∧ loaded = (.error f, v)) ∧
      ((∃ f, f.IsInvalidPolicy ∧ loaded.1 = .error f) ↔
        ∃ c r, t.HasChain c ∧ t.resources.find? c.resource = some r ∧
          r.serviceType = serviceType.text ∧
          ¬ Loadable w.engine.matcher r.serviceType r.method r.path) ∧
      (∀ id r, t.resources.find? id = some r →
        ∃ timed ∈ calls, ∃ asked, timed.2.asks? = some asked ∧ PolicyTables.IsAsked asked r) ∧
      ((∀ timed ∈ calls, ∀ asked, timed.2.asks? = some asked →
          Loadable w.engine.matcher asked.serviceType.text asked.method asked.path) →
        ∃ n, loaded.1 = .ok n) := by
  intro v hv serviceType t loaded
  obtain ⟨hcatalogued, hmatcher⟩ := m.administer_catalogued w htables calls v hv
  have hok := m.loadPolicy_eq_ok_iff v serviceType
  rw [hcatalogued.linked.forall_rules, hmatcher] at hok
  refine ⟨?_, ?_, ?_, ?_⟩
  · rcases m.loadPolicy_ends v serviceType with ⟨-, h⟩ | ⟨-, h⟩
    · exact .inl ⟨_, congrArg Prod.fst h⟩
    · exact .inr h
  · rw [m.loadPolicy_refused_iff v serviceType, hok]
    simp only [not_forall, exists_prop, t]
  · intro id r hr
    obtain ⟨a, ⟨timed, htimed, hasks⟩, hasked⟩ := hcatalogued.known id r hr
    exact ⟨timed, htimed, a, hasks, hasked⟩
  · intro hloadable
    refine hok.mpr fun c r hc hr _ => ?_
    obtain ⟨a, ⟨timed, htimed, hasks⟩, htype, hmethod, hpath⟩ := hcatalogued.known _ r hr
    rw [htype, hmethod, hpath]
    exact hloadable timed htimed a hasks

end MemoryService

namespace Sample

/-- A method with an open group becomes reachable. -/
def openGroup : List AdminCall :=
  [.addRole ⟨"member", "", []⟩, .addResource ⟨"", "", .http, "(GET", "/x"⟩,
    .addPermission ⟨"read", "", [2]⟩, .assignPermissions 1 [3]]

/-- Where all methods are words, the rules of the chains can be loaded. -/
theorem words_load :
    ∃ pre e, service.administer blank (atOnce grant) = pre ++ [e] ∧
      e.world.stores.policies.HasChain ⟨3, 2, 1⟩ ∧
      ∃ n, ((service.app.loadPolicy .http).runOn e.world).1 = .ok n := by
  obtain ⟨pre, e, hrun, hchain⟩ := exists_last
    (fun e : AdminEntry => decide (e.world.stores.policies.Has (.grant ⟨3, 2, 1⟩)))
    (service.administer blank (atOnce grant)) true (by decide +kernel)
  have hworld : e.world ∈
      blank :: (service.administer blank (atOnce grant)).map AdminEntry.world :=
    List.mem_cons_of_mem _
      (List.mem_map.mpr ⟨e, hrun ▸ List.mem_append_right pre List.mem_cons_self, rfl⟩)
  obtain ⟨-, -, -, hloads⟩ := service.load_refused_iff blank rfl (atOnce grant) _ hworld .http
  have hgranted : e.world.stores.policies.Has (.grant ⟨3, 2, 1⟩) := of_decide_eq_true hchain
  refine ⟨pre, e, hrun, hgranted, hloads fun timed htimed asked hasks => ?_⟩
  let get := (ResourceRequest.mk "" "" .http "GET" "/x").resource
  have hrule : (Rule.mk "" (get.serviceType.text ++ ":" ++ get.method) get.path).check
      blank.engine.matcher = .ok () := by decide +kernel
  simp only [atOnce, grant, List.map_cons, List.map_nil, List.mem_cons, List.not_mem_nil,
    or_false] at htimed
  rcases htimed with rfl | rfl | rfl
  · cases hasks
    exact Rule.usable_iff_loadable.mp (Rule.check_eq_ok_iff.mp hrule)
  · cases hasks
  · cases hasks

/-- The stored pattern cannot be used, and since then no load goes through. -/
theorem open_group_refused :
    ∃ v ∈ (service.administer blank (atOnce openGroup)).map AdminEntry.world,
      ∃ f, f.IsInvalidPolicy ∧ ((service.app.loadPolicy .http).runOn v).1 = .error f := by
  obtain ⟨pre, e, hrun, hrefused⟩ := exists_last
    (fun e => ((service.app.loadPolicy .http).runOn e.world).1.isOk)
    (service.administer blank (atOnce openGroup)) false (by decide +kernel)
  refine ⟨e.world, List.mem_map.mpr ⟨e, hrun ▸ List.mem_append_right pre List.mem_cons_self, rfl⟩,
    (service.loadPolicy_refused_iff _ _).mpr ?_⟩
  rintro ⟨n, hn⟩
  rw [hn] at hrefused
  cases hrefused

end Sample

end Turnstile
