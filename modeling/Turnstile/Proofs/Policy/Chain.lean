import Turnstile.Store.Memory
import Turnstile.Proofs.Policy.Engine
import Mathlib.Data.List.Basic

/-!
Chains from roles over permissions to resources, as the tables of links hold
them, and the rules they stand for. `InStep` says of a list of rules that it is
that of all chains, in order and without doubles; the stored grants are such a
list, as long as links are kept in ascending order.
-/

namespace Turnstile

/-- A way from a role over a permission to a resource, by identifiers. -/
structure Chain where
  role : Int
  permission : Int
  resource : Int
  deriving DecidableEq

/-- The order of chains: by role, then by permission, then by resource. -/
def Chain.Precedes (a b : Chain) : Prop :=
  a.role < b.role ∨ a.role = b.role ∧
    (a.permission < b.permission ∨ a.permission = b.permission ∧ a.resource < b.resource)

namespace Links

/-- Links stand in ascending order, and none stands twice. -/
def Ascending (links : Links) : Prop := links.Pairwise fun a b => precedes a b = true

theorem precedes_iff {a b : Int × Int} :
    precedes a b = true ↔ a.1 < b.1 ∨ a.1 = b.1 ∧ a.2 < b.2 := by
  simp [precedes]

namespace Ascending

variable {links : Links}

theorem add (h : Ascending links) (link : Int × Int) : Ascending (Links.add link links) := by
  induction links with
  | nil => exact List.pairwise_singleton _ _
  | cons x rest ih =>
    obtain ⟨hx, hrest⟩ := List.pairwise_cons.mp h
    unfold Links.add
    split
    · rename_i hlt
      refine List.pairwise_cons.mpr ⟨fun y hy => ?_, h⟩
      rcases List.mem_cons.mp hy with rfl | hy
      · exact hlt
      · have hxy := hx y hy
        rw [precedes_iff] at hlt hxy ⊢
        omega
    · rename_i hlt
      split
      · exact h
      · rename_i hne
        refine List.pairwise_cons.mpr ⟨fun y hy => ?_, ih hrest⟩
        rcases (mem_add y link rest).mp hy with rfl | hy
        · -- Neither before the head nor equal to it, so after it.
          rw [precedes_iff] at hlt ⊢
          have hne' : x.1 ≠ y.1 ∨ x.2 ≠ y.2 := by
            by_contra hsame
            rw [not_or, not_not, not_not] at hsame
            exact hne (Prod.ext hsame.1 hsame.2)
          omega
        · exact hx y hy

theorem filter (h : Ascending links) (keep : Int × Int → Bool) :
    Ascending (links.filter keep) :=
  List.Pairwise.filter keep h

theorem linkAll (h : Ascending links) (a : Int) (bs : List Int) :
    Ascending (PolicyTables.linkAll a bs links) := by
  induction bs generalizing links with
  | nil => exact h
  | cons b rest ih => exact ih (h.add (a, b))

theorem unlinkAll (h : Ascending links) (a : Int) (bs : List Int) :
    Ascending (PolicyTables.unlinkAll a bs links) := by
  induction bs generalizing links with
  | nil => exact h
  | cons b rest ih => exact ih (h.filter _)

/-- What a thing is linked to stands in ascending order as well. -/
theorem targets (h : Ascending links) (a : Int) :
    (Links.targets links a).Pairwise (· < ·) := by
  refine List.pairwise_map.mpr ((h.filter _).imp_of_mem fun {x y} hx hy hxy => ?_)
  have hx₁ : x.1 = a := by simpa using (List.mem_filter.mp hx).2
  have hy₁ : y.1 = a := by simpa using (List.mem_filter.mp hy).2
  rw [precedes_iff] at hxy
  omega

end Ascending

theorem mem_targets {links : Links} {a b : Int} :
    b ∈ targets links a ↔ (a, b) ∈ links := by
  simp [targets]

theorem mem_linkAll {x : Int × Int} {a : Int} {bs : List Int} {links : Links} :
    x ∈ PolicyTables.linkAll a bs links ↔ x.1 = a ∧ x.2 ∈ bs ∨ x ∈ links := by
  induction bs generalizing links with
  | nil => simp [PolicyTables.linkAll]
  | cons b rest ih =>
    have hstep : x ∈ PolicyTables.linkAll a (b :: rest) links ↔
        x.1 = a ∧ x.2 ∈ rest ∨ x ∈ add (a, b) links := ih
    rw [hstep, mem_add, List.mem_cons, Prod.ext_iff]
    tauto

theorem mem_unlinkAll {x : Int × Int} {a : Int} {bs : List Int} {links : Links} :
    x ∈ PolicyTables.unlinkAll a bs links ↔ x ∈ links ∧ ¬ (x.1 = a ∧ x.2 ∈ bs) := by
  induction bs generalizing links with
  | nil => simp [PolicyTables.unlinkAll]
  | cons b rest ih =>
    have hstep : x ∈ PolicyTables.unlinkAll a (b :: rest) links ↔
        x ∈ remove (a, b) links ∧ ¬ (x.1 = a ∧ x.2 ∈ rest) := ih
    rw [hstep, mem_remove, List.mem_cons, ne_eq, Prod.ext_iff]
    tauto

end Links

namespace PolicyTables

variable {t : PolicyTables} {serviceType : ServiceType}

/-- The chain is in the tables of links. -/
def HasChain (t : PolicyTables) (c : Chain) : Prop :=
  (c.role, c.permission) ∈ t.rolePermissions ∧
    (c.permission, c.resource) ∈ t.permissionResources

/-- The rule for a chain, where it leads to a resource of the service type. -/
def ruleOf? (t : PolicyTables) (serviceType : ServiceType) (c : Chain) : Option Rule :=
  match t.roles.find? c.role, t.resources.find? c.resource with
  | some role, some resource =>
    if resource.serviceType = serviceType.text then
      some ⟨role.name, serviceType.text ++ ":" ++ resource.method, resource.path⟩
    else none
  | _, _ => none

/-- The rules are those of all chains to resources of the service type, in the
order of the chains, each only where it comes first. -/
def InStep (t : PolicyTables) (serviceType : ServiceType) (rules : List Rule) : Prop :=
  ∃ chains : List Chain, chains.Pairwise Chain.Precedes ∧
    (∀ c, c ∈ chains ↔ t.HasChain c) ∧
    rules = (chains.filterMap (t.ruleOf? serviceType)).eraseDups

/-- A rule is there exactly for the sake of a chain. -/
theorem InStep.mem_iff {rules : List Rule} (h : t.InStep serviceType rules) (rule : Rule) :
    rule ∈ rules ↔ ∃ c, t.HasChain c ∧ t.ruleOf? serviceType c = some rule := by
  obtain ⟨chains, -, hmem, rfl⟩ := h
  simp [List.mem_eraseDups, List.mem_filterMap, hmem]

/-- Both tables of links stand in ascending order. -/
structure Ascending (t : PolicyTables) : Prop where
  rolePermissions : Links.Ascending t.rolePermissions
  permissionResources : Links.Ascending t.permissionResources

/-- All chains of the tables. -/
def chains (t : PolicyTables) : List Chain :=
  t.rolePermissions.flatMap fun (role, permission) =>
    (Links.targets t.permissionResources permission).map fun resource =>
      ⟨role, permission, resource⟩

theorem mem_chains {c : Chain} : c ∈ t.chains ↔ t.HasChain c := by
  obtain ⟨role, permission, resource⟩ := c
  simp only [chains, HasChain, List.mem_flatMap, List.mem_map, Links.mem_targets]
  constructor
  · rintro ⟨⟨a, b⟩, hrole, c, hpermission, heq⟩
    obtain ⟨rfl, rfl, rfl⟩ := Chain.mk.inj heq
    exact ⟨hrole, hpermission⟩
  · rintro ⟨hrole, hpermission⟩
    exact ⟨(role, permission), hrole, resource, hpermission, rfl⟩

theorem Ascending.chains (h : t.Ascending) : t.chains.Pairwise Chain.Precedes := by
  refine List.pairwise_flatMap.mpr ⟨fun link _ => ?_, h.rolePermissions.imp ?_⟩
  · refine List.pairwise_map.mpr ((h.permissionResources.targets link.2).imp fun hlt => ?_)
    exact .inr ⟨rfl, .inr ⟨rfl, hlt⟩⟩
  · intro a b hab c hc d hd
    obtain ⟨_, -, rfl⟩ := List.mem_map.mp hc
    obtain ⟨_, -, rfl⟩ := List.mem_map.mp hd
    rcases Links.precedes_iff.mp hab with hlt | ⟨heq, hlt⟩
    · exact .inl hlt
    · exact .inr ⟨heq, .inl hlt⟩

/-- The stored grants are the rules of the chains, one by one. -/
theorem grants_eq_chains (t : PolicyTables) (serviceType : ServiceType) :
    (t.grants serviceType).map Grant.toRule = t.chains.filterMap (t.ruleOf? serviceType) := by
  unfold grants chains
  rw [List.map_flatMap, List.filterMap_flatMap]
  refine List.flatMap_congr fun (role, permission) _ => ?_
  rw [List.filterMap_map]
  cases hrole : t.roles.find? role with
  | none => simp [ruleOf?, hrole, Function.comp_def]
  | some found =>
    simp only [hrole, grantsThrough, List.filterMap_filterMap, List.map_filterMap]
    refine List.filterMap_congr fun resource _ => ?_
    cases hresource : t.resources.find? resource with
    | none => simp [ruleOf?, hrole, hresource]
    | some r =>
      by_cases htype : r.serviceType = serviceType.text <;>
        simp [ruleOf?, hrole, hresource, htype, Grant.toRule]

/-- The stored grants, put in force, are in step with the tables. -/
theorem Ascending.inStep (h : t.Ascending) (serviceType : ServiceType) :
    t.InStep serviceType ((t.grants serviceType).map Grant.toRule).eraseDups :=
  ⟨t.chains, h.chains, fun _ => mem_chains,
    by rw [grants_eq_chains]⟩

end PolicyTables

end Turnstile
