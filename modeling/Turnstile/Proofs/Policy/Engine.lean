import Mathlib.Data.List.Induction
import Mathlib.Data.List.Nodup
import Turnstile.Policy.Engine
import Turnstile.Proofs.Except

/-!
The engine from call to call. Its rules are kept twice, as a list that is shown and as rows of the
enforcer that decides. A call leaves both as they were, or puts other rules in force that have passed
their checks; so the enforcer is at any time the one that is built for the list.
-/

namespace Turnstile

/-! ### Lists without doubles -/

section KeepFirst

variable {α : Type} [DecidableEq α] {xs : List α}

/-- One more element is kept unless it was there before. -/
theorem keepFirst_concat (xs : List α) (x : α) :
    keepFirst (xs ++ [x]) =
      if x ∈ keepFirst xs then keepFirst xs else keepFirst xs ++ [x] := by
  unfold keepFirst
  rw [List.foldl_append]
  rfl

/-- Keeping the first of each is the library's way to drop doubles. -/
theorem keepFirst_eq_eraseDups (xs : List α) : keepFirst xs = xs.eraseDups := by
  induction xs using List.reverseRecOn with
  | nil => rfl
  | append_singleton xs x ih =>
    rw [keepFirst_concat, ih, List.eraseDups_append]
    by_cases hx : x ∈ xs <;> simp [hx, List.removeAll, List.eraseDups_cons]

/-- No element is kept twice. -/
theorem nodup_keepFirst (xs : List α) : (keepFirst xs).Nodup := by
  induction xs using List.reverseRecOn with
  | nil => exact List.nodup_nil
  | append_singleton xs x ih =>
    rw [keepFirst_concat]
    split
    · exact ih
    · rename_i hx
      rw [← List.concat_eq_append, List.nodup_concat]
      exact ⟨hx, ih⟩

/-- Without doubles all elements are kept. -/
theorem keepFirst_of_nodup (h : xs.Nodup) : keepFirst xs = xs := by
  induction xs using List.reverseRecOn with
  | nil => rfl
  | append_singleton xs x ih =>
    rw [← List.concat_eq_append, List.nodup_concat] at h
    rw [keepFirst_concat, ih h.2, if_neg h.1]

end KeepFirst

/-! ### Checks -/

namespace Rule

variable [SizeLimit] {m : PathMatcher} {rule : Rule}

/-- The patterns of the rule can be used: that of its action, and where colons are
placeholders that of its path as well. -/
def Usable (m : PathMatcher) (r : Rule) : Prop :=
  (∃ a, Regex.compile r.actionText = .ok a) ∧
    (m = .colon → ∃ b, Regex.compile r.pathText = .ok b)

/-- A check that fails complains about a pattern. -/
theorem check_error {e : ServiceError} (h : rule.check m = .error e) :
    ∃ text, e = .invalidPolicy text := by
  unfold check at h
  split at h
  · exact ⟨_, (Except.error.inj h).symm⟩
  · split at h
    · split at h
      · exact ⟨_, (Except.error.inj h).symm⟩
      · cases h
    · cases h

/-- Only the matcher with colons looks at the path in advance. -/
theorem check_eq_ok_iff : rule.check m = .ok () ↔ rule.Usable m := by
  unfold check Usable
  cases Regex.compile rule.actionText with
  | error e => exact ⟨fun h => (nomatch h), fun h => (nomatch h.1)⟩
  | ok a =>
    by_cases hm : m = .colon
    · rw [if_pos hm]
      cases Regex.compile rule.pathText with
      | error e => exact ⟨fun h => (nomatch h), fun h => (nomatch h.2 hm)⟩
      | ok b => exact ⟨fun _ => ⟨⟨a, rfl⟩, fun _ => ⟨b, rfl⟩⟩, fun _ => rfl⟩
    · rw [if_neg hm]
      exact ⟨fun _ => ⟨⟨a, rfl⟩, fun h => absurd h hm⟩, fun _ => rfl⟩

/-- A list of rules goes through its checks if each rule can be used. -/
theorem forM_check_iff {rules : List Rule} :
    rules.forM (check m) = .ok () ↔ ∀ rule ∈ rules, rule.Usable m := by
  induction rules with
  | nil => exact ⟨fun _ => List.forall_mem_nil _, fun _ => rfl⟩
  | cons rule rest ih =>
    rw [List.forall_mem_cons, ← check_eq_ok_iff, ← ih]
    change ((rule.check m).bind fun _ => rest.forM (check m)) = _ ↔ _
    cases rule.check m with
    | error e => exact ⟨fun h => (nomatch h), fun h => (nomatch h.1)⟩
    | ok _ => exact ⟨fun h => ⟨rfl, h⟩, And.right⟩

theorem forM_check_error {rules : List Rule} {e : ServiceError}
    (h : rules.forM (check m) = .error e) : ∃ text, e = .invalidPolicy text := by
  induction rules with
  | nil => cases h
  | cons rule rest ih =>
    change ((rule.check m).bind fun _ => rest.forM (check m)) = _ at h
    cases hr : rule.check m with
    | error e' =>
      rw [hr] at h
      obtain rfl := Except.error.inj h
      exact check_error hr
    | ok _ =>
      rw [hr] at h
      exact ih h

end Rule

/-- The row for a rule covers what the rule asks for. -/
theorem Rule.row_covers [SizeLimit] (m : PathMatcher) (r : Rule) (role action path : String) :
    r.row.covers m role action path =
      if r.role == role then
        match Regex.compile r.actionText with
        | .error _ => .error .patternUnusable
        | .ok a => if a.isMatch action.toList then m.accepts r.path path else .ok false
      else .ok false := rfl

/-- An enforcer is built if every rule can be used. -/
theorem Enforcer.build_eq_ok_iff [SizeLimit] {s : Superadmin} {m : PathMatcher} {rules : List Rule}
    {e : Enforcer} : build s m rules = .ok e ↔
      (∀ r ∈ rules, r.Usable m) ∧ .ofRules s m rules = e := by
  unfold build
  rw [← Rule.forM_check_iff]
  cases rules.forM (Rule.check m) with
  | error f => exact ⟨fun h => (nomatch h), fun h => (nomatch h.1)⟩
  | ok _ => exact ⟨fun h => ⟨rfl, Except.ok.inj h⟩, fun h => congrArg Except.ok h.2⟩

/-! ### Engines without rules -/

namespace Superadmin

/-- The name decides what is compared with roles. -/
theorem ofName?_role (s : Superadmin) : ofName? s.role = some s := by
  unfold ofName?
  split
  · rename_i text htext
    obtain rfl := Option.some.inj (htext.symm.trans s.compared)
    rfl
  · rename_i hnone
    cases hnone.symm.trans s.compared

theorem of_ofName? {name : String} {s : Superadmin} (h : ofName? name = some s) :
    s.role = name := by
  unfold ofName? at h
  split at h
  · cases h
    rfl
  · cases h

end Superadmin

namespace PolicyEngine

variable {e e' : PolicyEngine} {rules : List Rule}

/-- The engine without rules. -/
def bare (s : Superadmin) (m : PathMatcher) : PolicyEngine := ⟨s, m, [], .ofRules s m []⟩

theorem new_role [SizeLimit] (s : Superadmin) (m : PathMatcher) :
    PolicyEngine.new s.role m = .ok (.bare s m) := by
  unfold new
  rw [s.ofName?_role]
  rfl

theorem of_new [SizeLimit] {name : String} {m : PathMatcher} (h : PolicyEngine.new name m = .ok e) :
    ∃ s : Superadmin, s.role = name ∧ e = .bare s m := by
  unfold new at h
  split at h
  · rename_i s hs
    exact ⟨s, Superadmin.of_ofName? hs, (Except.ok.inj h).symm⟩
  · cases h

/-! ### Single calls -/

/-- The engine with other rules, and with the enforcer for them. -/
def inForce (e : PolicyEngine) (rules : List Rule) : PolicyEngine :=
  { e with rules := rules, enforcer := .ofRules e.superadmin e.matcher rules }

@[simp] theorem inForce_rules : (e.inForce rules).rules = rules := rfl

@[simp] theorem inForce_superadmin : (e.inForce rules).superadmin = e.superadmin := rfl

@[simp] theorem inForce_matcher : (e.inForce rules).matcher = e.matcher := rfl

/-- Which rules were in force before makes no difference. -/
@[simp] theorem inForce_inForce (more : List Rule) :
    (e.inForce rules).inForce more = e.inForce more := rfl

variable [SizeLimit]

theorem rebuild_eq (e : PolicyEngine) (rules : List Rule) :
    e.rebuild rules = (rules.forM (Rule.check e.matcher)).map fun _ => e.inForce rules := by
  unfold rebuild Enforcer.build
  cases rules.forM (Rule.check e.matcher) <;> rfl

theorem rebuild_of_usable (h : ∀ r ∈ rules, r.Usable e.matcher) :
    e.rebuild rules = .ok (e.inForce rules) := by
  rw [rebuild_eq, Rule.forM_check_iff.mpr h]
  rfl

theorem rebuild_of_unusable (h : ∃ r ∈ rules, ¬ r.Usable e.matcher) :
    ∃ reason, e.rebuild rules = .error (.invalidPolicy reason) := by
  rw [rebuild_eq]
  cases hchecks : rules.forM (Rule.check e.matcher) with
  | ok _ =>
    obtain ⟨r, hr, hunusable⟩ := h
    exact absurd (Rule.forM_check_iff.mp hchecks r hr) hunusable
  | error f =>
    obtain ⟨reason, rfl⟩ := Rule.forM_check_error hchecks
    exact ⟨reason, rfl⟩

theorem of_rebuild (h : e.rebuild rules = .ok e') :
    (∀ r ∈ rules, r.Usable e.matcher) ∧ e' = e.inForce rules := by
  rw [rebuild_eq] at h
  obtain ⟨⟨⟩, hchecks, rfl⟩ := of_map_ok h
  exact ⟨Rule.forM_check_iff.mp hchecks, rfl⟩

theorem replace_of_usable (h : ∀ r ∈ rules, r.Usable e.matcher) :
    e.replace rules = .ok (rules.eraseDups.length, e.inForce rules.eraseDups) := by
  have hkept : ∀ r ∈ rules.eraseDups, r.Usable e.matcher :=
    fun r hr => h r (List.mem_eraseDups.mp hr)
  unfold replace
  dsimp only
  rw [keepFirst_eq_eraseDups, rebuild_of_usable hkept]
  rfl

theorem replace_single {rule : Rule} (h : rule.Usable e.matcher) :
    e.replace [rule] = .ok (1, e.inForce [rule]) :=
  replace_of_usable (List.forall_mem_singleton.mpr h)

theorem replace_of_unusable (h : ∃ r ∈ rules, ¬ r.Usable e.matcher) :
    ∃ reason, e.replace rules = .error (.invalidPolicy reason) := by
  obtain ⟨r, hr, hunusable⟩ := h
  have hkept : ∃ r ∈ rules.eraseDups, ¬ r.Usable e.matcher :=
    ⟨r, List.mem_eraseDups.mpr hr, hunusable⟩
  obtain ⟨reason, hrebuild⟩ := rebuild_of_unusable hkept
  unfold replace
  dsimp only
  rw [keepFirst_eq_eraseDups, hrebuild]
  exact ⟨reason, rfl⟩

/-- Rules are taken over without doubles, or refused for a pattern. -/
theorem replace_ends (e : PolicyEngine) (rules : List Rule) :
    (∀ r ∈ rules, r.Usable e.matcher) ∧
        e.replace rules = .ok (rules.eraseDups.length, e.inForce rules.eraseDups) ∨
      (∃ r ∈ rules, ¬ r.Usable e.matcher) ∧
        ∃ reason, e.replace rules = .error (.invalidPolicy reason) := by
  by_cases h : ∀ r ∈ rules, r.Usable e.matcher
  · exact .inl ⟨h, replace_of_usable h⟩
  · have hunusable : ∃ r ∈ rules, ¬ r.Usable e.matcher := by simpa using h
    exact .inr ⟨hunusable, replace_of_unusable hunusable⟩

theorem of_replace {n : Nat} (h : e.replace rules = .ok (n, e')) :
    (∀ r ∈ rules, r.Usable e.matcher) ∧ e' = e.inForce rules.eraseDups := by
  rcases e.replace_ends rules with ⟨husable, hok⟩ | ⟨-, reason, herror⟩
  · cases h.symm.trans hok
    exact ⟨husable, rfl⟩
  · cases h.symm.trans herror

theorem add_of_mem {rule : Rule} (h : rule ∈ e.rules) : e.add rule = .ok (false, e) := if_pos h

theorem add_of_not_mem {rule : Rule} (h : rule ∉ e.rules) :
    e.add rule = (e.rebuild (e.rules ++ [rule])).map fun e => (true, e) := by
  unfold add
  rw [if_neg h]
  cases e.rebuild (e.rules ++ [rule]) <;> rfl

/-! ### The list and the enforcer -/

/-- The enforcer is the one that is built for the list of rules. -/
def InStep (e : PolicyEngine) : Prop :=
  Enforcer.build e.superadmin e.matcher e.rules = .ok e.enforcer

theorem inStep_iff :
    e.InStep ↔ (∀ r ∈ e.rules, r.Usable e.matcher) ∧ e.inForce e.rules = e := by
  refine Enforcer.build_eq_ok_iff.trans (and_congr_right fun _ => ⟨fun h => ?_, fun h => ?_⟩)
  · unfold inForce
    rw [h]
  · exact congrArg enforcer h

theorem InStep.usable (h : e.InStep) : ∀ r ∈ e.rules, r.Usable e.matcher := (inStep_iff.mp h).1

theorem inForce_inStep (h : ∀ r ∈ rules, r.Usable e.matcher) : (e.inForce rules).InStep :=
  inStep_iff.mpr ⟨h, rfl⟩

theorem bare_inStep (s : Superadmin) (m : PathMatcher) : (bare s m).InStep := rfl

/-- What the enforcer decides can be told from the list of rules. -/
theorem InStep.enforce_eq (h : e.InStep) (role action path : String) :
    e.enforce role action path =
      if role == e.superadminText then .ok true
      else if e.rules.isEmpty then
        if role == "" then e.matcher.accepts "" path else .ok false
      else Enforcer.anyCovers e.matcher role action path (e.rules.map Rule.row) := by
  have hrows : (e.rules.map Rule.row).isEmpty = e.rules.isEmpty := by cases e.rules <;> rfl
  rw [← hrows]
  conv => lhs; rw [← (inStep_iff.mp h).2]
  rfl

end PolicyEngine

/-! ### Runs -/

/-- What may be done to the rules of an engine. -/
inductive EngineCall where
  | replace (rules : List Rule)
  | add (rule : Rule)
  | clear

namespace PolicyEngine

variable [SizeLimit] {e : PolicyEngine}

/-- The engine after a call. One that fails leaves it as it was. -/
def step (e : PolicyEngine) : EngineCall → PolicyEngine
  | .replace rules =>
    match e.replace rules with
    | .ok (_, e') => e'
    | .error _ => e
  | .add rule =>
    match e.add rule with
    | .ok (_, e') => e'
    | .error _ => e
  | .clear =>
    match e.clear with
    | .ok e' => e'
    | .error _ => e

/-- The engine after a run. -/
def run (e : PolicyEngine) (calls : List EngineCall) : PolicyEngine := calls.foldl step e

/-- A call leaves the engine as it was, or puts other rules in force that can all be used. -/
theorem step_ends (e : PolicyEngine) (call : EngineCall) :
    e.step call = e ∨ ∃ rules, (∀ r ∈ rules, r.Usable e.matcher) ∧
      e.step call = e.inForce rules := by
  cases call with
  | replace rules =>
    rcases e.replace_ends rules with ⟨husable, h⟩ | ⟨-, reason, h⟩
    · refine .inr ⟨_, fun r hr => husable r (List.mem_eraseDups.mp hr), ?_⟩
      simp only [step, h]
    · exact .inl (by simp only [step, h])
  | add rule =>
    by_cases hmem : rule ∈ e.rules
    · exact .inl (by simp only [step, add_of_mem hmem])
    · cases h : e.rebuild (e.rules ++ [rule]) with
      | ok e' =>
        obtain ⟨husable, rfl⟩ := of_rebuild h
        refine .inr ⟨_, husable, ?_⟩
        simp only [step, add_of_not_mem hmem, h, Except.map]
      | error f => exact .inl (by simp only [step, add_of_not_mem hmem, h, Except.map])
  | clear => exact .inr ⟨[], List.forall_mem_nil _, rfl⟩

/-- A call changes the rules and what decides by them, and nothing else. -/
theorem step_fixed (e : PolicyEngine) (call : EngineCall) :
    (e.step call).superadmin = e.superadmin ∧ (e.step call).matcher = e.matcher := by
  rcases e.step_ends call with h | ⟨rules, -, h⟩
  · rw [h]
    exact ⟨rfl, rfl⟩
  · rw [h]
    exact ⟨rfl, rfl⟩

theorem run_fixed (e : PolicyEngine) (calls : List EngineCall) :
    (e.run calls).superadmin = e.superadmin ∧ (e.run calls).matcher = e.matcher := by
  induction calls generalizing e with
  | nil => exact ⟨rfl, rfl⟩
  | cons call rest ih =>
    obtain ⟨hname, hmatcher⟩ := e.step_fixed call
    obtain ⟨hname', hmatcher'⟩ := ih (e.step call)
    exact ⟨hname'.trans hname, hmatcher'.trans hmatcher⟩

theorem InStep.step (h : e.InStep) (call : EngineCall) : (e.step call).InStep := by
  rcases e.step_ends call with hsame | ⟨rules, husable, hforce⟩
  · rwa [hsame]
  · rw [hforce]
    exact inForce_inStep husable

/-- After any run the enforcer is the one for the list of rules. -/
theorem InStep.run (h : e.InStep) (calls : List EngineCall) : (e.run calls).InStep := by
  induction calls generalizing e with
  | nil => exact h
  | cons call rest ih => exact ih (h.step call)

end PolicyEngine

end Turnstile
