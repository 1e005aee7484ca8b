import Mathlib.Data.List.Nodup
import Turnstile.Proofs.Policy.Totality

/-!
The list of rules under replacing and adding. A call is answered by what its rules are and
by what is in force before it, and one that is refused changes nothing. So rules never stand
twice, adding them one by one comes to the same as replacing all at once, and an engine is
at any time the one that a new engine becomes by taking over its rules.
-/

namespace Turnstile

namespace PolicyEngine

section

variable [SizeLimit] {e : PolicyEngine} {rule : Rule} {rules : List Rule}

/-! ### Single calls -/

theorem InStep.add_of_usable (he : e.InStep) (h : rule ∉ e.rules) (husable : rule.Usable e.matcher) :
    e.add rule = .ok (true, e.inForce (e.rules ++ [rule])) := by
  have hall : ∀ r ∈ e.rules ++ [rule], r.Usable e.matcher := by
    intro r hr
    rcases List.mem_append.mp hr with hr | hr
    · exact he.usable r hr
    · rwa [List.mem_singleton.mp hr]
  rw [add_of_not_mem h, rebuild_of_usable hall]
  rfl

theorem add_of_unusable (h : rule ∉ e.rules) (hunusable : ¬ rule.Usable e.matcher) :
    ∃ reason, e.add rule = .error (.invalidPolicy reason) := by
  have hlast : ∃ r ∈ e.rules ++ [rule], ¬ r.Usable e.matcher :=
    ⟨rule, List.mem_append_right _ (List.mem_singleton_self rule), hunusable⟩
  obtain ⟨reason, hrebuild⟩ := rebuild_of_unusable hlast
  rw [add_of_not_mem h, hrebuild]
  exact ⟨reason, rfl⟩

/-- Where one rule is in force, what it says of the path decides for its role and its actions. -/
theorem enforce_of_single {start : PolicyEngine} {n : Nat}
    (hreplace : start.replace [rule] = .ok (n, e)) (hrole : rule.role ≠ start.superadminText)
    {action : String} (haction : Regex.Finds rule.actionText action.toList) (path : String) :
    e.enforce rule.role action path = start.matcher.accepts rule.path path := by
  obtain ⟨a, ha, hoccurs⟩ := haction
  have hmatch : a.isMatch action.toList = true :=
    (Regex.isMatch_iff (Regex.bounded_of_compile ha) _).mpr hoccurs
  have hcovers : rule.row.covers start.matcher rule.role action path =
      start.matcher.accepts rule.path path := by
    rw [Rule.row_covers, if_pos (beq_self_eq_true rule.role), ha]
    exact if_pos hmatch
  obtain ⟨-, rfl⟩ := of_replace hreplace
  have hrole' : ¬ (rule.role == start.superadminText) = true := by simpa using hrole
  change (if rule.role == start.superadminText then .ok true
    else Enforcer.anyCovers start.matcher rule.role action path [rule.row]) = _
  rw [if_neg hrole', Enforcer.anyCovers, hcovers]
  cases start.matcher.accepts rule.path path with
  | error f => rfl
  | ok allowed => cases allowed <;> rfl

/-! ### Runs -/

/-- The enforcer is the one for the rules, and no rule stands twice. -/
structure WellKept (e : PolicyEngine) : Prop where
  inStep : e.InStep
  nodup : e.rules.Nodup

/-- What a call can make of an engine: the same engine, or one with other rules. -/
theorem step_cases (he : e.InStep) (call : EngineCall) :
    e.step call = e ∨
      (∃ rules, call = .replace rules ∧ (∀ r ∈ rules, r.Usable e.matcher) ∧
        e.step call = e.inForce rules.eraseDups) ∨
      (∃ rule, call = .add rule ∧ rule ∉ e.rules ∧ rule.Usable e.matcher ∧
        e.step call = e.inForce (e.rules ++ [rule])) ∨
      (call = .clear ∧ e.step call = e.inForce []) := by
  cases call with
  | replace rules =>
    rcases e.replace_ends rules with ⟨husable, h⟩ | ⟨-, reason, h⟩
    · exact .inr (.inl ⟨rules, rfl, husable, by simp only [step, h]⟩)
    · exact .inl (by simp only [step, h])
  | add rule =>
    by_cases hmem : rule ∈ e.rules
    · exact .inl (by simp only [step, add_of_mem hmem])
    by_cases h : rule.Usable e.matcher
    · exact .inr (.inr (.inl ⟨rule, rfl, hmem, h, by simp only [step, he.add_of_usable hmem h]⟩))
    · obtain ⟨reason, hrefused⟩ := add_of_unusable hmem h
      exact .inl (by simp only [step, hrefused])
  | clear => exact .inr (.inr (.inr ⟨rfl, rfl⟩))

theorem WellKept.step (he : e.WellKept) (call : EngineCall) : (e.step call).WellKept := by
  refine ⟨he.inStep.step call, ?_⟩
  rcases step_cases he.inStep call with h | ⟨rules, -, -, h⟩ | ⟨rule, -, hnot, -, h⟩ | ⟨-, h⟩
  · rw [h]
    exact he.nodup
  · rw [h, ← keepFirst_eq_eraseDups]
    exact nodup_keepFirst rules
  · rw [h, inForce_rules, ← List.concat_eq_append]
    exact (List.nodup_concat _ _).mpr ⟨hnot, he.nodup⟩
  · rw [h]
    exact List.nodup_nil

theorem WellKept.run (he : e.WellKept) (calls : List EngineCall) : (e.run calls).WellKept := by
  induction calls generalizing e with
  | nil => exact he
  | cons call rest ih => exact ih (he.step call)

/-- A new engine is well kept, and a run of calls changes nothing but its rules and, in step with
them, its enforcer. -/
theorem run_of_new {name : String} {m : PathMatcher} {start : PolicyEngine}
    (hnew : PolicyEngine.new name m = .ok start) (calls : List EngineCall) :
    (start.run calls).WellKept ∧ start.matcher = m ∧
      start.run calls = start.inForce (start.run calls).rules := by
  obtain ⟨s, -, rfl⟩ := of_new hnew
  have hkept : ((bare s m).run calls).WellKept :=
    WellKept.run ⟨bare_inStep s m, List.nodup_nil⟩ calls
  obtain ⟨hsuper, hmatcher⟩ := (bare s m).run_fixed calls
  refine ⟨hkept, rfl, ?_⟩
  rw [← (inStep_iff.mp hkept.inStep).2, inForce_rules]
  unfold inForce
  rw [hsuper, hmatcher]

/-- Adding rules one by one keeps the first of each, after those that are there. -/
theorem InStep.run_add (he : e.InStep) (h : ∀ r ∈ rules, r.Usable e.matcher) :
    e.run (rules.map .add) = e.inForce
      (rules.foldl (fun kept r => if r ∈ kept then kept else kept ++ [r]) e.rules) := by
  induction rules generalizing e with
  | nil => exact (inStep_iff.mp he).2.symm
  | cons rule rest ih =>
    obtain ⟨hrule, hrest⟩ := List.forall_mem_cons.mp h
    have hstep : e.step (.add rule) =
        e.inForce (if rule ∈ e.rules then e.rules else e.rules ++ [rule]) := by
      split
      · rename_i hmem
        simp only [PolicyEngine.step, add_of_mem hmem, (inStep_iff.mp he).2]
      · rename_i hnot
        simp only [PolicyEngine.step, he.add_of_usable hnot hrule]
    have hmore := ih (e := e.step (.add rule)) (he.step (.add rule)) (by rwa [hstep])
    calc e.run ((rule :: rest).map .add) = (e.step (.add rule)).run (rest.map .add) := rfl
      _ = _ := by rw [hmore, hstep]; rfl

/-- How an engine answers after any run of calls: a list of rules is taken over without its
later doubles if each of them can be used, a rule is added if it is missing and can be used,
and otherwise the reason is told and the engine stays as it was. Its rules never stand twice.
From an empty list, adding usable rules one by one leads to the engine that replacing all at
once leads to, and a new engine that takes over the rules in force is the engine itself. -/
theorem rules_replaced_or_added {name : String} {m : PathMatcher} {start e : PolicyEngine}
    (hnew : PolicyEngine.new name m = .ok start) {calls : List EngineCall}
    (hrun : start.run calls = e) :
    (∀ rules : List Rule,
      ((∀ r ∈ rules, r.Usable m) → e.replace rules =
        .ok (rules.eraseDups.length, start.inForce rules.eraseDups)) ∧
      ((∃ r ∈ rules, ¬ r.Usable m) → e.step (.replace rules) = e ∧
        ∃ reason, e.replace rules = .error (.invalidPolicy reason))) ∧
    (∀ rule : Rule,
      (rule ∈ e.rules → e.add rule = .ok (false, e)) ∧
      (rule ∉ e.rules → rule.Usable m →
        e.add rule = .ok (true, e.inForce (e.rules ++ [rule]))) ∧
      (rule ∉ e.rules → ¬ rule.Usable m → e.step (.add rule) = e ∧
        ∃ reason, e.add rule = .error (.invalidPolicy reason))) ∧
    e.rules.Nodup ∧
    (e.rules = [] → ∀ rules : List Rule, (∀ r ∈ rules, r.Usable m) →
      e.run (rules.map .add) = e.step (.replace rules)) ∧
    start.replace e.rules = .ok (e.rules.length, e) := by
  obtain ⟨hkept, hstart, hrules⟩ := run_of_new hnew calls
  rw [hrun] at hkept hrules
  have hmatcher : e.matcher = m := by
    rw [hrules]
    exact hstart
  subst hmatcher
  refine ⟨fun rules => ⟨fun h => ?_, fun h => ?_⟩, fun rule => ⟨add_of_mem, ?_, ?_⟩, hkept.nodup,
    fun hempty rules h => ?_, ?_⟩
  · rw [replace_of_usable h, hrules, inForce_inForce]
  · obtain ⟨reason, hrefused⟩ := replace_of_unusable h
    exact ⟨by simp only [step, hrefused], reason, hrefused⟩
  · exact fun hnot h => hkept.inStep.add_of_usable hnot h
  · intro hnot h
    obtain ⟨reason, hrefused⟩ := add_of_unusable hnot h
    exact ⟨by simp only [step, hrefused], reason, hrefused⟩
  · rw [hkept.inStep.run_add h, hempty]
    simp only [step, replace_of_usable h, ← keepFirst_eq_eraseDups]
    rfl
  · have hall : ∀ r ∈ e.rules, r.Usable start.matcher := fun r hr => hstart ▸ hkept.inStep.usable r hr
    rw [replace_of_usable hall, ← keepFirst_eq_eraseDups, keepFirst_of_nodup hkept.nodup, ← hrules]

end

/-- One rule twice at once, another one, and the first again. -/
def repeatedCalls : List EngineCall :=
  [.replace [⟨"member", "http:GET", "/a"⟩, ⟨"member", "http:GET", "/a"⟩],
    .add ⟨"auditor", "http:GET", "/b"⟩, .add ⟨"member", "http:GET", "/a"⟩]

/-- Doubles are dropped and a rule that is there is not added again; then an open group is
refused, and a new engine comes to the same by taking over the two rules. -/
theorem two_rules_kept :
    ∃ start, PolicyEngine.new "superadmin" .colon = .ok start ∧
      (start.run repeatedCalls).rules =
        [⟨"member", "http:GET", "/a"⟩, ⟨"auditor", "http:GET", "/b"⟩] ∧
      ∀ e, start.run repeatedCalls = e →
        e.step (.replace [⟨"member", "http:(GET", "/x"⟩]) = e ∧
        (∃ reason, e.replace [⟨"member", "http:(GET", "/x"⟩] = .error (.invalidPolicy reason)) ∧
        start.replace [⟨"member", "http:GET", "/a"⟩, ⟨"auditor", "http:GET", "/b"⟩] =
          .ok (2, e) := by
  have hnew : PolicyEngine.new "superadmin" .colon = .ok (.bare Sample.superadmin .colon) :=
    new_role Sample.superadmin .colon
  have hrules : (run (.bare Sample.superadmin .colon) repeatedCalls).rules =
      [⟨"member", "http:GET", "/a"⟩, ⟨"auditor", "http:GET", "/b"⟩] := by decide +kernel
  have hopen : Regex.compile (Rule.mk "member" "http:(GET" "/x").actionText =
      .error .malformed := by decide +kernel
  have hunusable : ¬ (Rule.mk "member" "http:(GET" "/x").Usable .colon := by
    rintro ⟨⟨a, ha⟩, -⟩
    cases hopen.symm.trans ha
  refine ⟨_, hnew, hrules, fun e hrun => ?_⟩
  obtain ⟨hreplace, -, -, -, hagain⟩ := rules_replaced_or_added hnew hrun
  obtain ⟨hsame, hrefused⟩ := (hreplace _).2 ⟨_, List.mem_singleton_self _, hunusable⟩
  rw [← hrun, hrules, hrun] at hagain
  exact ⟨hsame, hrefused, hagain⟩

end PolicyEngine

end Turnstile
