import Turnstile.Config.Settings

/-!
What settings satisfy that pass their check. The check goes through a list of rules and reports the
first one that is broken; it passes exactly if none is.
-/

namespace Turnstile.Settings

/-- What is asked of settings. -/
structure Accepted (s : Settings) : Prop where
  port : 0 < s.listen.port
  accessMinutes : 0 < s.tokens.accessMinutes
  refreshDays : 0 < s.tokens.refreshDays
  superadminRole : Text.trim s.policy.superadminRole ≠ ""
  timeoutSeconds : 0 < s.security.timeoutSeconds
  allowedOrigins : s.environment = .prod → "*" ∉ s.security.allowedOrigins

variable {s : Settings}

theorem check_eq_ok_iff_rules : s.check = .ok () ↔ ∀ rule ∈ s.rules, rule.1 = true := by
  unfold check
  cases hbroken : s.rules.find? fun rule => !rule.1 with
  | none => simpa using hbroken
  | some rule =>
    have hmem := List.mem_of_find?_eq_some hbroken
    have hfalse := List.find?_some hbroken
    constructor
    · intro h
      cases h
    · intro h
      simp [h rule hmem] at hfalse

theorem check_eq_ok_iff : s.check = .ok () ↔ s.Accepted := by
  rw [check_eq_ok_iff_rules]
  simp only [rules, List.mem_cons, List.not_mem_nil, or_false, forall_eq_or_imp, forall_eq,
    decide_eq_true_iff, Bool.not_eq_true', String.isEmpty_eq_false_iff, Bool.and_eq_false_iff,
    beq_eq_false_iff_ne, List.contains_eq_mem, decide_eq_false_iff_not]
  constructor
  · rintro ⟨hport, haccess, hrefresh, hname, htimeout, horigins⟩
    exact ⟨hport, haccess, hrefresh, hname, htimeout, fun hprod => by simpa [hprod] using horigins⟩
  · rintro ⟨hport, haccess, hrefresh, hname, htimeout, horigins⟩
    exact ⟨hport, haccess, hrefresh, hname, htimeout, Decidable.or_iff_not_imp_left.mpr
      fun hprod => horigins (Decidable.not_not.mp hprod)⟩

end Turnstile.Settings
