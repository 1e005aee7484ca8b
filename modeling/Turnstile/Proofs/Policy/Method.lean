import Turnstile.Proofs.Policy.Administration
import Turnstile.Proofs.Policy.Chain
import Turnstile.Proofs.Regex.Anchored

/-!
What a method pattern says of methods once it is part of a rule. The service type
is written before it, so that its first branch alone speaks of methods of that type.
-/

namespace Turnstile

/-- The action that a request for a method of a service asks for. -/
def ServiceType.action (t : ServiceType) (method : String) : String := t.text ++ ":" ++ method

namespace Pattern

/-- A word that stands for itself. -/
def word (cs : List Char) : Pattern := ofRow (literalRow cs)

end Pattern

namespace Regex

/-- The expression of a word that stands for itself. -/
def word : List Char → Regex
  | [] => .empty
  | [c] => .chars (.single c)
  | c :: rest => .cat (.chars (.single c)) (word rest)

theorem matches_word (cs : List Char) {before after : Option Char} {text : List Char} :
    (word cs).Matches before text after ↔ text = cs := by
  fun_induction word cs generalizing before text with
  | case1 => exact Iff.rfl
  | case2 c => exact matches_single
  | case3 c rest hrest ih =>
    rw [matches_single_cat]
    simp [ih]

end Regex

namespace Grant

theorem actionText_toRule {g : Grant} {t : ServiceType} (ht : g.serviceType = t.text) :
    g.toRule.actionText = Pattern.anchored (t.text ++ ":").toList g.method.toList := by
  simp [Rule.actionText, Grant.toRule, Pattern.anchored, Pattern.closing, ht]

/-- The rule for a grant whose method is a pattern by itself, without comments. Unless
that is too deep for a rule, it is accepted if what is written around it stays small
enough, and refused if not. In use, a pattern that has no bar at its top admits the
methods that it matches as a whole after the colon. Where it has one, only its first
branch speaks of methods, and the others of the whole action. -/
theorem method_admitted [SizeLimit] (g : Grant) {t : ServiceType} (ht : g.serviceType = t.text)
    {p : Pattern} {r : Regex} (hp : Pattern.read? g.method.toList = some p)
    (hr : Regex.compile g.method.toList = .ok r) (hspace : '#' ∈ g.method.toList → p.KeepsSpace) :
    (p.depth + 3 ≤ Pattern.maxDepth →
      ∀ e : PolicyEngine, (e.matcher = .colon → ∃ b, Regex.compile g.toRule.pathText = .ok b) →
        (SizeLimit.fits g.toRule.actionText = true →
          e.replace [g.toRule] = .ok (1, e.inForce [g.toRule])) ∧
        (SizeLimit.fits g.toRule.actionText = false →
          ∃ reason, e.replace [g.toRule] = .error (.invalidPolicy reason))) ∧
    ∀ (e e' : PolicyEngine) (rules : List Rule) (n : Nat), e.replace rules = .ok (n, e') →
      g.toRule ∈ rules →
      ∃ a, Regex.compile g.toRule.actionText = .ok a ∧
        (p.isAlt = false → ∀ m, a.isMatch (t.action m).toList = true ↔
          r.Matches (some ':') m.toList none) ∧
        (p.isAlt = false → r.LooksAhead → ∀ m, a.isMatch (t.action m).toList = true ↔
          r.Matches none m.toList none) ∧
        (p.isAlt = true → ∃ r₁ r₂, r = .alt r₁ r₂ ∧ ∀ m, a.isMatch (t.action m).toList = true ↔
          r₁.Matches (some ':') m.toList none ∨ r₂.Matches none (t.action m).toList none) := by
  have hlits : ∀ c ∈ (t.text ++ ":").toList, Pattern.isMeta c = false := by
    cases t <;> simp [ServiceType.text, Pattern.isMeta]
  have hlast : (t.text ++ ":").toList.getLast? = some ':' := by cases t <;> decide
  obtain ⟨p', hp', hr', -⟩ := Regex.of_compile hr
  obtain rfl := Option.some.inj (hp.symm.trans hp')
  obtain ⟨hreads, hmeans⟩ := Pattern.compile_anchored hlits hspace hp hr'
  rw [← actionText_toRule ht] at hreads hmeans
  -- After the service type there is one way to go on to the action of a method.
  have hrest (s : Regex) (m : String) : (∃ v, (t.action m).toList = (t.text ++ ":").toList ++ v ∧
      s.Matches (t.text ++ ":").toList.getLast? v none) ↔ s.Matches (some ':') m.toList none := by
    rw [hlast, ServiceType.action, String.toList_append]
    simp
  refine ⟨fun hdeep e he => ?_, fun e e' rules n hreplace hrule => ?_⟩
  · obtain ⟨a, ha⟩ := hreads hdeep
    constructor
    · intro hfits
      rw [if_pos hfits] at ha
      exact PolicyEngine.replace_single ⟨⟨a, ha⟩, he⟩
    · intro hlarge
      rw [if_neg (Bool.eq_false_iff.mp hlarge)] at ha
      refine PolicyEngine.replace_of_unusable ⟨_, List.mem_singleton_self _, ?_⟩
      rintro ⟨⟨b, hb⟩, -⟩
      cases ha.symm.trans hb
  · obtain ⟨a, ha⟩ := ((PolicyEngine.of_replace hreplace).1 _ hrule).1
    obtain ⟨r', ⟨hrow, hbranches⟩, hmatch⟩ := hmeans a ha
    have hone (halt : p.isAlt = false) (m : String) : a.isMatch (t.action m).toList = true ↔
        r.Matches (some ':') m.toList none := by
      rw [hmatch, hrow halt, hrest]
    refine ⟨a, ha, hone, fun halt hlooks m => ?_, fun halt => ?_⟩
    · rw [hone halt, hlooks.matches_congr]
    · obtain ⟨r₁, r₂, rfl, hboth⟩ := hbranches halt
      exact ⟨r₁, r₂, rfl, fun m => by rw [hmatch, hboth, hrest]⟩

/-- Alternatives in parentheses admit just the methods that they name. -/
theorem get_or_post_admitted :
    (PolicyEngine.bare Sample.superadmin .star).replace
        [Grant.toRule ⟨"member", "http", "(GET|POST)", "/x"⟩] =
      .ok (1, (PolicyEngine.bare Sample.superadmin .star).inForce
        [Grant.toRule ⟨"member", "http", "(GET|POST)", "/x"⟩]) ∧
    ∃ a, Regex.compile (Grant.toRule ⟨"member", "http", "(GET|POST)", "/x"⟩).actionText = .ok a ∧
      ∀ m, a.isMatch (ServiceType.http.action m).toList = true ↔ m = "GET" ∨ m = "POST" := by
  have hread : Pattern.read? "(GET|POST)".toList = some (.group []
      (.alt (Pattern.word "GET".toList) (Pattern.word "POST".toList))) := by decide +kernel
  have hcompile : Regex.compile "(GET|POST)".toList =
      .ok (.alt (Regex.word "GET".toList) (Regex.word "POST".toList)) := by decide +kernel
  obtain ⟨haccept, hadmit⟩ :=
    method_admitted ⟨"member", "http", "(GET|POST)", "/x"⟩ (t := .http) rfl hread hcompile
      fun hmem => absurd hmem (by decide)
  have hreplace := (haccept (by decide) (.bare Sample.superadmin .star) nofun).1 (by decide +kernel)
  obtain ⟨a, ha, -, hwhole, -⟩ := hadmit _ _ _ _ hreplace (List.mem_singleton_self _)
  refine ⟨hreplace, a, ha, fun m => ?_⟩
  rw [hwhole rfl (by simp [Regex.word, Regex.LooksAhead]), Regex.Matches, Regex.matches_word,
    Regex.matches_word, String.toList_inj, String.toList_inj]

/-- Without the parentheses the second one is no method of the service any more,
but an action of its own. -/
theorem get_or_post_split :
    ∃ r, Regex.compile "GET|POST".toList = .ok r ∧ r.Matches none "POST".toList none ∧
      (PolicyEngine.bare Sample.superadmin .star).replace
          [Grant.toRule ⟨"member", "http", "GET|POST", "/x"⟩] =
        .ok (1, (PolicyEngine.bare Sample.superadmin .star).inForce
          [Grant.toRule ⟨"member", "http", "GET|POST", "/x"⟩]) ∧
      (Regex.compile (Grant.toRule ⟨"member", "http", "GET|POST", "/x"⟩).actionText).map
          (fun a => (a.isMatch (ServiceType.http.action "POST").toList, a.isMatch "POST".toList)) =
        .ok (false, true) := by
  have hcompile : Regex.compile "GET|POST".toList =
      .ok (.alt (Regex.word "GET".toList) (Regex.word "POST".toList)) := by decide +kernel
  have hcheck : (Grant.toRule ⟨"member", "http", "GET|POST", "/x"⟩).check .star = .ok () := by
    decide +kernel
  exact ⟨_, hcompile, .inr ((Regex.matches_word _).mpr rfl),
    PolicyEngine.replace_single (Rule.check_eq_ok_iff.mp hcheck), by decide +kernel⟩

end Grant

end Turnstile
