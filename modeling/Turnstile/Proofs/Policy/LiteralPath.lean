import Mathlib.Data.List.Forall2
import Turnstile.Proofs.Policy.Plain
import Turnstile.Proofs.Policy.RuleList

/-!
Rules whose path has neither placeholders nor stars. The path is put between the ends of an
expression as it stands, so it admits what that expression finds. Where none of its characters
has a meaning in patterns that is the path itself; a dot admits any character in its place.
-/

namespace Turnstile

namespace PathMatcher

/-- What a path without placeholders admits in the place of a character: a dot leaves it open. -/
def FitsDot (c d : Char) : Prop := if c = '.' then d ≠ '\n' else d = c

theorem fitsDot_of_ne {c d : Char} (h : c ≠ '.') : FitsDot c d ↔ d = c := by
  unfold FitsDot
  rw [if_neg h]

/-- Characters without a meaning and dots are a row of pieces, one for each of them. -/
theorem isRow_of_dots {cs : List Char} (h : ∀ c ∈ cs, Pattern.IsOrdinary c ∨ c = '.') :
    Pattern.IsRow cs (List.Forall₂ FitsDot cs) := by
  induction cs with
  | nil => exact Pattern.IsRow.nil.congr fun t => List.forall₂_nil_left_iff.symm
  | cons c cs ih =>
    obtain ⟨hc, hcs⟩ := List.forall_mem_cons.mp h
    have hpiece : Pattern.IsRow [c] fun t => ∃ d, t = [d] ∧ FitsDot c d := by
      by_cases hdot : c = '.'
      · subst hdot
        exact .piece .dot
      · refine (Pattern.IsRow.piece (.literal c (hc.resolve_right hdot))).congr fun t => ?_
        simp only [fitsDot_of_ne hdot, exists_eq_right]
        exact Iff.rfl
    refine (hpiece.append (ih hcs)).congr fun t => ?_
    rw [List.forall₂_cons_left_iff]
    constructor
    · rintro ⟨_, v, rfl, ⟨d, rfl, hd⟩, hv⟩
      exact ⟨d, v, hd, hv, rfl⟩
    · rintro ⟨d, v, hd, hv, rfl⟩
      exact ⟨[d], v, rfl, ⟨d, rfl, hd⟩, hv⟩

theorem forall₂_fitsDot_of_isOrdinary {cs text : List Char}
    (h : ∀ c ∈ cs, Pattern.IsOrdinary c) : List.Forall₂ FitsDot cs text ↔ text = cs := by
  have hdot : ∀ c ∈ cs, c ≠ '.' := by
    rintro c hc rfl
    exact h '.' hc (by decide)
  induction cs generalizing text with
  | nil => exact List.forall₂_nil_left_iff
  | cons c cs ih =>
    obtain ⟨hc, hcs⟩ := List.forall_mem_cons.mp hdot
    simp only [List.forall₂_cons_left_iff, fitsDot_of_ne hc, ih (List.forall_mem_cons.mp h).2 hcs]
    exact ⟨fun ⟨_, _, hd, hrest, htext⟩ => by rw [htext, hd, hrest], fun h => ⟨c, cs, rfl, rfl, h⟩⟩

end PathMatcher

namespace PolicyEngine

/-- Where colons stand for segments, a rule whose path has neither colons nor stars always comes to
a decision. It admits the paths in which its own is found as an expression between the ends of a
text: with any character for a dot, and itself alone where no character has a meaning there. -/
theorem literal_path_admits [SizeLimit] {start e : PolicyEngine} (hmatcher : start.matcher = .colon)
    {rule : Rule} {n : Nat} (hreplace : start.replace [rule] = .ok (n, e))
    (hrole : rule.role ≠ start.superadminText) (hcolon : ':' ∉ rule.path.toList)
    (hstar : '*' ∉ rule.path.toList) {action : String}
    (haction : Regex.Finds rule.actionText action.toList) (path : String) :
    ∃ allowed, e.enforce rule.role action path = .ok allowed ∧
      (allowed = true ↔ Regex.Finds ('^' :: (rule.path.toList ++ ['$'])) path.toList) ∧
      ((∀ c ∈ rule.path.toList, Pattern.IsOrdinary c ∨ c = '.') →
        (allowed = true ↔ List.Forall₂ PathMatcher.FitsDot rule.path.toList path.toList)) ∧
      ((∀ c ∈ rule.path.toList, Pattern.IsOrdinary c) → (allowed = true ↔ path = rule.path)) := by
  obtain ⟨r, hr⟩ := ((of_replace hreplace).1 rule (List.mem_singleton_self rule)).2 hmatcher
  rw [Rule.pathText, PathMatcher.dotStars_of_no_star hstar] at hr
  have henforce : e.enforce rule.role action path = .ok (r.isMatch path.toList) := by
    rw [enforce_of_single hreplace hrole haction, hmatcher]
    change PathMatcher.acceptsRegex _ _ = _
    rw [PathMatcher.regexText_of_no_colon hcolon, PathMatcher.dotStars_of_no_star hstar]
    unfold PathMatcher.acceptsRegex
    rw [hr]
  have hdots (h : ∀ c ∈ rule.path.toList, Pattern.IsOrdinary c ∨ c = '.') :
      r.isMatch path.toList = true ↔
        List.Forall₂ PathMatcher.FitsDot rule.path.toList path.toList :=
    (PathMatcher.isRow_of_dots h).isMatch_iff hr path.toList
  refine ⟨_, henforce, Regex.isMatch_iff_finds hr, hdots, fun h => ?_⟩
  rw [hdots fun c hc => .inl (h c hc), PathMatcher.forall₂_fitsDot_of_isOrdinary h,
    String.toList_inj]

/-- A path of letters and slashes admits itself alone. -/
theorem files_admit_themselves :
    ∃ n e, (PolicyEngine.bare Sample.superadmin .colon).replace
        [⟨"member", "http:GET", "/files"⟩] = .ok (n, e) ∧
      ∀ path, e.enforce "member" "http:GET" path = .ok (path == "/files") := by
  have husable : ∀ r ∈ [Rule.mk "member" "http:GET" "/files"], r.Usable .colon := by
    intro r hr
    rw [List.mem_singleton.mp hr]
    exact Rule.check_eq_ok_iff.mp (by decide +kernel)
  have hreplace := replace_of_usable (e := .bare Sample.superadmin .colon) husable
  have haction : Regex.Finds (Rule.mk "member" "http:GET" "/files").actionText
      "http:GET".toList := by decide +kernel
  have hpath : ∀ c ∈ "/files".toList, PathMatcher.IsPlain c := by simp [PathMatcher.IsPlain]
  have hmatcher : (PolicyEngine.bare Sample.superadmin .colon).matcher = .colon := rfl
  refine ⟨_, _, hreplace, fun path => ?_⟩
  obtain ⟨allowed, henforce, -, -, hexact⟩ := literal_path_admits hmatcher hreplace (by decide)
    (by decide) (by decide) haction path
  rw [henforce, Except.ok.injEq, Bool.eq_iff_iff, hexact fun c hc => (hpath c hc).isOrdinary,
    beq_iff_eq]

/-- A rule for a procedure is in force for another service as well, and a rule whose path has a
plus sign is not in force for that path. -/
theorem dots_and_signs_misread :
    ((PolicyEngine.bare Sample.superadmin .colon).replace
        [⟨"member", "rpc:Get", "/user.User/Get"⟩]).map (fun (n, e) =>
          (n, e.enforce "member" "rpc:Get" "/user.User/Get",
            e.enforce "member" "rpc:Get" "/userXUser/Get")) = .ok (1, .ok true, .ok true) ∧
    ((PolicyEngine.bare Sample.superadmin .colon).replace
        [⟨"member", "http:GET", "/a+b"⟩]).map (fun (n, e) =>
          (n, e.enforce "member" "http:GET" "/a+b")) = .ok (1, .ok false) := by
  decide +kernel

end PolicyEngine

end Turnstile
