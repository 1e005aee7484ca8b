import Turnstile.Proofs.Gate
import Turnstile.Proofs.Policy.Totality
import Turnstile.Proofs.Regex.Row

/-!
Resources that are named in a route as they stand in a rule. Where method and path hold nothing
that has a meaning in a pattern, the rule for the resource covers the request for it, under each
of the ways to compare paths.
-/

namespace Turnstile

/-- An ASCII letter or digit, or one of the signs in a path that stand for themselves. -/
def PathMatcher.IsPlain (c : Char) : Prop := c.isAlphanum = true ∨ c = '/' ∨ c = '-' ∨ c = '_'

/-- Method and path are there and hold nothing with a meaning of its own. -/
structure Resource.IsPlain (s : Resource) : Prop where
  method : ∀ c ∈ s.method.toList, c.isAlphanum = true
  method_ne : s.method ≠ ""
  path : ∀ c ∈ s.path.toList, PathMatcher.IsPlain c
  path_ne : s.path ≠ ""

/-- The route to the resource. -/
def Resource.element (s : Resource) : ElementId := ⟨s.method, s.path⟩

theorem Resource.IsPlain.divides {s : Resource} (h : s.IsPlain) :
    s.element.Divides s.element.text := by
  refine ⟨rfl, fun hbar => ?_, h.method_ne, h.path_ne⟩
  exact absurd (h.method '|' hbar) (by decide)

/-! ### Paths -/

namespace PathMatcher

variable {c : Char} {cs : List Char}

theorem IsPlain.isOrdinary (h : IsPlain c) : Pattern.IsOrdinary c := by
  intro hmem
  simp only [List.mem_cons, List.not_mem_nil, or_false] at hmem
  rcases hmem with rfl | rfl | rfl | rfl | rfl | rfl | rfl | rfl | rfl | rfl | rfl | rfl <;>
    exact absurd h (by unfold IsPlain; decide)

theorem IsPlain.lt (h : IsPlain c) : c.toNat < 128 := by
  rcases h with h | rfl | rfl | rfl
  · have := (Superadmin.IsPlain.bounds (.inl h)).2.1
    omega
  · decide
  · decide
  · decide

/-- A path without stars is left as it is. -/
theorem dotStars_of_no_star (h : '*' ∉ cs) : dotStars cs = cs := by
  have hkeep : ∀ seg ∈ segments cs, dotStar seg = seg := by
    intro seg hseg
    unfold dotStar
    split
    · exact absurd (mem_of_mem_segments hseg List.mem_cons_self) h
    · rfl
  obtain ⟨first, more, hsegments⟩ := List.exists_cons_of_ne_nil (segments_ne_nil cs)
  have hmore : more.map dotStar = more := by
    have hid : ∀ seg ∈ more, dotStar seg = seg :=
      fun seg hseg => hkeep seg (hsegments ▸ List.mem_cons_of_mem first hseg)
    rw [List.map_congr_left hid, List.map_id']
  unfold dotStars
  rw [hsegments]
  dsimp only
  rw [hmore, ← hsegments, joinSegments_segments]

/-- Without a brace there is nothing to fill in. -/
theorem regexText_of_no_brace (h : '\x7b' ∉ cs) :
    regexText fillBrace cs = '^' :: (dotStars cs ++ ['$']) := by
  refine regexText_of_fills fun seg hseg => ?_
  have hno : ∀ c ∈ seg, decide (c ≠ '\x7b') = true := by
    intro c hc
    refine decide_eq_true ?_
    rintro rfl
    rcases of_mem_dotStars (mem_of_mem_segments hseg hc) with heq | heq | hmem
    · cases heq
    · cases heq
    · exact h hmem
  have hinner : (seg.dropWhile (· ≠ '\x7b')).drop 1 = [] := by
    rw [List.dropWhile_eq_nil_iff.mpr hno]
    rfl
  unfold fillBrace
  rw [hinner]
  rfl

/-- A plain path agrees with itself, if the comparison comes to an end. -/
theorem accepts_itself [SizeLimit] {m : PathMatcher} {path : String}
    (hpath : ∀ c ∈ path.toList, IsPlain c) {allowed : Bool}
    (h : m.accepts path path = .ok allowed) : allowed = true := by
  have hnot (d : Char) (hd : ¬ IsPlain d) : d ∉ path.toList := fun hmem => hd (hpath d hmem)
  have hstar : '*' ∉ path.toList := hnot '*' (by unfold IsPlain; decide)
  have hregex (h : acceptsRegex ('^' :: (dotStars path.toList ++ ['$'])) path.toList =
      .ok allowed) : allowed = true := by
    rw [dotStars_of_no_star hstar] at h
    unfold acceptsRegex at h
    split at h
    · rename_i r hr
      rw [← Except.ok.inj h]
      have hrow := Pattern.IsRow.literals fun c hc => (hpath c hc).isOrdinary
      exact (hrow.isMatch_iff hr path.toList).mpr rfl
    · cases h
  unfold accepts at h
  cases m with
  | star =>
    dsimp only at h
    unfold acceptsStar at h
    rw [if_neg (by simpa using hstar)] at h
    rw [← Except.ok.inj h]
    exact beq_self_eq_true _
  | colon =>
    dsimp only at h
    rw [regexText_of_no_colon (hnot ':' (by unfold IsPlain; decide))] at h
    exact hregex h
  | brace =>
    dsimp only at h
    rw [regexText_of_no_brace (hnot '\x7b' (by unfold IsPlain; decide))] at h
    exact hregex h
  | exact =>
    rw [← Except.ok.inj h]
    exact beq_self_eq_true _

end PathMatcher

/-! ### Rules -/

/-- The rule that lets a role use the resource, as one of a service type. -/
def Resource.rule (s : Resource) (serviceType : ServiceType) (role : String) : Rule :=
  ⟨role, serviceType.action s.method, s.path⟩

section Rules

variable {s : Resource} {serviceType : ServiceType} {role : String}

theorem Rule.actionText_eq_anchored (r : Rule) :
    r.actionText = Pattern.anchored r.action.toList [] := by
  simp [actionText, Pattern.anchored, Pattern.closing]

theorem ServiceType.of_mem_action {method : String} (hmethod : ∀ c ∈ method.toList, c.isAlphanum)
    {c : Char} (h : c ∈ (serviceType.action method).toList) : c = ':' ∨ c.isAlphanum = true := by
  have htype : ∀ c ∈ serviceType.text.toList, c.isAlphanum = true := by
    cases serviceType <;> simp [ServiceType.text]
  simp only [action, String.toList_append, List.append_assoc, List.mem_append] at h
  rcases h with h | h | h
  · exact .inr (htype c h)
  · exact .inl (List.mem_singleton.mp h)
  · exact .inr (hmethod c h)

theorem Pattern.isMeta_of_isAlphanum {c : Char} (h : c.isAlphanum = true) : isMeta c = false := by
  have hmeta : (['\\', '.', '+', '*', '?', '(', ')', '|', '[', ']', '\x7b', '\x7d', '^', '$', '#',
      '&', '-', '~'].all fun d => !d.isAlphanum) = true := by decide
  refine Bool.eq_false_iff.mpr fun hc => ?_
  have hnot := List.all_eq_true.mp hmeta c (List.contains_iff_mem.mp hc)
  rw [h] at hnot
  cases hnot

variable [SizeLimit]

/-- The rule for a plain resource covers the request for it, if the comparison of the path comes
to an end. -/
theorem Resource.IsPlain.covers (hs : s.IsPlain) {m : PathMatcher} {covered : Bool}
    (h : (s.rule serviceType role).row.covers m role (serviceType.action s.method) s.path =
      .ok covered) : covered = true := by
  have hchars : ∀ c ∈ (serviceType.action s.method).toList, Pattern.isMeta c = false := by
    intro c hc
    rcases ServiceType.of_mem_action hs.method hc with rfl | halpha
    · decide
    · exact Pattern.isMeta_of_isAlphanum halpha
  rw [Rule.row_covers] at h
  have hrole : ((s.rule serviceType role).role == role) = true := beq_self_eq_true role
  rw [if_pos hrole] at h
  split at h
  · cases h
  · rename_i a ha
    rw [Rule.actionText_eq_anchored] at ha
    have hmatch := Pattern.isMatch_anchored hchars ha
    rw [if_pos hmatch] at h
    exact PathMatcher.accepts_itself hs.path h

namespace PolicyEngine

/-- A search that finds nothing has asked every rule. -/
theorem covers_of_anyCovers {m : PathMatcher} {action path : String} {rules : List Rule}
    (h : Enforcer.anyCovers m role action path (rules.map Rule.row) = .ok false) :
    ∀ r ∈ rules, r.row.covers m role action path = .ok false := by
  induction rules with
  | nil => exact List.forall_mem_nil _
  | cons r rest ih =>
    rw [List.map_cons, Enforcer.anyCovers] at h
    split at h
    · cases h
    · rename_i hr
      exact List.forall_mem_cons.mpr ⟨hr, ih h⟩
    · cases h

/-- Where the rule for a plain resource is in force, the request for it is allowed, if the engine
comes to a decision. -/
theorem InStep.enforce_of_isPlain {e : PolicyEngine} (he : e.InStep) (hs : s.IsPlain)
    (hrule : s.rule serviceType role ∈ e.rules) {allowed : Bool}
    (h : e.enforce role (serviceType.action s.method) s.path = .ok allowed) : allowed = true := by
  rw [he.enforce_eq] at h
  split at h
  · exact (Except.ok.inj h).symm
  · rw [if_neg (by simpa using List.ne_nil_of_mem hrule)] at h
    cases allowed with
    | true => rfl
    | false => exact hs.covers (covers_of_anyCovers h _ hrule)

end PolicyEngine

end Rules

end Turnstile
