import Turnstile.Proofs.Policy.Administration
import Turnstile.Proofs.Policy.Superadmin
import Turnstile.Proofs.Regex.Bounded

/-!
What the engine decides, whatever was done to its rules before: a request is
allowed to the superadmin, and where some rule covers it. Neither the order of
the rules nor the way they came in matters.
-/

namespace Turnstile

/-- The text holds a match of the pattern, which can be used. -/
def Regex.Finds [SizeLimit] (pattern text : List Char) : Prop :=
  ∃ r, compile pattern = .ok r ∧ r.Occurs text

theorem Regex.isMatch_iff_finds [SizeLimit] {pattern text : List Char} {r : Regex}
    (h : compile pattern = .ok r) : r.isMatch text = true ↔ Finds pattern text := by
  rw [isMatch_iff (bounded_of_compile h)]
  constructor
  · intro hoccurs
    exact ⟨r, h, hoccurs⟩
  · rintro ⟨r', hr', hoccurs⟩
    obtain rfl := Except.ok.inj (h.symm.trans hr')
    exact hoccurs

theorem Regex.finds_iff_search [SizeLimit] {pattern text : List Char} :
    Finds pattern text ↔ (compile pattern).map (·.isMatch text) = .ok true := by
  cases hr : compile pattern with
  | ok r =>
    rw [← isMatch_iff_finds hr]
    exact ⟨fun h => congrArg Except.ok h, Except.ok.inj⟩
  | error reason =>
    constructor
    · rintro ⟨r, hfound, -⟩
      cases hr.symm.trans hfound
    · exact nofun

instance [SizeLimit] {pattern text : List Char} : Decidable (Regex.Finds pattern text) :=
  decidable_of_iff _ Regex.finds_iff_search.symm

/-! ### Paths -/

namespace PathMatcher

/-- The path agrees with the pattern. -/
def Fits [SizeLimit] (m : PathMatcher) (pattern path : String) : Prop :=
  match m with
  | .star =>
    if '*' ∈ pattern.toList then pattern.toList.takeWhile (· ≠ '*') <+: path.toList
    else path = pattern
  | .colon => Regex.Finds (regexText fillColon pattern.toList) path.toList
  | .brace => Regex.Finds (regexText fillBrace pattern.toList) path.toList
  | .exact => path = pattern

section Bytes

variable {u v cs : List Char}

theorem byteLength_cons (c : Char) (cs : List Char) :
    byteLength (c :: cs) = c.utf8Size + byteLength cs := by
  have hfold (cs : List Char) (n : Nat) :
      cs.foldl (fun n c => n + c.utf8Size) n = n + byteLength cs := by
    induction cs generalizing n with
    | nil => rfl
    | cons d rest ih =>
      unfold byteLength
      rw [List.foldl_cons, List.foldl_cons, ih, ih (0 + d.utf8Size)]
      omega
  unfold byteLength
  rw [List.foldl_cons, hfold, Nat.zero_add]
  rfl

theorem byteLength_append (u v : List Char) :
    byteLength (u ++ v) = byteLength u + byteLength v := by
  induction u with
  | nil => simp [byteLength]
  | cons c u ih =>
    rw [List.cons_append, byteLength_cons, byteLength_cons, ih, Nat.add_assoc]

/-- Only the empty text takes up no bytes. -/
theorem byteLength_eq_zero (h : byteLength cs = 0) : cs = [] := by
  cases cs with
  | nil => rfl
  | cons c rest =>
    have := c.utf8Size_pos
    rw [byteLength_cons] at h
    omega

/-- A start of a text that takes up as many bytes as another one is that one. -/
theorem start_unique (hu : u <+: cs) (hv : v <+: cs) (h : byteLength u = byteLength v) :
    u = v := by
  -- One of the two is a start of the other, and nothing is left over.
  have hle {u v : List Char} (hle : u <+: v) (h : byteLength u = byteLength v) : u = v := by
    obtain ⟨w, rfl⟩ := hle
    rw [byteLength_append] at h
    rw [byteLength_eq_zero (by omega : byteLength w = 0), List.append_nil]
  rcases List.prefix_or_prefix_of_prefix hu hv with hle' | hle'
  · exact hle hle' h
  · exact (hle hle' h.symm).symm

/-- What is cut off is the start of the text with so many bytes. -/
theorem of_takeBytes? {n : Nat} (h : takeBytes? n cs = some u) : u <+: cs ∧ byteLength u = n := by
  induction cs generalizing n u with
  | nil =>
    cases n with
    | zero =>
      cases h
      exact ⟨List.nil_prefix, rfl⟩
    | succ n => cases h
  | cons c rest ih =>
    cases n with
    | zero =>
      cases h
      exact ⟨List.nil_prefix, rfl⟩
    | succ n =>
      rw [takeBytes?] at h
      split at h
      · obtain ⟨w, hw, rfl⟩ := Option.map_eq_some_iff.mp h
        obtain ⟨hstart, hlength⟩ := ih hw
        refine ⟨List.cons_prefix_cons.mpr ⟨rfl, hstart⟩, ?_⟩
        rw [byteLength_cons]
        omega
      · cases h

end Bytes

variable [SizeLimit]

theorem acceptsStar_iff {pattern path : String} {allowed : Bool}
    (h : acceptsStar pattern.toList path.toList = .ok allowed) :
    allowed = true ↔ star.Fits pattern path := by
  unfold acceptsStar at h
  unfold Fits
  dsimp only at h ⊢
  by_cases hstar : '*' ∈ pattern.toList
  · rw [if_pos (by simpa using hstar)] at h
    rw [if_pos hstar]
    generalize pattern.toList.takeWhile (· ≠ '*') = fixed at h ⊢
    split at h
    · split at h
      · rename_i start htake
        obtain ⟨hstart, hlength⟩ := of_takeBytes? htake
        cases h
        rw [beq_iff_eq]
        constructor
        · intro heq
          rw [← heq]
          exact hstart
        · exact fun hfixed => start_unique hstart hfixed hlength
      · cases h
    · rename_i hlong
      cases h
      rw [beq_iff_eq]
      constructor
      · intro heq
        exact ⟨[], by rw [heq, List.append_nil]⟩
      · rintro ⟨w, hw⟩
        have hlength := byteLength_append fixed w
        rw [hw] at hlength
        rw [← hw, byteLength_eq_zero (by omega : byteLength w = 0), List.append_nil]
  · rw [if_neg (by simpa using hstar)] at h
    rw [if_neg hstar]
    cases h
    rw [beq_iff_eq, String.toList_inj]

theorem acceptsRegex_iff {pattern path : List Char} {allowed : Bool}
    (h : acceptsRegex pattern path = .ok allowed) :
    allowed = true ↔ Regex.Finds pattern path := by
  unfold acceptsRegex at h
  split at h
  · rename_i r hr
    cases h
    exact Regex.isMatch_iff_finds hr
  · cases h

/-- Where the comparison comes to an end, it finds out whether the path agrees. -/
theorem accepts_iff {m : PathMatcher} {pattern path : String} {allowed : Bool}
    (h : m.accepts pattern path = .ok allowed) : allowed = true ↔ m.Fits pattern path := by
  cases m with
  | star => exact acceptsStar_iff h
  | colon => exact acceptsRegex_iff h
  | brace => exact acceptsRegex_iff h
  | exact =>
    cases h
    exact beq_iff_eq

/-- Only the empty path agrees with the empty pattern. -/
theorem fits_empty {m : PathMatcher} {path : String} (h : m.Fits "" path) : path = "" := by
  have hfinds (h : Regex.Finds ['^', '$'] path.toList) : path = "" := by
    obtain ⟨r, hr, hoccurs⟩ := h
    obtain rfl := Except.ok.inj (Regex.compile_ends.symm.trans hr)
    exact String.toList_inj.mp ((Regex.occurs_anchored (r := .empty)).mp hoccurs)
  cases m with
  | star => exact h
  | colon => exact hfinds h
  | brace => exact hfinds h
  | exact => exact h

end PathMatcher

/-! ### Rules -/

/-- The rule is for the role, its action pattern matches the action, and its
path pattern agrees with the path. -/
def Rule.Covers [SizeLimit] (m : PathMatcher) (r : Rule) (role action path : String) : Prop :=
  r.role = role ∧ Regex.Finds r.actionText action.toList ∧ m.Fits r.path path

theorem Rule.covers_iff [SizeLimit] {m : PathMatcher} {r : Rule} {role action path : String}
    {covered : Bool} (h : r.row.covers m role action path = .ok covered) :
    covered = true ↔ r.Covers m role action path := by
  rw [row_covers] at h
  unfold Rule.Covers
  split at h
  · rename_i hrole
    split at h
    · cases h
    · rename_i a ha
      rw [← Regex.isMatch_iff_finds ha]
      split at h
      · rename_i hmatch
        rw [PathMatcher.accepts_iff h]
        simp [beq_iff_eq.mp hrole, hmatch]
      · rename_i hmatch
        cases h
        simp [hmatch]
  · rename_i hrole
    cases h
    simp only [beq_iff_eq] at hrole
    simp [hrole]

namespace PolicyEngine

/-! ### Decisions -/

/-- The rules are asked in turn until one covers the request. -/
theorem anyCovers_iff [SizeLimit] {m : PathMatcher} {role action path : String} {rules : List Rule}
    {allowed : Bool} (h : Enforcer.anyCovers m role action path (rules.map Rule.row) = .ok allowed) :
    allowed = true ↔ ∃ r ∈ rules, r.Covers m role action path := by
  induction rules with
  | nil =>
    cases h
    simp
  | cons r rest ih =>
    rw [List.map_cons, Enforcer.anyCovers] at h
    split at h
    · rename_i hcovers
      cases h
      exact ⟨fun _ => ⟨r, List.mem_cons_self, (Rule.covers_iff hcovers).mp rfl⟩, fun _ => rfl⟩
    · rename_i hcovers
      have hnot : ¬ r.Covers m role action path := fun hr =>
        Bool.false_ne_true ((Rule.covers_iff hcovers).mpr hr)
      rw [ih h]
      simp [hnot]
    · cases h

theorem InStep.enforce_iff [SizeLimit] {e : PolicyEngine} (he : e.InStep)
    {role action path : String} {allowed : Bool} (hpath : path ≠ "")
    (h : e.enforce role action path = .ok allowed) :
    allowed = true ↔
      role = e.superadminText ∨ ∃ r ∈ e.rules, r.Covers e.matcher role action path := by
  rw [he.enforce_eq] at h
  split at h
  · rename_i hrole
    cases h
    simp [beq_iff_eq.mp hrole]
  · rename_i hrole
    simp only [beq_iff_eq] at hrole
    split at h
    · -- The empty rule that is tried instead covers empty paths only.
      rename_i hempty
      have hnot : allowed ≠ true := by
        split at h
        · intro hallowed
          exact hpath (PathMatcher.fits_empty ((PathMatcher.accepts_iff h).mp hallowed))
        · cases h
          exact Bool.false_ne_true
      simp [hnot, hrole, List.isEmpty_iff.mp hempty]
    · rw [anyCovers_iff h]
      simp [hrole]

/-! ### Runs -/

/-- An engine for a plain name allows, after any run and where it comes to a
decision, what the superadmin asks for and what some rule covers. So two runs that
leave the same set of rules lead to the same decisions. -/
theorem decision [SizeLimit] (name : String) (m : PathMatcher)
    (hname : ∀ c ∈ name.toList, Superadmin.IsPlain c) :
    ∃ start, PolicyEngine.new name m = .ok start ∧
      ∀ (calls : List EngineCall) (role action path : String) (allowed : Bool), path ≠ "" →
        (start.run calls).enforce role action path = .ok allowed →
        (allowed = true ↔ role = name ∨
          ∃ r ∈ (start.run calls).rules, r.Covers m role action path) ∧
        ∀ (others : List EngineCall) (allowed' : Bool),
          (∀ r, r ∈ (start.run others).rules ↔ r ∈ (start.run calls).rules) →
          (start.run others).enforce role action path = .ok allowed' → allowed' = allowed := by
  refine ⟨.bare (.plain name hname) m, new_role (.plain name hname) m,
    fun calls role action path allowed hpath h => ?_⟩
  have hdecides (calls : List EngineCall) {allowed : Bool}
      (h : (run (.bare (.plain name hname) m) calls).enforce role action path = .ok allowed) :
      allowed = true ↔ role = name ∨
        ∃ r ∈ (run (.bare (.plain name hname) m) calls).rules, r.Covers m role action path := by
    obtain ⟨hsuper, hmatcher⟩ := run_fixed (.bare (.plain name hname) m) calls
    rw [((bare_inStep _ m).run calls).enforce_iff hpath h, superadminText, hsuper, hmatcher]
    exact Iff.rfl
  refine ⟨hdecides calls h, fun others allowed' hsame h' => ?_⟩
  rw [Bool.eq_iff_iff, hdecides others h', hdecides calls h]
  simp only [hsame]

theorem member_decision :
    ∃ start, PolicyEngine.new "super-admin" .star = .ok start ∧
      (start.run [.replace [⟨"member", "http:(GET|POST)", "/x/*"⟩]]).enforce
        "member" "http:POST" "/x/1" = .ok true ∧
      ∃ r ∈ (start.run [.replace [⟨"member", "http:(GET|POST)", "/x/*"⟩]]).rules,
        r.Covers .star "member" "http:POST" "/x/1" := by
  have hname : ∀ c ∈ "super-admin".toList, Superadmin.IsPlain c := by
    simp [Superadmin.IsPlain]
  obtain ⟨start, hnew, hdecides⟩ := decision "super-admin" .star hname
  have hstart : start = .bare ⟨"super-admin", "super-admin", by decide +kernel⟩ .star :=
    Except.ok.inj (hnew.symm.trans (new_role ⟨"super-admin", "super-admin", _⟩ .star))
  have hallowed : (start.run [.replace [⟨"member", "http:(GET|POST)", "/x/*"⟩]]).enforce
      "member" "http:POST" "/x/1" = .ok true := by
    rw [hstart]
    decide +kernel
  have hcovered := (hdecides _ _ _ _ true (by decide) hallowed).1.mp rfl
  exact ⟨start, hnew, hallowed, hcovered.resolve_left (by decide)⟩

end PolicyEngine

end Turnstile
