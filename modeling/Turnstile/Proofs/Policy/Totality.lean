import Turnstile.Proofs.Policy.Decision
import Turnstile.Proofs.Policy.Method

/-!
When the engine comes to a decision, and when it breaks off instead. Every rule in
force has passed its check, so its action pattern can be used. Its path is another
matter: what is compared with a request is not what was checked, so an accepted
rule can still break off, for a path that asks for it.
-/

namespace Turnstile

namespace PathMatcher

/-! ### Paths -/

/-- The comparison of a path with the pattern of an accepted rule breaks off: the path
is cut inside a character, or the expression for the pattern cannot be used. A pattern
with colons was checked, so only what is filled in for them can break it; one with
braces never was. -/
inductive Breaks [SizeLimit] (pattern path : String) : PathMatcher → Fault → Prop
  | cut (hstar : '*' ∈ pattern.toList)
      (hlong : byteLength (pattern.toList.takeWhile (· ≠ '*')) < byteLength path.toList)
      (hcut : ∀ start, start <+: path.toList →
        byteLength start ≠ byteLength (pattern.toList.takeWhile (· ≠ '*'))) :
      Breaks pattern path .star .characterCut
  | colon (hcolon : ':' ∈ pattern.toList)
      (hfilled : ∀ r, Regex.compile (regexText fillColon pattern.toList) ≠ .ok r) :
      Breaks pattern path .colon .patternUnusable
  | brace (hfilled : ∀ r, Regex.compile (regexText fillBrace pattern.toList) ≠ .ok r) :
      Breaks pattern path .brace .patternUnusable

section Bytes

variable {start cs : List Char}

theorem takeBytes?_of_starts (h : start <+: cs) :
    takeBytes? (byteLength start) cs = some start := by
  induction start generalizing cs with
  | nil => cases cs <;> rfl
  | cons c start ih =>
    obtain ⟨rest, rfl⟩ := h
    have hpos := c.utf8Size_pos
    rw [byteLength_cons, List.cons_append]
    obtain ⟨n, hn⟩ : ∃ n, c.utf8Size + byteLength start = n + 1 :=
      ⟨c.utf8Size + byteLength start - 1, by omega⟩
    rw [hn, takeBytes?, if_pos (by omega), ← hn, Nat.add_sub_cancel_left,
      ih (List.prefix_append start rest)]
    rfl

/-- A text cannot be cut where no start of it ends. -/
theorem takeBytes?_eq_none_iff {n : Nat} :
    takeBytes? n cs = none ↔ ∀ start, start <+: cs → byteLength start ≠ n := by
  constructor
  · rintro h start hstart rfl
    rw [takeBytes?_of_starts hstart] at h
    cases h
  · intro h
    cases htake : takeBytes? n cs with
    | none => rfl
    | some start =>
      obtain ⟨hstart, hlength⟩ := of_takeBytes? htake
      exact absurd hlength (h start hstart)

/-- Characters of one byte each. -/
theorem byteLength_of_ascii (h : ∀ c ∈ cs, c.toNat < 128) : byteLength cs = cs.length := by
  induction cs with
  | nil => rfl
  | cons c rest ih =>
    obtain ⟨hc, hrest⟩ := List.forall_mem_cons.mp h
    have hsize : c.utf8Size = 1 :=
      Char.utf8Size_eq_one_iff.mpr (UInt32.le_iff_toNat_le.mpr (Nat.le_of_lt_succ hc))
    rw [byteLength_cons, hsize, ih hrest, List.length_cons, Nat.add_comm]

end Bytes

section Segments

variable {c : Char} {cs : List Char}

theorem segments_ne_nil (cs : List Char) : segments cs ≠ [] := by
  fun_cases segments cs <;> exact List.cons_ne_nil _ _

theorem joinSegments_cons_cons (c : Char) (first : List Char) (more : List (List Char)) :
    joinSegments ((c :: first) :: more) = c :: joinSegments (first :: more) := by
  cases more <;> rfl

/-- Nothing is lost between the slashes. -/
theorem joinSegments_segments (cs : List Char) : joinSegments (segments cs) = cs := by
  fun_induction segments cs with
  | case1 => rfl
  | case2 rest ih =>
    obtain ⟨first, more, hrest⟩ := List.exists_cons_of_ne_nil (segments_ne_nil rest)
    rw [hrest] at ih ⊢
    exact congrArg ('/' :: ·) ih
  | case3 c rest _ first more hrest ih =>
    rw [joinSegments_cons_cons, ← hrest, ih]
  | case4 c rest _ hrest => exact absurd hrest (segments_ne_nil rest)

theorem of_mem_joinSegments {segs : List (List Char)} (h : c ∈ joinSegments segs) :
    c = '/' ∨ ∃ seg ∈ segs, c ∈ seg := by
  fun_induction joinSegments segs with
  | case1 => cases h
  | case2 seg => exact .inr ⟨seg, List.mem_singleton_self seg, h⟩
  | case3 seg rest _ ih =>
    rcases List.mem_append.mp h with hseg | hrest
    · exact .inr ⟨seg, List.mem_cons_self, hseg⟩
    rcases List.mem_cons.mp hrest with hslash | hrest
    · exact .inl hslash
    rcases ih hrest with hslash | ⟨other, hother, hc⟩
    · exact .inl hslash
    · exact .inr ⟨other, List.mem_cons_of_mem seg hother, hc⟩

theorem mem_of_mem_segments {seg : List Char} (hseg : seg ∈ segments cs) (hc : c ∈ seg) :
    c ∈ cs := by
  fun_induction segments cs generalizing seg with
  | case1 =>
    rw [List.mem_singleton.mp hseg] at hc
    cases hc
  | case2 rest ih =>
    rcases List.mem_cons.mp hseg with rfl | hseg
    · cases hc
    · exact List.mem_cons_of_mem _ (ih hseg hc)
  | case3 d rest _ first more hrest ih =>
    rcases List.mem_cons.mp hseg with rfl | hseg
    · rcases List.mem_cons.mp hc with rfl | hc
      · exact List.mem_cons_self
      · exact List.mem_cons_of_mem _ (ih (by rw [hrest]; exact List.mem_cons_self) hc)
    · exact List.mem_cons_of_mem _ (ih (by rw [hrest]; exact List.mem_cons_of_mem _ hseg) hc)
  | case4 d rest _ hrest => exact absurd hrest (segments_ne_nil rest)

theorem of_mem_dotStar {seg : List Char} (h : c ∈ dotStar seg) : c = '.' ∨ c ∈ seg := by
  unfold dotStar at h
  split at h
  · exact List.mem_cons.mp h
  · exact .inr h

/-- Only slashes and dots are written into a path. -/
theorem of_mem_dotStars (h : c ∈ dotStars cs) : c = '/' ∨ c = '.' ∨ c ∈ cs := by
  unfold dotStars at h
  split at h
  · rename_i first more hsegs
    rcases of_mem_joinSegments h with hslash | ⟨seg, hseg, hc⟩
    · exact .inl hslash
    rcases List.mem_cons.mp hseg with rfl | hseg
    · exact .inr (.inr (mem_of_mem_segments (by rw [hsegs]; exact List.mem_cons_self) hc))
    · obtain ⟨old, hold, rfl⟩ := List.mem_map.mp hseg
      refine .inr ((of_mem_dotStar hc).imp_right fun hc => ?_)
      exact mem_of_mem_segments (by rw [hsegs]; exact List.mem_cons_of_mem _ hold) hc
  · cases h

/-- Where there is nothing to fill in, the expression is the path between the ends. -/
theorem regexText_of_fills {fill : List Char → List Char}
    (h : ∀ seg ∈ segments (dotStars cs), fill seg = seg) :
    regexText fill cs = '^' :: (dotStars cs ++ ['$']) := by
  rw [regexText, List.map_congr_left h, List.map_id', joinSegments_segments]

/-- Without a colon there is nothing to fill in. -/
theorem regexText_of_no_colon (h : ':' ∉ cs) :
    regexText fillColon cs = '^' :: (dotStars cs ++ ['$']) := by
  refine regexText_of_fills fun seg hseg => ?_
  rw [fillColon, if_neg]
  intro hcolon
  rcases of_mem_dotStars (mem_of_mem_segments hseg (List.contains_iff_mem.mp hcolon)) with
    heq | heq | hmem
  · cases heq
  · cases heq
  · exact h hmem

end Segments

/-! ### Where a comparison breaks off -/

variable [SizeLimit]

theorem acceptsStar_error_iff {pattern path : String} {f : Fault} :
    acceptsStar pattern.toList path.toList = .error f ↔ star.Breaks pattern path f := by
  unfold acceptsStar
  by_cases hstar : '*' ∈ pattern.toList
  · rw [if_pos (by simpa using hstar)]
    dsimp only
    constructor
    · intro h
      split at h
      · rename_i hlong
        split at h
        · cases h
        · rename_i htake
          cases h
          exact .cut hstar hlong (takeBytes?_eq_none_iff.mp htake)
      · cases h
    · rintro ⟨-, hlong, hcut⟩
      rw [if_pos hlong, takeBytes?_eq_none_iff.mpr hcut]
  · rw [if_neg (by simpa using hstar)]
    constructor
    · intro h
      cases h
    · rintro ⟨hmem⟩
      exact absurd hmem hstar

/-- A path of ASCII characters can be cut anywhere. -/
theorem not_breaks_of_ascii {pattern path : String} (h : ∀ c ∈ path.toList, c.toNat < 128)
    (f : Fault) : ¬ star.Breaks pattern path f := by
  rintro ⟨-, hlong, hcut⟩
  generalize byteLength (pattern.toList.takeWhile (· ≠ '*')) = n at hlong hcut
  refine hcut (path.toList.take n) (List.take_prefix n path.toList) ?_
  rw [byteLength_of_ascii h] at hlong
  rw [byteLength_of_ascii fun c hc => h c (List.mem_of_mem_take hc), List.length_take]
  omega

theorem acceptsRegex_error_iff {pattern path : List Char} {f : Fault} :
    acceptsRegex pattern path = .error f ↔
      f = .patternUnusable ∧ ∀ r, Regex.compile pattern ≠ .ok r := by
  unfold acceptsRegex
  cases Regex.compile pattern with
  | ok r => simp
  | error e => simp [eq_comm]

end PathMatcher

namespace Rule

variable [SizeLimit]

/-- The check of a rule settles the paths without placeholders. -/
theorem Usable.colon_mem {r : Rule} (husable : r.Usable .colon)
    (hfilled : ∀ e, Regex.compile
      (PathMatcher.regexText PathMatcher.fillColon r.path.toList) ≠ .ok e) :
    ':' ∈ r.path.toList := by
  by_contra hno
  obtain ⟨e, he⟩ := husable.2 rfl
  rw [PathMatcher.regexText_of_no_colon hno] at hfilled
  exact hfilled e he

theorem accepts_error_iff {m : PathMatcher} {r : Rule} {path : String} {f : Fault}
    (husable : r.Usable m) : m.accepts r.path path = .error f ↔ m.Breaks r.path path f := by
  cases m with
  | star => exact PathMatcher.acceptsStar_error_iff
  | colon =>
    refine PathMatcher.acceptsRegex_error_iff.trans ⟨?_, ?_⟩
    · rintro ⟨rfl, hfilled⟩
      exact .colon (husable.colon_mem hfilled) hfilled
    · intro h
      cases h with
      | colon _ hfilled => exact ⟨rfl, hfilled⟩
  | brace =>
    refine PathMatcher.acceptsRegex_error_iff.trans ⟨?_, ?_⟩
    · rintro ⟨rfl, hfilled⟩
      exact .brace hfilled
    · intro h
      cases h with
      | brace hfilled => exact ⟨rfl, hfilled⟩
  | exact =>
    constructor
    · intro h
      cases h
    · intro h
      cases h

/-- The rule is looked at for the request as far as its path, and breaks off there. -/
def Breaks (m : PathMatcher) (r : Rule) (role action path : String) (f : Fault) : Prop :=
  r.role = role ∧ Regex.Finds r.actionText action.toList ∧ m.Breaks r.path path f

theorem covers_error_iff {m : PathMatcher} {r : Rule} {role action path : String} {f : Fault}
    (husable : r.Usable m) :
    r.row.covers m role action path = .error f ↔ r.Breaks m role action path f := by
  obtain ⟨a, ha⟩ := husable.1
  unfold Breaks
  rw [row_covers, ha, ← Regex.isMatch_iff_finds ha, ← accepts_error_iff husable]
  by_cases hrole : r.role = role
  · cases hmatch : a.isMatch action.toList <;> simp [hrole, hmatch]
  · simp [hrole]

/-- The rule neither covers the request nor breaks off. -/
def Passes (m : PathMatcher) (r : Rule) (role action path : String) : Prop :=
  ¬ r.Covers m role action path ∧ ∀ f, ¬ r.Breaks m role action path f

theorem covers_false_iff {m : PathMatcher} {r : Rule} {role action path : String}
    (husable : r.Usable m) :
    r.row.covers m role action path = .ok false ↔ r.Passes m role action path := by
  unfold Passes
  cases hcovers : r.row.covers m role action path with
  | error f =>
    constructor
    · intro h
      cases h
    · rintro ⟨-, hnot⟩
      exact absurd ((covers_error_iff husable).mp hcovers) (hnot f)
  | ok covered =>
    have hnone (f : Fault) : ¬ r.Breaks m role action path f := by
      rw [← covers_error_iff husable, hcovers]
      exact fun h => nomatch h
    rw [← covers_iff hcovers]
    simp [hnone]

end Rule

namespace PolicyEngine

/-! ### Decisions -/

/-- The search breaks off at the first rule that does not let it pass. -/
theorem anyCovers_error_iff [SizeLimit] {m : PathMatcher} {role action path : String}
    {rules : List Rule} {f : Fault} (husable : ∀ r ∈ rules, r.Usable m) :
    Enforcer.anyCovers m role action path (rules.map Rule.row) = .error f ↔
      ∃ pre r post, rules = pre ++ r :: post ∧ (∀ q ∈ pre, q.Passes m role action path) ∧
        r.Breaks m role action path f := by
  induction rules with
  | nil => simp [Enforcer.anyCovers]
  | cons r rest ih =>
    obtain ⟨hr, hrest⟩ := List.forall_mem_cons.mp husable
    have hbreaks : r.row.covers m role action path = .error f ↔ r.Breaks m role action path f :=
      Rule.covers_error_iff hr
    have hpasses : r.row.covers m role action path = .ok false ↔ r.Passes m role action path :=
      Rule.covers_false_iff hr
    -- The rule is the one that breaks off, or one that the search has passed.
    have hsplit : (∃ pre q post, r :: rest = pre ++ q :: post ∧
        (∀ p ∈ pre, p.Passes m role action path) ∧ q.Breaks m role action path f) ↔
        r.Breaks m role action path f ∨ r.Passes m role action path ∧
          Enforcer.anyCovers m role action path (rest.map Rule.row) = .error f := by
      rw [ih hrest]
      constructor
      · rintro ⟨pre, q, post, hrules, hpre, hq⟩
        cases pre with
        | nil =>
          obtain ⟨rfl, -⟩ := List.cons.inj hrules
          exact .inl hq
        | cons p pre =>
          obtain ⟨rfl, htail⟩ := List.cons.inj hrules
          obtain ⟨hp, hpre⟩ := List.forall_mem_cons.mp hpre
          exact .inr ⟨hp, pre, q, post, htail, hpre, hq⟩
      · rintro (hr | ⟨hr, pre, q, post, rfl, hpre, hq⟩)
        · exact ⟨[], r, rest, rfl, List.forall_mem_nil _, hr⟩
        · exact ⟨r :: pre, q, post, rfl, List.forall_mem_cons.mpr ⟨hr, hpre⟩, hq⟩
    rw [hsplit, ← hbreaks, ← hpasses, List.map_cons, Enforcer.anyCovers]
    cases hcovers : r.row.covers m role action path with
    | error g => simp
    | ok covered => cases covered <;> simp

/-- The one empty rule that stands for none never breaks off. -/
theorem accepts_empty [SizeLimit] (m : PathMatcher) (path : String) :
    ∃ allowed, m.accepts "" path = .ok allowed := by
  have hends : ∃ allowed, PathMatcher.acceptsRegex ['^', '$'] path.toList = .ok allowed := by
    unfold PathMatcher.acceptsRegex
    rw [Regex.compile_ends]
    exact ⟨_, rfl⟩
  cases m with
  | star => exact ⟨_, rfl⟩
  | colon => exact hends
  | brace => exact hends
  | exact => exact ⟨_, rfl⟩

theorem InStep.enforce_error_iff [SizeLimit] {e : PolicyEngine} (h : e.InStep)
    {role action path : String} {f : Fault} : e.enforce role action path = .error f ↔
      role ≠ e.superadminText ∧ ∃ pre r post, e.rules = pre ++ r :: post ∧
        (∀ q ∈ pre, q.Passes e.matcher role action path) ∧
        r.Breaks e.matcher role action path f := by
  rw [← anyCovers_error_iff h.usable, h.enforce_eq]
  by_cases hrole : role = e.superadminText
  · simp [hrole]
  · rw [if_neg (by simpa using hrole)]
    split
    · rename_i hempty
      obtain ⟨allowed, hallowed⟩ := accepts_empty e.matcher path
      rw [List.isEmpty_iff.mp hempty, hallowed, List.map_nil, Enforcer.anyCovers]
      split <;> simp
    · simp [hrole]

/-- The engine decides where paths are compared as a whole, where they are cut at a star and the
request is in ASCII, and where colons stand for segments and no rule has one. -/
theorem InStep.decides [SizeLimit] {e : PolicyEngine} (h : e.InStep) {role action path : String}
    (hsafe : e.matcher = .exact ∨ (e.matcher = .star ∧ ∀ c ∈ path.toList, c.toNat < 128) ∨
      (e.matcher = .colon ∧ ∀ r ∈ e.rules, ':' ∉ r.path.toList)) :
    ∃ allowed, e.enforce role action path = .ok allowed := by
  cases henforce : e.enforce role action path with
  | ok allowed => exact ⟨allowed, rfl⟩
  | error f =>
    obtain ⟨-, pre, r, post, hrules, -, -, -, hpath⟩ := h.enforce_error_iff.mp henforce
    have hr : r ∈ e.rules := by
      rw [hrules]
      exact List.mem_append_right pre List.mem_cons_self
    generalize e.matcher = m at hsafe hpath
    rcases hsafe with rfl | ⟨rfl, hascii⟩ | ⟨rfl, hno⟩
    · cases hpath
    · exact absurd hpath (PathMatcher.not_breaks_of_ascii hascii f)
    · cases hpath with
      | colon hcolon => exact absurd hcolon (hno r hr)

/-- After any run, the engine breaks off exactly for a request that reaches a rule
whose path cannot be compared with the path of the request. It always decides where
paths are compared as a whole, where they are cut at a star and the request is in
ASCII, and where colons stand for segments and no rule has one. -/
theorem breaks_off_iff [SizeLimit] (name : String) (m : PathMatcher) {start : PolicyEngine}
    (hnew : PolicyEngine.new name m = .ok start) (calls : List EngineCall)
    (role action path : String) :
    (∀ f, (start.run calls).enforce role action path = .error f ↔
      role ≠ start.superadminText ∧ ∃ pre r post, (start.run calls).rules = pre ++ r :: post ∧
        (∀ q ∈ pre, q.Passes m role action path) ∧ r.Breaks m role action path f) ∧
    (m = .exact ∨ (m = .star ∧ ∀ c ∈ path.toList, c.toNat < 128) ∨
        (m = .colon ∧ ∀ r ∈ (start.run calls).rules, ':' ∉ r.path.toList) →
      ∃ allowed, (start.run calls).enforce role action path = .ok allowed) := by
  obtain ⟨s, -, rfl⟩ := of_new hnew
  have hinstep := (bare_inStep s m).run calls
  have hbreaks (f : Fault) : ((bare s m).run calls).enforce role action path = .error f ↔ _ :=
    hinstep.enforce_error_iff
  obtain ⟨hsuper, hmatcher⟩ := (bare s m).run_fixed calls
  rw [superadminText, hsuper, hmatcher] at hbreaks
  refine ⟨hbreaks, fun hsafe => hinstep.decides ?_⟩
  rw [hmatcher]
  exact hsafe

/-- A path without placeholders is decided, and one whose placeholder takes a closing
parenthesis with it is not. -/
theorem placeholder_breaks_off :
    ∃ start, PolicyEngine.new "superadmin" .colon = .ok start ∧
      (∃ allowed, (start.run [.replace [⟨"member", "http:GET", "/files"⟩]]).enforce
        "member" "http:GET" "/files" = .ok allowed) ∧
      (start.run [.replace [⟨"member", "http:GET", "/(:id)"⟩]]).enforce
        "member" "http:GET" "/1" = .error .patternUnusable ∧
      ∃ pre r post, (start.run [.replace [⟨"member", "http:GET", "/(:id)"⟩]]).rules =
          pre ++ r :: post ∧ (∀ q ∈ pre, q.Passes .colon "member" "http:GET" "/1") ∧
        r.Breaks .colon "member" "http:GET" "/1" .patternUnusable := by
  have hnew : PolicyEngine.new "superadmin" .colon = .ok (.bare Sample.superadmin .colon) :=
    new_role Sample.superadmin .colon
  have hbreaks : (run (.bare Sample.superadmin .colon)
      [.replace [⟨"member", "http:GET", "/(:id)"⟩]]).enforce "member" "http:GET" "/1" =
        .error .patternUnusable := by decide +kernel
  have hrules : (run (.bare Sample.superadmin .colon)
      [.replace [⟨"member", "http:GET", "/files"⟩]]).rules =
        [⟨"member", "http:GET", "/files"⟩] := by decide +kernel
  refine ⟨_, hnew, ?_, hbreaks, (((breaks_off_iff _ _ hnew _ _ _ _).1 _).mp hbreaks).2⟩
  exact (breaks_off_iff _ _ hnew _ _ _ _).2 (.inr (.inr ⟨rfl, by simp [hrules]⟩))

/-- Under each of the ways that know wildcards, a rule is accepted and then breaks off:
a cut inside a character, and a placeholder in parentheses or next to them. -/
theorem accepted_rules_break_off :
    ((PolicyEngine.bare Sample.superadmin .star).replace
        [⟨"member", "http:GET", "/a*"⟩]).map (fun (n, e) =>
          (n, e.enforce "member" "http:GET" "/é")) = .ok (1, .error .characterCut) ∧
    ((PolicyEngine.bare Sample.superadmin .colon).replace
        [⟨"member", "http:GET", "/(:id)"⟩]).map (fun (n, e) =>
          (n, e.enforce "member" "http:GET" "/1")) = .ok (1, .error .patternUnusable) ∧
    ((PolicyEngine.bare Sample.superadmin .brace).replace
        [⟨"member", "http:GET", "/("⟩]).map (fun (n, e) =>
          (n, e.enforce "member" "http:GET" "/1")) = .ok (1, .error .patternUnusable) := by
  decide +kernel

end PolicyEngine

end Turnstile
