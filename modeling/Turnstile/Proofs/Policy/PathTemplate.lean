import Mathlib.Data.List.Forall2
import Turnstile.Proofs.Policy.Plain
import Turnstile.Proofs.Policy.RuleList

/-!
Paths made of fixed and named segments, with or without the rest of the path left open. A named
segment stands for any segment that is not empty, and a fixed one for itself. The check of such
a rule reads its path before the names are filled in, and a request after that, so both have to stay
small enough.
-/

namespace Turnstile

/-! ### Paths as lists of parts -/

namespace PathMatcher

variable {part cs first : List Char} {parts more : List (List Char)}

theorem segments_append (hpart : '/' ∉ part) (h : segments cs = first :: more) :
    segments (part ++ cs) = (part ++ first) :: more := by
  induction part with
  | nil => exact h
  | cons c part ih =>
    obtain ⟨hc, hpart⟩ := not_or.mp (mt List.mem_cons.mpr hpart)
    rw [List.cons_append, segments, if_neg (Ne.symm hc), ih hpart]
    rfl

/-- Parts that are put behind slashes are found again. -/
theorem segments_flatMap (h : ∀ p ∈ parts, '/' ∉ p) :
    segments (parts.flatMap ('/' :: ·)) = [] :: parts := by
  induction parts with
  | nil => rfl
  | cons p parts ih =>
    obtain ⟨hp, hparts⟩ := List.forall_mem_cons.mp h
    rw [List.flatMap_cons, List.cons_append, segments, if_pos rfl,
      segments_append hp (ih hparts), List.append_nil]

theorem joinSegments_cons (s : List Char) (parts : List (List Char)) :
    joinSegments (s :: parts) = s ++ parts.flatMap ('/' :: ·) := by
  induction parts generalizing s with
  | nil => exact (List.append_nil s).symm
  | cons p parts ih =>
    rw [joinSegments, ih, List.flatMap_cons, List.cons_append]
    exact nofun

theorem dotStars_flatMap (h : ∀ p ∈ parts, '/' ∉ p) :
    dotStars (parts.flatMap ('/' :: ·)) = (parts.map dotStar).flatMap ('/' :: ·) := by
  rw [dotStars, segments_flatMap h]
  exact joinSegments_cons [] (parts.map dotStar)

/-- Every part is changed by itself. -/
theorem regexText_flatMap {fill : List Char → List Char} (hfill : fill [] = [])
    (h : ∀ p ∈ parts, '/' ∉ p) : regexText fill (parts.flatMap ('/' :: ·)) =
      '^' :: ((parts.map fun p => fill (dotStar p)).flatMap ('/' :: ·) ++ ['$']) := by
  have hdots : ∀ p ∈ parts.map dotStar, '/' ∉ p := by
    intro p hp
    obtain ⟨old, hold, rfl⟩ := List.mem_map.mp hp
    intro hslash
    rcases of_mem_dotStar hslash with heq | hslash
    · cases heq
    · exact h old hold hslash
  rw [regexText, dotStars_flatMap h, segments_flatMap hdots, List.map_cons, hfill,
    joinSegments_cons, List.map_map]
  rfl

end PathMatcher

/-! ### Templates -/

/-- A segment of a path as a rule writes it: a fixed text, or a name for any text. -/
inductive TemplateSegment where
  | fixed (text : List Char)
  | named (name : List Char)
  deriving DecidableEq, Repr

namespace TemplateSegment

/-- How the segment is written. -/
def text : TemplateSegment → List Char
  | .fixed text => text
  | .named name => ':' :: name

/-- There is something written, of ASCII letters, digits and the two signs in names. -/
def IsWritten : TemplateSegment → Prop
  | .fixed text => text ≠ [] ∧ ∀ c ∈ text, c.isAlphanum = true ∨ c = '-' ∨ c = '_'
  | .named name => name ≠ [] ∧ ∀ c ∈ name, c.isAlphanum = true ∨ c = '_'

/-- A fixed segment admits itself, a named one any part of a path that is not empty. -/
def Admits : TemplateSegment → List Char → Prop
  | .fixed text, part => part = text
  | .named _, part => part ≠ [] ∧ '/' ∉ part

/-- The expression for the segment. -/
def filled : TemplateSegment → List Char
  | .fixed text => text
  | .named _ => PathMatcher.anySegment

variable {s : TemplateSegment} {c : Char}

theorem IsWritten.isPlain_or (h : s.IsWritten) (hc : c ∈ s.text) :
    PathMatcher.IsPlain c ∧ c ≠ '/' ∨ c = ':' := by
  have hsign {c : Char} (h : c.isAlphanum = true ∨ c = '-' ∨ c = '_') :
      PathMatcher.IsPlain c ∧ c ≠ '/' := by
    refine ⟨h.imp_right .inr, ?_⟩
    rintro rfl
    exact absurd h (by decide)
  cases s with
  | fixed text => exact .inl (hsign (h.2 c hc))
  | named name =>
    rcases List.mem_cons.mp hc with rfl | hc
    · exact .inr rfl
    · exact .inl (hsign ((h.2 c hc).imp_right .inr))

/-- No character of a segment has a meaning in patterns, and none is a slash. -/
theorem IsWritten.bounds (h : s.IsWritten) (hc : c ∈ s.text) :
    Pattern.IsOrdinary c ∧ c ≠ '/' := by
  rcases h.isPlain_or hc with ⟨hplain, hslash⟩ | rfl
  · exact ⟨hplain.isOrdinary, hslash⟩
  · exact ⟨by decide, by decide⟩

theorem IsWritten.dotStar (h : s.IsWritten) : PathMatcher.dotStar s.text = s.text := by
  unfold PathMatcher.dotStar
  split
  · rename_i htext
    exact absurd (by decide) (h.bounds (htext ▸ List.mem_cons_self)).1
  · rfl

theorem IsWritten.fill (h : s.IsWritten) :
    PathMatcher.fillColon (PathMatcher.dotStar s.text) = s.filled := by
  rw [h.dotStar]
  cases s with
  | fixed text =>
    refine if_neg fun hcolon => ?_
    rcases h.2 ':' (List.contains_iff_mem.mp hcolon) with hcolon | hcolon | hcolon <;>
      exact absurd hcolon (by decide)
  | named name => rfl

/-- The expression for a segment stands for what the segment admits. -/
theorem IsWritten.isRow (h : s.IsWritten) : Pattern.IsRow s.filled s.Admits := by
  cases s with
  | fixed text => exact .literals fun c hc => (h.bounds hc).1
  | named name => exact .piece .segment

theorem isRow_slash {cs : List Char} {stands : List Char → Prop} (h : Pattern.IsRow cs stands) :
    Pattern.IsRow ('/' :: cs) (fun t => ∃ u, t = '/' :: u ∧ stands u) := by
  have hslash : Pattern.IsRow ['/'] (· = ['/']) :=
    .literals (List.forall_mem_singleton.mpr (by decide))
  refine (hslash.append h).congr fun t => ?_
  constructor
  · rintro ⟨_, u, rfl, rfl, hu⟩
    exact ⟨u, rfl, hu⟩
  · rintro ⟨u, rfl, hu⟩
    exact ⟨['/'], u, rfl, rfl, hu⟩

/-- The expression for a list of segments stands for one part for each of them. -/
theorem isRow_flatMap {segments : List TemplateSegment} (h : ∀ s ∈ segments, s.IsWritten) :
    Pattern.IsRow (segments.flatMap fun s => '/' :: s.filled)
      (fun t => ∃ parts, t = parts.flatMap ('/' :: ·) ∧ List.Forall₂ Admits segments parts) := by
  induction segments with
  | nil => exact Pattern.IsRow.nil.congr fun t => by simp
  | cons s segments ih =>
    obtain ⟨hs, hsegments⟩ := List.forall_mem_cons.mp h
    refine ((isRow_slash hs.isRow).append (ih hsegments)).congr fun t => ?_
    constructor
    · rintro ⟨_, _, rfl, ⟨part, rfl, hpart⟩, parts, rfl, hparts⟩
      exact ⟨part :: parts, rfl, .cons hpart hparts⟩
    · rintro ⟨_, rfl, hadmits⟩
      obtain ⟨part, parts, hpart, hparts, rfl⟩ := List.forall₂_cons_left_iff.mp hadmits
      exact ⟨_, _, rfl, ⟨part, rfl, hpart⟩, parts, rfl, hparts⟩

end TemplateSegment

/-- A path of segments, which may leave open what follows them. -/
structure PathTemplate where
  segments : List TemplateSegment
  openEnd : Bool
  segments_ne : segments ≠ []
  written : ∀ s ∈ segments, s.IsWritten

namespace PathTemplate

open PathMatcher (dotStar dotStars fillColon regexText)

/-- The segments as they are written. -/
def head (t : PathTemplate) : List Char := t.segments.flatMap fun s => '/' :: s.text

/-- How the path is written. -/
def text (t : PathTemplate) : List Char := t.head ++ if t.openEnd then ['/', '*'] else []

/-- The path has one part for each segment, which the segment admits. Nothing is left over, or
after another slash anything. -/
def Admits (t : PathTemplate) (path : List Char) : Prop :=
  ∃ parts tail, path = parts.flatMap ('/' :: ·) ++ tail ∧
    List.Forall₂ TemplateSegment.Admits t.segments parts ∧
    if t.openEnd then ∃ more, tail = '/' :: more else tail = []

variable {t : PathTemplate}

/-- The expression for the segments. -/
def filledHead (t : PathTemplate) : List Char := t.segments.flatMap fun s => '/' :: s.filled

/-- The expression for the open end. -/
def filledTail (t : PathTemplate) : List Char := if t.openEnd then ['/', '.', '*'] else []

theorem text_eq_flatMap (t : PathTemplate) : t.text =
    (t.segments.map (·.text) ++ if t.openEnd then [['*']] else []).flatMap ('/' :: ·) := by
  rw [text, List.flatMap_append, List.flatMap_map]
  cases t.openEnd <;> rfl

theorem not_mem_parts (t : PathTemplate) :
    ∀ p ∈ t.segments.map (·.text) ++ (if t.openEnd then [['*']] else []), '/' ∉ p := by
  intro p hp
  rcases List.mem_append.mp hp with hp | hp
  · obtain ⟨s, hs, rfl⟩ := List.mem_map.mp hp
    exact fun hslash => ((t.written s hs).bounds hslash).2 rfl
  · split at hp
    · rw [List.mem_singleton.mp hp]
      decide
    · cases hp

/-- Only the open end is changed before the check. -/
theorem dotStars_text (t : PathTemplate) : dotStars t.text = t.head ++ t.filledTail := by
  have hkeep : ∀ s ∈ t.segments, dotStar s.text = s.text := fun s hs => (t.written s hs).dotStar
  rw [text_eq_flatMap, PathMatcher.dotStars_flatMap t.not_mem_parts, List.map_append,
    List.flatMap_append, List.map_map, List.flatMap_map, head, filledTail]
  congr 1
  · exact List.flatMap_congr fun s hs => congrArg ('/' :: ·) (hkeep s hs)
  · cases t.openEnd <;> rfl

theorem regexText_text (t : PathTemplate) :
    regexText fillColon t.text = '^' :: (t.filledHead ++ t.filledTail ++ ['$']) := by
  rw [text_eq_flatMap, PathMatcher.regexText_flatMap rfl t.not_mem_parts, List.map_append,
    List.flatMap_append, List.map_map, List.flatMap_map, filledHead, filledTail]
  congr 3
  · exact List.flatMap_congr fun s hs => congrArg ('/' :: ·) (t.written s hs).fill
  · cases t.openEnd <;> rfl

theorem isRow_filledTail (t : PathTemplate) : Pattern.IsRow t.filledTail fun tail =>
    if t.openEnd then ∃ more, tail = '/' :: more ∧ '\n' ∉ more else tail = [] := by
  unfold filledTail
  cases t.openEnd with
  | false => exact .nil
  | true => exact TemplateSegment.isRow_slash (.piece .anything)

/-- The check of a rule with the path passes if what is written is small enough. -/
theorem compile_written [SizeLimit] (t : PathTemplate) :
    (∃ r, Regex.compile ('^' :: (dotStars t.text ++ ['$'])) = .ok r) ↔
      SizeLimit.fits ('^' :: (dotStars t.text ++ ['$'])) = true := by
  have hbounds : ∀ c ∈ t.head, Pattern.IsOrdinary c := by
    intro c hc
    obtain ⟨s, hs, hc⟩ := List.mem_flatMap.mp hc
    rcases List.mem_cons.mp hc with rfl | hc
    · decide
    · exact ((t.written s hs).bounds hc).1
  rw [dotStars_text]
  constructor
  · rintro ⟨r, hr⟩
    obtain ⟨p, -, -, hfits⟩ := Regex.of_compile hr
    exact hfits
  · exact ((Pattern.IsRow.literals hbounds).append t.isRow_filledTail).compile_of_fits

/-- A request on one line is compared with what the template admits, as far as the expression for
the template is small enough. -/
theorem accepts_text [SizeLimit] {pattern path : String} (hpattern : pattern.toList = t.text)
    (hfits : SizeLimit.fits (regexText fillColon t.text) = true) (hline : '\n' ∉ path.toList) :
    ∃ allowed, PathMatcher.colon.accepts pattern path = .ok allowed ∧
      (allowed = true ↔ t.Admits path.toList) := by
  have hrow := (TemplateSegment.isRow_flatMap t.written).append t.isRow_filledTail
  have htail {v : List Char} (hv : '\n' ∉ v) :
      (if t.openEnd then ∃ more, v = '/' :: more ∧ '\n' ∉ more else v = []) ↔
        if t.openEnd then ∃ more, v = '/' :: more else v = [] := by
    cases t.openEnd with
    | false => exact Iff.rfl
    | true =>
      refine exists_congr fun more => and_iff_left_of_imp ?_
      rintro rfl hmem
      exact hv (List.mem_cons_of_mem _ hmem)
  have hstands : (∃ u v, path.toList = u ++ v ∧ (∃ parts, u = parts.flatMap ('/' :: ·) ∧
      List.Forall₂ TemplateSegment.Admits t.segments parts) ∧
      if t.openEnd then ∃ more, v = '/' :: more ∧ '\n' ∉ more else v = []) ↔
      t.Admits path.toList := by
    have hline' {u v : List Char} (h : path.toList = u ++ v) : '\n' ∉ v :=
      fun hmem => hline (h ▸ List.mem_append_right u hmem)
    constructor
    · rintro ⟨_, v, h, ⟨parts, rfl, hparts⟩, hv⟩
      exact ⟨parts, v, h, hparts, (htail (hline' h)).mp hv⟩
    · rintro ⟨parts, v, h, hparts, hv⟩
      exact ⟨_, v, h, ⟨parts, rfl, hparts⟩, (htail (hline' h)).mpr hv⟩
  have haccepts : PathMatcher.colon.accepts pattern path =
      PathMatcher.acceptsRegex (regexText fillColon t.text) path.toList := by
    rw [← hpattern]
    rfl
  rw [regexText_text] at hfits
  rw [haccepts, regexText_text, filledHead]
  unfold PathMatcher.acceptsRegex
  obtain ⟨r, hr⟩ := hrow.compile_of_fits hfits
  have hmatch := (hrow.isMatch_iff hr path.toList).trans hstands
  rw [hr]
  exact ⟨_, rfl, hmatch⟩

/-! ### Two templates -/

/-- What belongs to a user. -/
def ofUser : PathTemplate where
  segments := [.fixed "users".toList, .named "id".toList]
  openEnd := true
  segments_ne := List.cons_ne_nil _ _
  written := by simp [TemplateSegment.IsWritten]

/-- A path of names alone. -/
def names (n : Nat) : PathTemplate where
  segments := List.replicate (n + 1) (.named ['a'])
  openEnd := false
  segments_ne := List.cons_ne_nil _ _
  written := by
    intro s hs
    rw [List.eq_of_mem_replicate hs]
    exact ⟨nofun, List.forall_mem_singleton.mpr (by decide)⟩

theorem dotStars_names (n : Nat) :
    dotStars (names n).text = (List.replicate (n + 1) ['/', ':', 'a']).flatten := by
  rw [dotStars_text, head, names, List.flatMap_replicate]
  exact List.append_nil _

theorem regexText_names (n : Nat) : regexText fillColon (names n).text =
    '^' :: ((List.replicate (n + 1) "/[^/]+".toList).flatten ++ ['$']) := by
  rw [regexText_text, filledHead, names, List.flatMap_replicate]
  exact congrArg (fun cs => '^' :: (cs ++ ['$'])) (List.append_nil _)

/-- By the estimate a path of so many names is small enough as it is written, but not filled in. -/
theorem estimated_fits_names :
    SizeLimit.estimated.fits ('^' :: (dotStars (names 22999).text ++ ['$'])) = true := by
  rw [dotStars_names]
  exact (Pattern.estimated_fits_replicate 23000 [.literal '/' (by decide),
    .literal ':' (by decide), .literal 'a' (by decide)]).mpr (by decide +kernel)

theorem not_estimated_fits_filled_names :
    ¬ SizeLimit.estimated.fits (regexText fillColon (names 22999).text) = true := by
  rw [regexText_names]
  intro hfits
  have hbytes := ((Pattern.estimated_fits_replicate 23000
    [.literal '/' (by decide), .segment]).mp hfits).1
  have hslash : (Pattern.Piece.literal '/' (by decide)).regex.byteSize
      CharClass.forwardSize = 32 := by decide +kernel
  have hsegment : Pattern.Piece.segment.regex.byteSize CharClass.forwardSize = 464 := by decide +kernel
  simp only [List.map_cons, List.map_nil, List.sum_cons, List.sum_nil, hslash, hsegment] at hbytes
  exact absurd hbytes (by decide)

theorem admits_names (n : Nat) :
    (names n).Admits ((List.replicate (n + 1) ['a']).flatMap ('/' :: ·)) := by
  refine ⟨List.replicate (n + 1) ['a'], [], (List.append_nil _).symm, ?_, rfl⟩
  change List.Forall₂ TemplateSegment.Admits (List.replicate (n + 1) (.named ['a'])) _
  generalize n + 1 = k
  induction k with
  | zero => exact .nil
  | succ k ih => exact .cons ⟨nofun, by decide⟩ ih

end PathTemplate

namespace PolicyEngine

/-- A rule whose path is a template is accepted if its action can be used and what is written is
small enough. Where it is the only one, and what is filled in is small enough as well, it decides
every request for its role and its actions whose path is on one line, by whether the template admits
that path. -/
theorem template_decides [SizeLimit] {start : PolicyEngine} (hmatcher : start.matcher = .colon)
    {rule : Rule} {t : PathTemplate} (hpath : rule.path.toList = t.text) :
    ((∃ n e, start.replace [rule] = .ok (n, e)) ↔
      (∃ a, Regex.compile rule.actionText = .ok a) ∧ SizeLimit.fits rule.pathText = true) ∧
    ∀ n e, start.replace [rule] = .ok (n, e) → rule.role ≠ start.superadminText →
      SizeLimit.fits (PathMatcher.regexText PathMatcher.fillColon rule.path.toList) = true →
      ∀ action path : String, Regex.Finds rule.actionText action.toList → '\n' ∉ path.toList →
        ∃ allowed, e.enforce rule.role action path = .ok allowed ∧
          (allowed = true ↔ t.Admits path.toList) := by
  have husable : rule.Usable start.matcher ↔
      (∃ a, Regex.compile rule.actionText = .ok a) ∧ SizeLimit.fits rule.pathText = true := by
    rw [Rule.Usable, Rule.pathText, hpath, t.compile_written, hmatcher]
    simp
  constructor
  · rw [← husable]
    constructor
    · rintro ⟨n, e, hreplace⟩
      exact (of_replace hreplace).1 rule (List.mem_singleton_self rule)
    · intro h
      have hreplace := replace_single h
      exact ⟨_, _, hreplace⟩
  · intro n e hreplace hrole hfits action path haction hline
    rw [hpath] at hfits
    rw [enforce_of_single hreplace hrole haction, hmatcher]
    exact PathTemplate.accepts_text hpath hfits hline

/-- A rule for what belongs to a user lets a member have one of the user's files. -/
theorem user_file_admitted :
    ∃ n e, (PolicyEngine.bare Sample.superadmin .colon).replace
        [⟨"member", "http:GET", "/users/:id/*"⟩] = .ok (n, e) ∧
      PathTemplate.ofUser.Admits "/users/7/files/1".toList ∧
      e.enforce "member" "http:GET" "/users/7/files/1" = .ok true := by
  have hmatcher : (PolicyEngine.bare Sample.superadmin .colon).matcher = .colon := rfl
  have hpath : (Rule.mk "member" "http:GET" "/users/:id/*").path.toList =
      PathTemplate.ofUser.text := by decide
  have haction : Regex.Finds (Rule.mk "member" "http:GET" "/users/:id/*").actionText
      "http:GET".toList := by decide +kernel
  have hadmits : PathTemplate.ofUser.Admits "/users/7/files/1".toList :=
    ⟨["users".toList, "7".toList], "/files/1".toList, rfl,
      .cons rfl (.cons (by unfold TemplateSegment.Admits; decide) .nil), "files/1".toList, rfl⟩
  obtain ⟨haccepted, hdecides⟩ := template_decides hmatcher hpath
  obtain ⟨n, e, hreplace⟩ := haccepted.mpr ⟨haction.imp fun _ => And.left, by decide +kernel⟩
  obtain ⟨allowed, henforce, hallowed⟩ := hdecides n e hreplace (by decide) (by decide +kernel)
    "http:GET" "/users/7/files/1" haction (by decide)
  refine ⟨n, e, hreplace, hadmits, ?_⟩
  rw [← hallowed.mpr hadmits]
  exact henforce

/-- The superadmin is let in where the template of the rule does not admit the path. And a path of
23000 names is accepted, but filled in it is too large, so the engine comes to no decision for a path
that the template admits. -/
theorem template_set_aside :
    (∃ n e, (PolicyEngine.bare Sample.superadmin .colon).replace
        [⟨"superadmin", "http:GET", "/users/:id/*"⟩] = .ok (n, e) ∧
      ¬ PathTemplate.ofUser.Admits "/roles".toList ∧
      e.enforce "superadmin" "http:GET" "/roles" = .ok true) ∧
    ∃ n e, (PolicyEngine.bare Sample.superadmin .colon).replace
        [⟨"member", "http:GET", String.ofList (PathTemplate.names 22999).text⟩] = .ok (n, e) ∧
      ∃ path : String, '\n' ∉ path.toList ∧ (PathTemplate.names 22999).Admits path.toList ∧
        e.enforce "member" "http:GET" path = .error .patternUnusable := by
  constructor
  · have husable : (Rule.mk "superadmin" "http:GET" "/users/:id/*").Usable .colon :=
      Rule.check_eq_ok_iff.mp (by decide +kernel)
    have hreplace := replace_single (e := .bare Sample.superadmin .colon) husable
    refine ⟨_, _, hreplace, ?_, by decide +kernel⟩
    rintro ⟨parts, tail, hpath, hadmits, -⟩
    obtain ⟨part, more, rfl, -, rfl⟩ := List.forall₂_cons_left_iff.mp hadmits
    cases hpath
  · generalize hrule : Rule.mk "member" "http:GET"
      (String.ofList (PathTemplate.names 22999).text) = rule
    have hpath : rule.path.toList = (PathTemplate.names 22999).text := by
      rw [← hrule, String.toList_ofList]
    have haction : Regex.Finds rule.actionText "http:GET".toList := by
      rw [← hrule]
      decide +kernel
    have husable : rule.Usable .colon := by
      obtain ⟨a, ha, -⟩ := haction
      refine ⟨⟨a, ha⟩, fun _ => ?_⟩
      rw [Rule.pathText, hpath, PathTemplate.compile_written]
      exact PathTemplate.estimated_fits_names
    have hreplace := replace_single (e := .bare Sample.superadmin .colon) husable
    generalize hasked : String.ofList ((List.replicate 23000 ['a']).flatMap ('/' :: ·)) = path
    have hasked' : path.toList = (List.replicate 23000 ['a']).flatMap ('/' :: ·) := by
      rw [← hasked, String.toList_ofList]
    refine ⟨_, _, hreplace, path, ?_, ?_, ?_⟩
    · rw [hasked']
      intro hmem
      obtain ⟨part, hpart, hmem⟩ := List.mem_flatMap.mp hmem
      rw [List.eq_of_mem_replicate hpart] at hmem
      exact absurd hmem (by decide)
    · rw [hasked']
      exact PathTemplate.admits_names 22999
    · have hrole : rule.role = "member" := by rw [← hrule]
      rw [← hrole, enforce_of_single hreplace (by rw [hrole]; decide) haction]
      refine PathMatcher.acceptsRegex_error_iff.mpr
        ⟨rfl, fun r hr => PathTemplate.not_estimated_fits_filled_names ?_⟩
      rw [hpath] at hr
      obtain ⟨-, -, -, hfits⟩ := Regex.of_compile hr
      exact hfits

end PolicyEngine

end Turnstile
