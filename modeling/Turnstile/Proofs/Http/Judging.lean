import Turnstile.Proofs.Http.Mediation
import Turnstile.Proofs.Entitlement

/-!
Which request the gate judges. The identifier that is made of a method and a path is divided at
its first bar, and methods may hold bars: such a method ends there, and what follows is taken for
the start of the path. All other requests are judged as they are.
-/

namespace Turnstile

/-! ### Methods -/

namespace HttpRequest

/-- Characters of which the names of methods are made. -/
def IsTokenChar (c : Char) : Prop :=
  c.isAlphanum = true ∨ c ∈ ['!', '#', '$', '%', '&', '\x27', '*', '+', '-', '.', '^', '_', '\x60',
    '|', '~']

/-- A name that a method can have. -/
def IsToken (s : String) : Prop := s ≠ "" ∧ ∀ c ∈ s.toList, IsTokenChar c

end HttpRequest

/-! ### What is read of an identifier -/

namespace ElementId

/-- The method up to its first bar, and all that follows as the path. -/
def atFirstBar (e : ElementId) : ElementId :=
  ⟨String.ofList (e.method.toList.takeWhile fun c => decide (c ≠ '|')),
    String.ofList ((e.method.toList.dropWhile fun c => decide (c ≠ '|')).drop 1) ++ "|" ++ e.path⟩

/-- What is read where the text of an identifier stands. -/
def reading (e : ElementId) : Except ServiceError ElementId :=
  if '|' ∉ e.method.toList then .ok e
  else if e.atFirstBar.method = "" then .error (.invalidElementId e.text)
  else .ok e.atFirstBar

variable {e : ElementId}

theorem bar_notMem_atFirstBar (e : ElementId) : '|' ∉ e.atFirstBar.method.toList := by
  intro hmem
  rw [atFirstBar, String.toList_ofList] at hmem
  simpa using List.mem_takeWhile_imp hmem

theorem atFirstBar_path_ne_empty (e : ElementId) : e.atFirstBar.path ≠ "" := by
  intro h
  have hchars := congrArg String.toList h
  simp [atFirstBar, String.toList_append] at hchars

/-- Dividing a method at a bar of its own does not show in the text. -/
theorem text_atFirstBar (h : '|' ∈ e.method.toList) : e.atFirstBar.text = e.text := by
  have hall := List.takeWhile_append_dropWhile
    (p := fun c => decide (c ≠ '|')) (l := e.method.toList)
  cases hrest : e.method.toList.dropWhile (fun c => decide (c ≠ '|')) with
  | nil =>
    have hnone := List.dropWhile_eq_nil_iff.mp hrest '|' h
    simp at hnone
  | cons c rest =>
    rw [hrest, bar_of_dropWhile hrest] at hall
    rw [← String.toList_inj]
    simp only [text, atFirstBar, hrest, String.toList_append, String.toList_ofList]
    conv_rhs => rw [← hall]
    simp

theorem not_divides_of_atFirstBar (h : '|' ∈ e.method.toList) (hempty : e.atFirstBar.method = "")
    (other : ElementId) : ¬ other.Divides e.text := by
  rintro ⟨htext, hbar, hmethod, -⟩
  -- The text starts with its first bar, so there is nothing before it.
  rw [← text_atFirstBar h] at htext
  have hchars := congrArg String.toList htext
  simp only [text, hempty, String.toList_append] at hchars
  cases hother : other.method.toList with
  | nil => exact hmethod (String.toList_eq_nil_iff.mp hother)
  | cons c rest =>
    rw [hother] at hchars hbar
    obtain ⟨hc, -⟩ := List.cons.inj hchars
    exact hbar (hc ▸ List.mem_cons_self)

/-- An identifier with both parts is read as it is exactly if its method has no bar. -/
theorem ofText_text (hmethod : e.method ≠ "") (hpath : e.path ≠ "") :
    ofText e.text = e.reading := by
  unfold reading
  split
  · exact ofText_of_divides ⟨rfl, ‹_›, hmethod, hpath⟩
  · have hbar : '|' ∈ e.method.toList := not_not.mp ‹_›
    split
    · exact ofText_of_not_divides (not_divides_of_atFirstBar hbar ‹_›)
    · exact ofText_of_divides ⟨(text_atFirstBar hbar).symm, bar_notMem_atFirstBar e, ‹_›,
        atFirstBar_path_ne_empty e⟩

theorem reading_eq_ok_iff : e.reading = .ok e ↔ '|' ∉ e.method.toList := by
  constructor
  · intro h
    unfold reading at h
    split at h
    · assumption
    · split at h
      · cases h
      · rw [← Except.ok.inj h]
        exact bar_notMem_atFirstBar e
  · exact fun h => if_pos h

end ElementId

/-! ### What the gate makes of it -/

namespace Gate

/-- The answer to a user who is present, after the text of the identifier was read. -/
def judged [SizeLimit] (m : MemoryService) (w : World MemoryState) (claims : TokenClaims)
    (userId : Int) (elementId : String) :
    Except ServiceError ElementId → Except Failure (Except Response Int)
  | .error e => .ok (.error e.toApi.response)
  | .ok element =>
    match decision m w claims element with
    | .ok true => .ok (.ok userId)
    | .ok false => .ok (.error (ServiceError.accessDenied userId elementId).toApi.response)
    | .error f => .error (.fault f)

end Gate

/-- Who is present is judged by what is read of method and path. That is the request that was
made exactly if its method has no bar; a method that starts with a bar is refused for it, and any
other is cut at its first bar. Whatever text is read as an identifier is the text of it. -/
theorem request_judged [SizeLimit] (m : MemoryService) (w : World MemoryState) {r : HttpRequest}
    (hmethod : r.method ≠ "") (hpath : r.path ≠ "") :
    let asked : ElementId := ⟨r.method, r.path⟩
    ElementId.ofText asked.text = asked.reading ∧
      (asked.reading = .ok asked ↔ '|' ∉ r.method.toList) ∧
      (∀ bearer claims userId, r.bearer = .ok bearer → Gate.Present m w bearer claims userId →
        (m.app.gate r).runOn w = (Gate.judged m w claims userId asked.text asked.reading, w)) ∧
      ∀ text element, ElementId.ofText text = .ok element → element.text = text := by
  intro asked
  have hread : ElementId.ofText asked.text = asked.reading :=
    ElementId.ofText_text hmethod hpath
  refine ⟨hread, ElementId.reading_eq_ok_iff, fun bearer claims userId hbearer hpresent => ?_,
    fun text element h => (ElementId.divides_of_ofText h).1.symm⟩
  have hgate := MemoryService.runOn_gate_of_bearer (m := m) (w := w) hbearer w.drawn r.body
  rw [Gate.runOn_authorize_of_present hpresent, hread] at hgate
  refine hgate.trans ?_
  cases asked.reading with
  | error e => rfl
  | ok element =>
    unfold Gate.judged
    dsimp only
    cases Gate.decision m w claims element with
    | error f => rfl
    | ok allowed => cases allowed <;> rfl

/-! ### A member and a method of an unusual name -/

namespace Sample

/-- Ann is registered as a member, and members may see their own account, with two methods. -/
def memberSelf : List Operation :=
  [.admin (.addResource ⟨"", "", .http, "GET", "/user/me"⟩),
    .admin (.addResource ⟨"", "", .http, "A\\|B", "/user/me"⟩),
    .admin (.addPermission ⟨"self", "", [1, 2]⟩), .admin (.addRole ⟨"member", "", [3]⟩),
    .register ann]

/-- What the access token of the login says. -/
def memberClaims : TokenClaims := ⟨"1", "1", "member", "turnstile", 60, 60, 960, .access⟩

/-- A request for the own account, with a token. -/
def selfRequest (method token : String) : HttpRequest :=
  ⟨method, "/user/me", [("authorization", "Bearer " ++ token)], "", none⟩

theorem selfRequest_path (method token : String) : (selfRequest method token).path = "/user/me" := by
  have hchars : "/user/me".toList.takeWhile (fun c => c ≠ '?' && c ≠ '#') = "/user/me".toList := by
    decide +kernel
  unfold HttpRequest.path selfRequest
  dsimp only
  rw [hchars, String.ofList_toList]

/-- Tokens can be sent in a header. -/
theorem isPlainChar_of_issue {i : TokenIssuer} {issued : Instant} {kind : TokenKind}
    {sessionId role token : String} {userId : Int}
    (h : i.issue issued kind sessionId userId role = .ok token) :
    ∀ c ∈ ("Bearer " ++ token).toList, HttpRequest.isPlainChar c = true := by
  have hdigits : ∀ n < 64, HttpRequest.isPlainChar (Base64.urlSafe.digit n) = true := by
    decide +kernel
  have hword : ∀ c ∈ "Bearer ".toList, HttpRequest.isPlainChar c = true :=
    List.all_eq_true.mp (by decide +kernel)
  rw [String.toList_append]
  intro c hc
  rcases List.mem_append.mp hc with hc | hc
  · exact hword c hc
  · rcases CompactToken.char_of_make (TokenIssuer.of_issue h).2 c hc with rfl | ⟨n, hn, rfl⟩
    · decide
    · exact hdigits n hn

theorem bearer_selfRequest {method token : String}
    (hplain : ∀ c ∈ ("Bearer " ++ token).toList, HttpRequest.isPlainChar c = true) :
    (selfRequest method token).bearer = .ok ("Bearer " ++ token) := by
  have hheader : (selfRequest method token).plainHeader? "authorization" =
      (some ("Bearer " ++ token)).filter fun value =>
        value.toList.all HttpRequest.isPlainChar := rfl
  rw [Option.filter_some, if_pos (List.all_eq_true.mpr hplain)] at hheader
  rw [HttpRequest.bearer, hheader]

/-- After the login Ann is present. The rules let her use both methods, and no shorter one. -/
theorem present_of_memberSelf :
    ∃ response u, afterLogin service .exact memberSelf = .ok (response, u) ∧
      (∀ method, (selfRequest method response.accessToken).bearer =
        .ok ("Bearer " ++ response.accessToken)) ∧
      Gate.Present service u ("Bearer " ++ response.accessToken) memberClaims 1 ∧
      Gate.decision service u memberClaims ⟨"GET", "/user/me"⟩ = .ok true ∧
      Gate.decision service u memberClaims ⟨"A|B", "/user/me"⟩ = .ok true ∧
      Gate.decision service u memberClaims ⟨"A", "B|/user/me"⟩ = .ok false := by
  obtain ⟨⟨response, u⟩, hafter, hseen⟩ := exists_of_any
    (x := afterLogin service .exact memberSelf)
    (p := fun a => decide (
      a.1.user.id = 1 ∧ a.1.sessionId = "1" ∧ a.2.stores.policies.rolesOf 1 = [member 4] ∧
      Gate.decision service a.2 memberClaims ⟨"GET", "/user/me"⟩ = .ok true ∧
      Gate.decision service a.2 memberClaims ⟨"A|B", "/user/me"⟩ = .ok true ∧
      Gate.decision service a.2 memberClaims ⟨"A", "B|/user/me"⟩ = .ok false))
    (by decide +kernel)
  obtain ⟨huser, hsession, hmember, hrules⟩ := of_decide_eq_true hseen
  have hkeys : service.keys.Paired := fun message => ⟨[], rfl, rfl⟩
  obtain ⟨role, rest, hroles, hissue, hpresent⟩ :=
    present_of_afterLogin hkeys (by decide) hafter huser
  obtain ⟨rfl, -⟩ := List.cons.inj (hroles.symm.trans hmember)
  rw [show response.sessionId = "1" from hsession] at hpresent
  refine ⟨response, u, hafter, fun method => bearer_selfRequest (isPlainChar_of_issue hissue),
    ?_, hrules⟩
  exact hpresent _ (.inr rfl)

/-- A request without a bar in its method is judged as it was made. -/
theorem plain_method_judged :
    ∃ response u, afterLogin service .exact memberSelf = .ok (response, u) ∧
      (service.app.gate (selfRequest "GET" response.accessToken)).runOn u = (.ok (.ok 1), u) := by
  obtain ⟨response, u, hafter, hbearer, hpresent, hget, -, -⟩ := present_of_memberSelf
  obtain ⟨-, hreading, hjudged, -⟩ := request_judged service u
    (r := selfRequest "GET" response.accessToken) (by simp [selfRequest])
    (by simp [selfRequest_path])
  refine ⟨response, u, hafter, ?_⟩
  rw [hjudged _ _ _ (hbearer _) hpresent, hreading.mpr (by simp [selfRequest]), selfRequest_path]
  change (Gate.judged service u memberClaims 1 _ (.ok ⟨"GET", "/user/me"⟩), u) = _
  simp only [Gate.judged, hget]

/-- A method with a bar is cut off at it: what the rules let the caller do with this method and
this path is refused. -/
theorem barred_method_cut_off :
    HttpRequest.IsToken "A|B" ∧
      ElementId.ofText (ElementId.text ⟨"A|B", "/user/me"⟩) = .ok ⟨"A", "B|/user/me"⟩ ∧
      ∃ response u, afterLogin service .exact memberSelf = .ok (response, u) ∧
        Gate.Present service u ("Bearer " ++ response.accessToken) memberClaims 1 ∧
        Gate.decision service u memberClaims ⟨"A|B", "/user/me"⟩ = .ok true ∧
        (service.app.gate (selfRequest "A|B" response.accessToken)).runOn u =
          (.ok (.error (ServiceError.accessDenied 1 "A|B|/user/me").toApi.response), u) := by
  have hread : ElementId.ofText (ElementId.text ⟨"A|B", "/user/me"⟩) = .ok ⟨"A", "B|/user/me"⟩ := by
    decide +kernel
  have htoken : HttpRequest.IsToken "A|B" :=
    ⟨by decide, by simp [HttpRequest.IsTokenChar, Char.isAlphanum]⟩
  obtain ⟨response, u, hafter, hbearer, hpresent, -, hbar, hcut⟩ := present_of_memberSelf
  refine ⟨htoken, hread, response, u, hafter, hpresent, hbar, ?_⟩
  have hgate := MemoryService.runOn_gate_of_bearer (m := service) (w := u) (hbearer "A|B") u.drawn ""
  rw [selfRequest_path, Gate.runOn_authorize_of_present hpresent] at hgate
  refine hgate.trans ?_
  simp only [selfRequest, hread, hcut]
  rfl

end Sample

end Turnstile
