import Turnstile.Proofs.Gate
import Turnstile.Proofs.Http.Serving

/-!
Nothing is done for a request that the gate does not let in. Handlers are a parameter of
serving, so that none of them ran is said by one answer for all of them.
-/

namespace Turnstile

/-! ### Routes without a gate -/

namespace Route

/-- A pattern without parameters takes its own segments only. -/
theorem bindSegments_fixed {texts segments : List String} {params : PathParams}
    (h : bindSegments (texts.map .fixed) segments = some params) : segments = texts := by
  induction texts generalizing segments with
  | nil =>
    cases segments with
    | nil => rfl
    | cons s rest => cases h
  | cons text texts ih =>
    cases segments with
    | nil => cases h
    | cons s rest =>
      rw [List.map_cons, bindSegments] at h
      split at h
      · rename_i hs
        rw [eq_of_beq hs, ih h]
      · cases h

/-- A path is its segments, with slashes between them. -/
theorem of_segments? {path : String} {segments : List String}
    (h : segments? path = some segments) :
    path.toList = '/' :: ['/'].intercalate (segments.map String.toList) := by
  unfold segments? at h
  split at h
  · rename_i rest hpath
    cases h
    rw [hpath, List.map_map]
    congr 1
    have hid : String.toList ∘ String.ofList = id := funext fun _ => String.toList_ofList
    rw [hid, List.map_id, List.intercalate_splitOn]
  · cases h

theorem of_bind?_fixed {route : Route} {texts : List String}
    (hpattern : route.pattern = texts.map .fixed) {path : String} {params : PathParams}
    (h : route.bind? path = some params) :
    path.toList = '/' :: ['/'].intercalate (texts.map String.toList) := by
  obtain ⟨segments, hsegments, hbind⟩ := Option.bind_eq_some_iff.mp h
  rw [hpattern] at hbind
  rw [← bindSegments_fixed hbind]
  exact of_segments? hsegments

/-- What everybody may use is under two paths. -/
theorem of_mem_openRoutes {route : Route} (hroute : route ∈ openRoutes) {path : String}
    {params : PathParams} (h : route.bind? path = some params) :
    path = "/health" ∨ "/auth/".toList <+: path.toList := by
  have hauth (name : String) (hpattern : route.pattern = ["auth", name].map .fixed) :
      "/auth/".toList <+: path.toList := by
    rw [of_bind?_fixed hpattern h]
    exact ⟨name.toList, by simp [List.intercalate]⟩
  rcases List.mem_cons.mp hroute with rfl | hroute
  · refine .inl (String.toList_inj.mp ?_)
    have hpattern : (ofText "/health" false [("GET", .health)]).pattern =
        ["health"].map .fixed := by
      decide +kernel
    rw [of_bind?_fixed hpattern h]
    decide +kernel
  · refine .inr ?_
    rcases List.mem_cons.mp hroute with rfl | hroute
    · exact hauth "login" (by decide +kernel)
    rcases List.mem_cons.mp hroute with rfl | hroute
    · exact hauth "register" (by decide +kernel)
    rcases List.mem_cons.mp hroute with rfl | hroute
    · exact hauth "refresh" (by decide +kernel)
    · obtain rfl := List.mem_singleton.mp hroute
      exact hauth "logout" (by decide +kernel)

theorem gated_of_mem {route : Route} (h : route ∈ gatedRoutes) : route.gated = true := by
  have hall : ∀ route ∈ gatedRoutes, route.gated = true := by decide +kernel
  exact hall route h

/-- Every other path leads to a gate or nowhere. -/
theorem gated_of_find? {path : String} {route : Route} {params : PathParams}
    (h : find? path = some (route, params)) (hhealth : path ≠ "/health")
    (hauth : ¬ "/auth/".toList <+: path.toList) : route.gated = true := by
  obtain ⟨found, hmem, hfound⟩ := List.exists_of_findSome?_eq_some h
  obtain ⟨bound, hbind, heq⟩ := Option.map_eq_some_iff.mp hfound
  cases heq
  rcases List.mem_append.mp hmem with hopen | hgated
  · rcases of_mem_openRoutes hopen hbind with hpath | hpath
    · exact absurd hpath hhealth
    · exact absurd hpath hauth
  · exact gated_of_mem hgated

end Route

/-! ### The gate before a request -/

namespace MemoryService

section

variable [SizeLimit] (m : MemoryService) (w : World MemoryState) (r : HttpRequest)

/-- The request has a header that can be read, and the gate lets the user of its token in
for the method and the path. -/
def Admits (userId : Int) : Prop :=
  ∃ bearer, r.bearer = .ok bearer ∧
    ((m.app.authorize bearer (ElementId.text ⟨r.method, r.path⟩)).runOn w).1 = .ok userId

variable {m w r}

theorem Admits.unique {id₁ id₂ : Int} (h₁ : m.Admits w r id₁) (h₂ : m.Admits w r id₂) :
    id₁ = id₂ := by
  obtain ⟨_, hbearer₁, hok₁⟩ := h₁
  obtain ⟨_, hbearer₂, hok₂⟩ := h₂
  rw [hbearer₁] at hbearer₂
  cases hbearer₂
  exact Except.ok.inj (hok₁.symm.trans hok₂)

/-- The gate goes by the header, the method and the path. -/
theorem runOn_gate_of_bearer {bearer : String} (h : r.bearer = .ok bearer) (drawn : Nat)
    (body : String) :
    (m.app.gate { r with body := body }).runOn { w with drawn := drawn } =
      (match ((m.app.authorize bearer (ElementId.text ⟨r.method, r.path⟩)).runOn w).1 with
        | .ok userId => .ok (.ok userId)
        | .error (.error e) => .ok (.error e.toApi.response)
        | .error (.fault f) => .error (.fault f), { w with drawn := drawn }) := by
  have hbearer : HttpRequest.bearer { r with body := body } = .ok bearer := h
  have hpath : HttpRequest.path { r with body := body } = r.path := rfl
  have hrun : (m.app.authorize bearer (ElementId.text ⟨r.method, r.path⟩)).runOn
      { w with drawn := drawn } = _ := Gate.runOn_authorize_drawn drawn
  unfold App.gate
  rw [hbearer, hpath]
  dsimp only
  rw [Action.runOn_tryCatch, Action.runOn_bind, hrun]
  cases ((m.app.authorize bearer (ElementId.text ⟨r.method, r.path⟩)).runOn w).1 with
  | ok userId => rfl
  | error f => cases f <;> rfl

/-- The gate lets in whom it admits, or has one answer, in either case for every body. -/
theorem runOn_gate (m : MemoryService) (w : World MemoryState) (r : HttpRequest) :
    (∃ userId, m.Admits w r userId ∧ ∀ drawn body,
        (m.app.gate { r with body := body }).runOn { w with drawn := drawn } =
          (.ok (.ok userId), { w with drawn := drawn })) ∨
      (∀ userId, ¬ m.Admits w r userId) ∧ ∃ answer : Except Failure Response, ∀ drawn body,
        (m.app.gate { r with body := body }).runOn { w with drawn := drawn } =
          (answer.map .error, { w with drawn := drawn }) := by
  cases hbearer : r.bearer with
  | error e =>
    refine .inr ⟨?_, .ok e.response, fun drawn body => ?_⟩
    · rintro userId ⟨_, hother, -⟩
      rw [hbearer] at hother
      cases hother
    · have hbody : HttpRequest.bearer { r with body := body } = .error e := hbearer
      unfold App.gate
      rw [hbody]
      rfl
  | ok bearer =>
    have hgate := runOn_gate_of_bearer (m := m) (w := w) hbearer
    cases hanswer : ((m.app.authorize bearer
        (ElementId.text ⟨r.method, r.path⟩)).runOn w).1 with
    | ok userId =>
      rw [hanswer] at hgate
      exact .inl ⟨userId, ⟨bearer, hbearer, hanswer⟩, hgate⟩
    | error f =>
      rw [hanswer] at hgate
      refine .inr ⟨?_, ?_⟩
      · rintro userId ⟨_, hother, hok⟩
        rw [hbearer] at hother
        cases hother
        rw [hanswer] at hok
        cases hok
      · cases f with
        | error e => exact ⟨.ok e.toApi.response, hgate⟩
        | fault f => exact ⟨.error (.fault f), hgate⟩

/-! ### Serving -/

/-- Nothing is done for the request: it has one answer, whatever handlers do and whatever its
body is, and at most an identifier is drawn for it. -/
def Unhandled (m : MemoryService) (w : World MemoryState) (r : HttpRequest) : Prop :=
  ∃ answer drawn, ∀ (handlers : Handlers MemoryState) (body : String),
    (m.app.serveBy handlers { r with body := body }).runOn w = (answer, { w with drawn := drawn })

/-- The handler of an endpoint is all that is done for the request, on behalf of the user. -/
def HandledFor (m : MemoryService) (w : World MemoryState) (r : HttpRequest) (userId : Int) :
    Prop :=
  ∃ route params endpoint drawn, ∃ finish : Response → Response,
    Route.find? r.path = some (route, params) ∧ route.endpoint? r.method = some endpoint ∧
      ∀ handlers : Handlers MemoryState,
        let done := (Action.respond (handlers endpoint params (some userId) r)).runOn
          { w with drawn := drawn }
        (m.app.serveBy handlers r).runOn w = (done.1.map finish, done.2)

/-- Without usable origins no request is answered. -/
theorem unhandled_of_cors (m : MemoryService) (w : World MemoryState) (r : HttpRequest)
    {f : Fault} (hcors : Cors.ofOrigins m.app.settings.security.allowedOrigins = .error f) :
    Unhandled m w r :=
  ⟨.error (.fault f), w.drawn, fun handlers _ => App.runOn_serveBy_of_error hcors handlers _ w⟩

/-- A question beforehand is answered before any route is looked for. -/
theorem unhandled_of_options (w : World MemoryState) {cors : Cors}
    (hcors : Cors.ofOrigins m.app.settings.security.allowedOrigins = .ok cors)
    (hmethod : r.method = "OPTIONS") : Unhandled m w r := by
  refine ⟨.ok { cors.preflight r with
    headers := (cors.preflight r).headers ++ App.allowHeader r }, w.drawn, ?_⟩
  intro handlers body
  have hbody : HttpRequest.method { r with body := body } = "OPTIONS" := hmethod
  exact App.runOn_serveBy_of_options hcors hbody handlers

/-- Behind a gate, who is let in gets what the route answers. -/
theorem runOn_answer_admitted {handlers : Handlers MemoryState} {w' : World MemoryState}
    {route : Route} {params : PathParams} {userId : Int}
    (hfind : Route.find? r.path = some (route, params)) (hgated : route.gated = true)
    (hgate : (m.app.gate r).runOn w = (.ok (.ok userId), w')) :
    (m.app.answer handlers r).runOn w =
      (handlers.atRoute route params (some userId) r).runOn w' := by
  unfold App.answer
  rw [hfind]
  dsimp only
  rw [if_pos hgated, Action.runOn_bind_ok hgate]

/-- Behind a gate, who is not let in gets the answer of the gate. -/
theorem runOn_answer_refused {handlers : Handlers MemoryState} {w' : World MemoryState}
    {route : Route} {params : PathParams} {answer : Except Failure Response}
    (hfind : Route.find? r.path = some (route, params)) (hgated : route.gated = true)
    (hgate : (m.app.gate r).runOn w = (answer.map .error, w')) :
    (m.app.answer handlers r).runOn w = (answer, w') := by
  unfold App.answer
  rw [hfind]
  dsimp only
  rw [if_pos hgated]
  cases answer with
  | ok response => exact Action.runOn_bind_ok hgate
  | error f => exact Action.runOn_bind_error hgate

/-- Behind a gate, a request is handled for the user that is admitted, or not at all. -/
theorem answer_ends (m : MemoryService) (w : World MemoryState) (r : HttpRequest)
    (hgated : ∀ route params, Route.find? r.path = some (route, params) → route.gated = true) :
    (∃ answer : Except Failure Response, ∀ drawn handlers body,
      (m.app.answer handlers { r with body := body }).runOn { w with drawn := drawn } =
        (answer, { w with drawn := drawn })) ∨
    ∃ userId route params endpoint, m.Admits w r userId ∧
      Route.find? r.path = some (route, params) ∧ route.endpoint? r.method = some endpoint ∧
      ∀ drawn handlers, (m.app.answer handlers r).runOn { w with drawn := drawn } =
        (Action.respond (handlers endpoint params (some userId) r)).runOn
          { w with drawn := drawn } := by
  have hpath (body : String) : HttpRequest.path { r with body := body } = r.path := rfl
  cases hfind : Route.find? r.path with
  | none =>
    refine .inl ⟨.ok (.ofStatus 404), fun drawn handlers body => ?_⟩
    unfold App.answer
    rw [hpath, hfind]
    rfl
  | some found =>
    obtain ⟨route, params⟩ := found
    have hgate' := hgated route params hfind
    rcases m.runOn_gate w r with ⟨userId, hadmits, hgate⟩ | ⟨-, answer, hgate⟩
    · cases hendpoint : route.endpoint? r.method with
      | none =>
        refine .inl ⟨.ok (.ofStatus 405), fun drawn handlers body => ?_⟩
        rw [runOn_answer_admitted (hpath body ▸ hfind) hgate' (hgate drawn body),
          Handlers.atRoute, hendpoint]
        rfl
      | some endpoint =>
        refine .inr ⟨userId, route, params, endpoint, hadmits, rfl, hendpoint, ?_⟩
        intro drawn handlers
        rw [runOn_answer_admitted hfind hgate' (hgate drawn r.body), Handlers.atRoute, hendpoint]
    · exact .inl ⟨answer, fun drawn handlers body =>
        runOn_answer_refused (hpath body ▸ hfind) hgate' (hgate drawn body)⟩

/-- Behind a gate, a request is handled for the user that is admitted, or not at all. -/
theorem serveBy_ends (m : MemoryService) (w : World MemoryState) (r : HttpRequest)
    (hgated : ∀ route params, Route.find? r.path = some (route, params) → route.gated = true) :
    Unhandled m w r ∨ ∃ userId, m.Admits w r userId ∧ HandledFor m w r userId := by
  cases hcors : Cors.ofOrigins m.app.settings.security.allowedOrigins with
  | error f => exact .inl (unhandled_of_cors m w r hcors)
  | ok cors =>
    by_cases hmethod : r.method = "OPTIONS"
    · exact .inl (unhandled_of_options w hcors hmethod)
    obtain ⟨drawn, finish, hserve⟩ := App.runOn_serveBy_of_route (w := w) hcors hmethod
    rcases answer_ends m w r hgated with ⟨answer, hanswer⟩ |
      ⟨userId, route, params, endpoint, hadmits, hfind, hendpoint, hanswer⟩
    · refine .inl ⟨answer.map finish, drawn, fun handlers body => ?_⟩
      rw [hserve, hanswer]
    · refine .inr ⟨userId, hadmits, route, params, endpoint, drawn, finish, hfind, hendpoint, ?_⟩
      intro handlers
      dsimp only
      rw [hserve handlers r.body, hanswer]

/-- For a request whose path is neither that of the health check nor one of those for logging
in and out, nothing is done unless the gate lets a user in, and then it is done on behalf of
this user. Until a handler is asked, nothing changes and the body is not looked at. -/
theorem handled_for_admitted (m : MemoryService) (w : World MemoryState) (r : HttpRequest)
    (hhealth : r.path ≠ "/health") (hauth : ¬ "/auth/".toList <+: r.path.toList) :
    ((∀ userId, ¬ m.Admits w r userId) → Unhandled m w r) ∧
      ∀ userId, m.Admits w r userId → Unhandled m w r ∨ HandledFor m w r userId := by
  have hends := serveBy_ends m w r fun _ _ hfind => Route.gated_of_find? hfind hhealth hauth
  constructor
  · intro hnobody
    rcases hends with h | ⟨userId, hadmits, -⟩
    · exact h
    · exact absurd hadmits (hnobody userId)
  · intro userId hadmits
    rcases hends with h | ⟨other, hother, h⟩
    · exact .inl h
    · exact .inr (hadmits.unique hother ▸ h)

end

/-- Without a token nobody hears anything about anybody. -/
theorem tokenless_request_unhandled :
    let r : HttpRequest := ⟨"GET", "/user/me", [], "", none⟩
    r.path ≠ "/health" ∧ ¬ "/auth/".toList <+: r.path.toList ∧
      (∀ userId, ¬ Sample.service.Admits Sample.world r userId) ∧
      Unhandled Sample.service Sample.world r := by
  intro r
  have hhealth : r.path ≠ "/health" := by decide +kernel
  have hauth : ¬ "/auth/".toList <+: r.path.toList := by decide +kernel
  have hnobody : ∀ userId, ¬ Sample.service.Admits Sample.world r userId := by
    rintro userId ⟨bearer, hbearer, -⟩
    cases hbearer
  exact ⟨hhealth, hauth, hnobody,
    (handled_for_admitted Sample.service Sample.world r hhealth hauth).1 hnobody⟩

end MemoryService

end Turnstile
