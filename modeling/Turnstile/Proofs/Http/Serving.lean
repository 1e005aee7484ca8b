import Turnstile.Http.Serve
import Turnstile.Proofs.Action

/-!
How serving a request runs, over any stores and whatever stands behind the routes: not at all without
a list of origins, at once for a question beforehand, and else as the route of the request answers.
None of it looks at the body.
-/

namespace Turnstile.App

variable {σ : Type} {app : App σ} {w : World σ} {r : HttpRequest}

theorem runOn_requestId (app : App σ) (w : World σ) (r : HttpRequest) :
    ∃ id drawn, ∀ body, (app.requestId { r with body := body }).runOn w =
      (.ok id, { w with drawn := drawn }) := by
  have hheader (body : String) :
      HttpRequest.header? { r with body := body } "x-request-id" = r.header? "x-request-id" := rfl
  simp only [requestId, hheader]
  cases r.header? "x-request-id" with
  | some id => exact ⟨id, w.drawn, fun _ => rfl⟩
  | none => exact ⟨app.sessionIdAt w.drawn, w.drawn + 1, fun _ => rfl⟩

variable [SizeLimit]

/-- Without a list of origins nothing is served. -/
theorem runOn_serveBy_of_error {f : Fault}
    (h : Cors.ofOrigins app.settings.security.allowedOrigins = .error f) (handlers : Handlers σ)
    (r : HttpRequest) (w : World σ) :
    (app.serveBy handlers r).runOn w = (.error (.fault f), w) := by
  unfold serveBy
  rw [h]
  exact Action.runOn_bind_error (Action.runOn_throw (.fault f) w)

section Listed

variable {cors : Cors} (hcors : Cors.ofOrigins app.settings.security.allowedOrigins = .ok cors)

include hcors

/-- A question beforehand is answered before any route is looked for. -/
theorem runOn_serveBy_of_options (hmethod : r.method = "OPTIONS") (handlers : Handlers σ) :
    (app.serveBy handlers r).runOn w = (.ok { cors.preflight r with
      headers := (cors.preflight r).headers ++ App.allowHeader r }, w) := by
  unfold serveBy
  rw [hcors]
  dsimp only
  rw [Action.runOn_bind_ok (Action.runOn_pure cors w), if_pos (by simpa using hmethod)]
  rfl

/-- What is not a question beforehand gets an identifier, the answer of its route, and the
headers that belong to it. -/
theorem runOn_serveBy_of_route (hmethod : r.method ≠ "OPTIONS") :
    ∃ drawn, ∃ finish : Response → Response, ∀ (handlers : Handlers σ) (body : String),
      (app.serveBy handlers { r with body := body }).runOn w =
        (((app.answer handlers { r with body := body }).runOn { w with drawn := drawn }).1.map finish,
          ((app.answer handlers { r with body := body }).runOn { w with drawn := drawn }).2) := by
  obtain ⟨id, drawn, hid⟩ := app.runOn_requestId w r
  refine ⟨drawn, fun response => {
    status := response.status
    headers := response.headers ++ [("x-request-id", id)] ++ cors.headers r ++ App.allowHeader r
    body := if r.method == "HEAD" then .empty else response.body }, fun handlers body => ?_⟩
  unfold serveBy
  rw [hcors]
  dsimp only
  rw [Action.runOn_bind_ok (Action.runOn_pure cors w), if_neg (by simpa using hmethod),
    Action.runOn_bind_ok (hid body), Action.runOn_bind]
  rcases (app.answer handlers { r with body := body }).runOn { w with drawn := drawn } with
    ⟨_ | _, _⟩ <;> rfl

/-- With a list of origins, a request fails only as its route does. -/
theorem error_of_serveBy {handlers : Handlers σ} {f : Failure}
    (h : ((app.serveBy handlers r).runOn w).1 = .error f) :
    ∃ drawn, ((app.answer handlers r).runOn { w with drawn := drawn }).1 = .error f := by
  by_cases hmethod : r.method = "OPTIONS"
  · rw [runOn_serveBy_of_options hcors hmethod] at h
    cases h
  · obtain ⟨drawn, finish, hrun⟩ := runOn_serveBy_of_route (w := w) hcors hmethod
    rw [hrun handlers r.body] at h
    refine ⟨drawn, ?_⟩
    cases hanswer : ((app.answer handlers r).runOn { w with drawn := drawn }).1 with
    | ok response => simp [hanswer, Except.map] at h
    | error e => simpa [hanswer, Except.map] using h

end Listed

end Turnstile.App
