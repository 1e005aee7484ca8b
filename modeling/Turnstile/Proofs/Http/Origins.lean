import Turnstile.Proofs.Http.Serving
import Turnstile.Proofs.MemoryService
import Turnstile.Proofs.Settings

/-!
Which settings can be served. Every origin that cannot stand in a header is left out, so of all lists
of origins only those with the wildcard are refused, and the check of the settings lets the wildcard
pass outside of production. With any other list a request fails only as its route does.
-/

namespace Turnstile

/-! ### Lists of origins -/

namespace Cors

variable {origins : List String} {cors : Cors}

theorem isHeaderValue_wildcard : isHeaderValue "*" = true := by decide

/-- The wildcard can stand in a header, so it is never left out. -/
theorem wildcard_mem_filter_iff : "*" ∈ origins.filter isHeaderValue ↔ "*" ∈ origins := by
  simp [List.mem_filter, isHeaderValue_wildcard]

theorem ofOrigins_of_wildcard (h : "*" ∈ origins) :
    ofOrigins origins = .error .wildcardOrigin := by
  have hkept := wildcard_mem_filter_iff.mpr h
  simp [ofOrigins, hkept]

theorem ofOrigins_of_no_wildcard (h : "*" ∉ origins) :
    ofOrigins origins = .ok ⟨origins.filter isHeaderValue⟩ := by
  have hkept : "*" ∉ origins.filter isHeaderValue := fun hmem => h (wildcard_mem_filter_iff.mp hmem)
  simp [ofOrigins, hkept]

theorem ofOrigins_ok_iff : (∃ cors, ofOrigins origins = .ok cors) ↔ "*" ∉ origins := by
  constructor
  · rintro ⟨cors, hcors⟩ h
    rw [ofOrigins_of_wildcard h] at hcors
    cases hcors
  · intro h
    exact ⟨_, ofOrigins_of_no_wildcard h⟩

theorem wildcard_of_ofOrigins_error {f : Fault} (h : ofOrigins origins = .error f) :
    "*" ∈ origins := by
  by_cases hwildcard : "*" ∈ origins
  · exact hwildcard
  · rw [ofOrigins_of_no_wildcard hwildcard] at h
    cases h

/-- A list that was made holds what can stand in a header. -/
theorem mem_origins_iff (h : ofOrigins origins = .ok cors) {origin : String} :
    origin ∈ cors.origins ↔ origin ∈ origins ∧ isHeaderValue origin = true := by
  have hno := ofOrigins_ok_iff.mp ⟨cors, h⟩
  rw [ofOrigins_of_no_wildcard hno] at h
  cases h
  exact List.mem_filter

/-- The origin of a request is allowed if it is one of the list, and no other origin is. -/
theorem allows_iff {r : HttpRequest} {origin : String} :
    ("access-control-allow-origin", origin) ∈ cors.headers r ↔
      r.header? "origin" = some origin ∧ origin ∈ cors.origins := by
  unfold headers
  cases hallowed : (r.header? "origin").filter cors.origins.contains with
  | none =>
    constructor
    · intro h
      simp at h
    · rintro ⟨horigin, hmem⟩
      rw [horigin] at hallowed
      simp [hmem] at hallowed
  | some found =>
    obtain ⟨hfound, hcontains⟩ := Option.filter_eq_some_iff.mp hallowed
    have hmem : found ∈ cors.origins := by simpa using hcontains
    constructor
    · intro h
      obtain rfl : origin = found := by simpa using h
      exact ⟨hfound, hmem⟩
    · rintro ⟨horigin, -⟩
      rw [hfound] at horigin
      simp [Option.some.inj horigin]

end Cors

/-! ### Serving -/

/-- Settings that pass their check can be served in production, and elsewhere exactly if the wildcard
is not among the origins. Then the origins that are allowed are those that can stand in a header, and
a request fails only as its route does. With the wildcard, no request is answered, whatever it asks
for and whatever stands behind the routes. -/
theorem App.served_of_check [SizeLimit] {σ : Type} (app : App σ)
    (hcheck : app.settings.check = .ok ()) :
    let origins := app.settings.security.allowedOrigins
    ((∃ cors, Cors.ofOrigins origins = .ok cors) ↔
      app.settings.environment = .prod ∨ "*" ∉ origins) ∧
    (∀ cors, Cors.ofOrigins origins = .ok cors →
      (∀ (r : HttpRequest) (origin : String),
        ("access-control-allow-origin", origin) ∈ cors.headers r ↔
          r.header? "origin" = some origin ∧ origin ∈ origins ∧ Cors.isHeaderValue origin = true) ∧
      ∀ (handlers : Handlers σ) (r : HttpRequest) (w : World σ) (f : Failure),
        ((app.serveBy handlers r).runOn w).1 = .error f →
          ∃ drawn, ((app.answer handlers r).runOn { w with drawn := drawn }).1 = .error f) ∧
    ∀ f, Cors.ofOrigins origins = .error f → ∀ (handlers : Handlers σ) (r : HttpRequest)
      (w : World σ), (app.serveBy handlers r).runOn w = (.error (.fault .wildcardOrigin), w) := by
  intro origins
  have haccepted := Settings.check_eq_ok_iff.mp hcheck
  refine ⟨?_, fun cors hcors => ⟨fun r origin => ?_, fun handlers r w f h => ?_⟩,
    fun f hfails handlers r w => ?_⟩
  · rw [Cors.ofOrigins_ok_iff]
    constructor
    · intro h
      exact .inr h
    · rintro (hprod | h)
      · exact haccepted.allowedOrigins hprod
      · exact h
  · rw [Cors.allows_iff, Cors.mem_origins_iff hcors]
  · exact App.error_of_serveBy hcors h
  · have hwildcard := Cors.ofOrigins_of_wildcard (Cors.wildcard_of_ofOrigins_error hfails)
    exact App.runOn_serveBy_of_error hwildcard handlers r w

namespace Sample

/-- The service for pages of certain origins. -/
def serviceOn (environment : Environment) (origins : List String) : MemoryService :=
  { service with settings :=
      { service.settings with environment := environment, security := ⟨origins, 30⟩ } }

/-- A list that names its origins is served in production; an origin with a line feed is left out. -/
theorem named_origins_served :
    let app := (serviceOn .prod ["https://a.example", "https://b.example\n"]).app
    let r : HttpRequest := ⟨"GET", "/health", [("origin", "https://a.example")], "", none⟩
    app.settings.check = .ok () ∧ ∃ cors, Cors.ofOrigins app.settings.security.allowedOrigins =
        .ok cors ∧ ("access-control-allow-origin", "https://a.example") ∈ cors.headers r := by
  intro app r
  have hcheck : app.settings.check = .ok () :=
    Settings.check_eq_ok_iff_rules.mpr (by decide +kernel)
  obtain ⟨hbuilt, hserves, -⟩ := app.served_of_check hcheck
  obtain ⟨cors, hcors⟩ := hbuilt.mpr (.inl rfl)
  have hallows := ((hserves cors hcors).1 r "https://a.example").mpr
    ⟨by decide +kernel, by decide +kernel, by decide +kernel⟩
  exact ⟨hcheck, cors, hcors, hallows⟩

/-- Outside of production the wildcard passes the check, and then nothing is served. -/
theorem wildcard_unserved :
    (serviceOn .dev ["*"]).app.settings.check = .ok () ∧
      Cors.ofOrigins (serviceOn .dev ["*"]).app.settings.security.allowedOrigins =
        .error .wildcardOrigin := by
  constructor
  · exact Settings.check_eq_ok_iff_rules.mpr (by decide +kernel)
  · rfl

end Sample

end Turnstile
