import QuizService.Http.Router
import QuizService.Proofs.Entries

/-!
What the layers of the service do. A preflight request is answered without the handlers, a plain
OPTIONS request as by the handlers alone, and every other response is that of the handlers with
the headers for any origin. Main statement: this division for the service.
-/

namespace QuizService

theorem Entries.get?_map {α β : Type} (f : α → β) (xs : Entries α) (name : String) :
    get? (xs.map fun e => (e.1, f e.2)) name = (get? xs name).map f := by
  induction xs with
  | nil => rfl
  | cons e rest ih => by_cases h : e.1 = name <;> simp [get?, h, ih]

theorem Entries.names_map {α β : Type} (f : α → β) (xs : Entries α) :
    names (xs.map fun e => (e.1, f e.2)) = names xs := by
  simp [names]

namespace Http

def Request.Carries (r : Request) (name : String) : Prop :=
  ∃ h ∈ r.headers, h.1.map Char.toLower = name

theorem isSome_header?_iff {r : Request} {name : String} :
    (r.header? name).isSome = true ↔ r.Carries name := by
  simp [Request.header?, Request.Carries]

theorem isPlainOptions_iff {r : Request} :
    isPlainOptions r = true ↔
      r.method = "OPTIONS" ∧ ¬ r.Carries "access-control-request-method" := by
  rw [← isSome_header?_iff]
  simp [isPlainOptions]

namespace Served

variable (s : Served) (method : String) (headers : List (String × String))

@[simp] theorem asked_addHeaders : (s.addHeaders headers).asked = s.asked :=
  rfl

@[simp] theorem status_addHeaders :
    (s.addHeaders headers).response.status = s.response.status :=
  rfl

@[simp] theorem asked_forMethod : (s.forMethod method).asked = s.asked := by
  unfold forMethod
  split <;> rfl

@[simp] theorem status_forMethod : (s.forMethod method).response.status = s.response.status := by
  unfold forMethod
  split <;> rfl

end Served

structure Opened (bare opened : Served) : Prop where
  asked : opened.asked = bare.asked
  status : opened.response.status = bare.response.status
  body : opened.response.body = bare.response.body
  headers : opened.response.headers.Perm (bare.response.headers ++ originHeaders)

namespace Opened

variable {bare opened : Served}

theorem addHeaders (s : Served) : Opened s (s.addHeaders originHeaders) :=
  ⟨rfl, rfl, rfl, .refl _⟩

theorem forMethod (h : Opened bare opened) (method : String) :
    Opened (bare.forMethod method) (opened.forMethod method) := by
  unfold Served.forMethod
  split
  · exact ⟨h.asked, h.status, rfl, h.headers⟩
  · exact h

theorem addHeaders_both (h : Opened bare opened) (more : List (String × String)) :
    Opened (bare.addHeaders more) (opened.addHeaders more) := by
  refine ⟨h.asked, h.status, h.body, ?_⟩
  have hmore := h.headers.append_right more
  have hswap : (originHeaders ++ more).Perm (more ++ originHeaders) := List.perm_append_comm
  have hbare := hswap.append_left bare.response.headers
  rw [← List.append_assoc, ← List.append_assoc] at hbare
  exact hmore.trans hbare

end Opened

namespace Endpoint

variable (f : Handler → Handler) (e : Endpoint)

theorem get?_layer (method : String) :
    (e.layer f).handlers.get? method = (e.handlers.get? method).map f := by
  rw [layer, Entries.get?_map]

theorem allow_layer : (e.layer f).allow = e.allow := by
  rw [allow, allow, methods, methods, layer, Entries.names_map]

end Endpoint

namespace Router

variable {t : Router} {r : Request}

def told (t : Router) (r : Request) : List (String × String) :=
  match t.endpoints.get? r.path with
  | some e => if (e.handlers.get? (Endpoint.handledAs r.method)).isSome then [] else [e.allow]
  | none => []

theorem told_layer (f : Handler → Handler) : (t.layer f).told r = t.told r := by
  simp only [told, layer, Entries.get?_map]
  cases t.endpoints.get? r.path with
  | none => rfl
  | some e => simp [Endpoint.get?_layer, Endpoint.allow_layer]

theorem crossOrigin_of_options (h : r.method = "OPTIONS") (inner : Handler) :
    crossOrigin inner r = .fixed ⟨200, originHeaders ++ preflightHeaders, ""⟩ := by
  rw [crossOrigin, if_pos h]

theorem crossOrigin_of_ne (h : r.method ≠ "OPTIONS") (inner : Handler) :
    crossOrigin inner r = (inner r).addHeaders originHeaders := by
  rw [crossOrigin, if_neg h]

theorem handle_crossOrigin_of_options (h : r.method = "OPTIONS") :
    (t.layer crossOrigin).handle r =
      .fixed ⟨200, originHeaders ++ preflightHeaders ++ t.told r, ""⟩ := by
  have hmethod : ∀ s : Served, s.forMethod r.method = s := by
    intro s
    rw [Served.forMethod, if_neg (by rw [h]; decide)]
  simp only [handle, layer, told, Entries.get?_map]
  cases t.endpoints.get? r.path with
  | none =>
    rw [Option.map_none]
    simp only [crossOrigin_of_options h, List.append_nil]
  | some e =>
    simp only [Option.map_some, Endpoint.handle, Endpoint.get?_layer, Endpoint.allow_layer]
    cases e.handlers.get? (Endpoint.handledAs r.method) with
    | none =>
      simp [Endpoint.layer, crossOrigin_of_options h, Served.addHeaders, Served.fixed,
        Response.addHeaders]
    | some inner => simp [hmethod, crossOrigin_of_options h]

theorem serve_of_plain (h : r.method = "OPTIONS")
    (hp : ¬ r.Carries "access-control-request-method") : t.serve r = t.handle r := by
  rw [serve, bypass, if_pos (isPlainOptions_iff.mpr ⟨h, hp⟩)]

theorem serve_of_preflight (h : r.method = "OPTIONS")
    (hp : r.Carries "access-control-request-method") :
    t.serve r = .fixed ⟨200, originHeaders ++ preflightHeaders ++ t.told r, ""⟩ := by
  have hplain : ¬ isPlainOptions r = true := fun hplain => (isPlainOptions_iff.mp hplain).2 hp
  rw [serve, bypass, if_neg hplain, handle_crossOrigin_of_options h]

theorem serve_of_ne (h : r.method ≠ "OPTIONS") :
    t.serve r =
      match t.endpoints.get? r.path with
      | some e =>
        match e.handlers.get? (Endpoint.handledAs r.method) with
        | some inner => ((inner r).addHeaders originHeaders).forMethod r.method
        | none => ((e.other r).addHeaders originHeaders).addHeaders [e.allow]
      | none => (t.other r).addHeaders originHeaders := by
  have hplain : ¬ isPlainOptions r = true := fun hplain => h (isPlainOptions_iff.mp hplain).1
  rw [serve, bypass, if_neg hplain]
  simp only [handle, layer, Entries.get?_map]
  cases t.endpoints.get? r.path with
  | none => exact crossOrigin_of_ne h t.other
  | some e =>
    simp only [Option.map_some, Endpoint.handle, Endpoint.get?_layer, Endpoint.allow_layer]
    cases e.handlers.get? (Endpoint.handledAs r.method) with
    | none => simp only [Option.map_none, Endpoint.layer, crossOrigin_of_ne h]
    | some inner => simp only [Option.map_some, crossOrigin_of_ne h]

theorem serve_opens (h : r.method ≠ "OPTIONS") : Opened (t.handle r) (t.serve r) := by
  rw [serve_of_ne h, handle]
  cases t.endpoints.get? r.path with
  | none => exact .addHeaders _
  | some e =>
    simp only [Endpoint.handle]
    cases e.handlers.get? (Endpoint.handledAs r.method) with
    | none => exact (Opened.addHeaders _).addHeaders_both _
    | some inner => exact (Opened.addHeaders _).forMethod _

theorem serve_layer_of_preflight (h : r.method = "OPTIONS")
    (hp : r.Carries "access-control-request-method") (f : Handler → Handler) :
    (t.layer f).serve r = t.serve r := by
  rw [serve_of_preflight h hp, serve_of_preflight h hp, told_layer]

end Router

def IsUnlayered (s : Served) : Prop :=
  ∀ h ∈ s.response.headers, h.1 = "content-type" ∨ h.1 = "allow"

theorem isUnlayered_empty (status : Nat) : IsUnlayered (.fixed ⟨status, [], ""⟩) :=
  nofun

theorem isUnlayered_plain (status : Nat) (body : String) :
    IsUnlayered (.fixed (.plain status body)) :=
  List.forall_mem_singleton.mpr (.inl rfl)

theorem isUnlayered_json (status : Nat) (v : Json) (asked : List ModelCall) :
    IsUnlayered ⟨.json status v, asked⟩ :=
  List.forall_mem_singleton.mpr (.inl rfl)

theorem isUnlayered_ofError (e : QuizError) (asked : List ModelCall) :
    IsUnlayered ⟨.ofError e, asked⟩ := by
  cases e <;> exact isUnlayered_json _ _ asked

theorem isUnlayered_ofGenerated (g : Generated) : IsUnlayered (.ofGenerated g) := by
  unfold Served.ofGenerated
  split
  · exact isUnlayered_json _ _ _
  · exact isUnlayered_ofError _ _

theorem isUnlayered_forMethod {s : Served} (h : IsUnlayered s) (method : String) :
    IsUnlayered (s.forMethod method) := by
  unfold Served.forMethod
  split <;> exact h

theorem isUnlayered_handle {e : Endpoint} {r : Request}
    (hhandlers : ∀ m ∈ e.handlers, IsUnlayered (m.2 r)) (hother : IsUnlayered (e.other r)) :
    IsUnlayered (e.handle r) := by
  unfold Endpoint.handle
  split
  · rename_i inner hinner
    exact isUnlayered_forMethod (hhandlers _ (Entries.mem_of_get? hinner)) _
  · intro h hh
    rcases List.mem_append.mp hh with hh | hh
    · exact hother h hh
    · rw [List.mem_singleton.mp hh]
      exact .inr rfl

namespace Service

variable {s : Service} {r : Request}

theorem isUnlayered_byBody (s : Service) (r : Request) : IsUnlayered (s.byBody r) := by
  unfold byBody
  split
  · split
    · split
      · exact isUnlayered_ofGenerated _
      · exact isUnlayered_plain _ _
      · exact isUnlayered_plain _ _
    · exact isUnlayered_plain _ _
  · exact isUnlayered_plain _ _

theorem get?_api (s : Service) (path : String) :
    s.api.endpoints.get? path =
      if path = "/get_question" then some s.questionEndpoint
      else if path = "/api/v1/health" then some healthEndpoint else none := by
  rw [api, Entries.get?_cons, Entries.get?_cons]
  rfl

theorem handle_api (s : Service) (r : Request) :
    s.api.handle r =
      if r.path = "/get_question" then s.questionEndpoint.handle r
      else if r.path = "/api/v1/health" then healthEndpoint.handle r
      else .fixed .notFound := by
  rw [Router.handle, get?_api]
  by_cases hquestion : r.path = "/get_question"
  · rw [if_pos hquestion, if_pos hquestion]
  by_cases hhealth : r.path = "/api/v1/health"
  · rw [if_neg hquestion, if_neg hquestion, if_pos hhealth, if_pos hhealth]
  · rw [if_neg hquestion, if_neg hquestion, if_neg hhealth, if_neg hhealth]
    rfl

theorem isUnlayered_api (s : Service) (r : Request) : IsUnlayered (s.api.handle r) := by
  rw [handle_api]
  split
  · apply isUnlayered_handle
    · simp only [questionEndpoint, List.forall_mem_cons]
      exact ⟨isUnlayered_ofGenerated _, isUnlayered_byBody s r, isUnlayered_json _ _ _, nofun⟩
    · exact isUnlayered_empty _
  split
  · apply isUnlayered_handle
    · simp only [healthEndpoint, List.forall_mem_cons]
      exact ⟨isUnlayered_json _ _ _, nofun⟩
    · exact isUnlayered_empty _
  · exact isUnlayered_empty _

theorem handle_api_of_options (h : r.method = "OPTIONS") :
    s.api.handle r =
      if r.path = "/get_question" then discovery
      else if r.path = "/api/v1/health" then .fixed ⟨405, [("allow", "GET,HEAD")], ""⟩
      else .fixed ⟨404, [], ""⟩ := by
  have hquestion : s.questionEndpoint.handle r = discovery := by
    rw [Endpoint.handle, h]
    rfl
  have hhealth : healthEndpoint.handle r = .fixed ⟨405, [("allow", "GET,HEAD")], ""⟩ := by
    rw [Endpoint.handle, h]
    rfl
  rw [handle_api, hquestion, hhealth]
  rfl

theorem told_api (h : r.method = "OPTIONS") :
    s.api.told r = if r.path = "/api/v1/health" then [("allow", "GET,HEAD")] else [] := by
  have hmethod : Endpoint.handledAs r.method = "OPTIONS" := by
    rw [h]
    rfl
  rw [Router.told, get?_api, hmethod]
  by_cases hquestion : r.path = "/get_question"
  · have hne : r.path ≠ "/api/v1/health" := by
      rw [hquestion]
      decide
    rw [if_pos hquestion, if_neg hne]
    rfl
  by_cases hhealth : r.path = "/api/v1/health"
  · rw [if_neg hquestion, if_pos hhealth, if_pos hhealth]
    rfl
  · rw [if_neg hquestion, if_neg hhealth, if_neg hhealth]

theorem serve_divides (s : Service) (r : Request) :
    (r.method = "OPTIONS" → r.Carries "access-control-request-method" →
      s.serve r = .fixed
        ⟨200, originHeaders ++ preflightHeaders ++
          (if r.path = "/api/v1/health" then [("allow", "GET,HEAD")] else []), ""⟩ ∧
      (∀ f, (s.api.layer f).serve r = s.serve r) ∧ s.serve r ≠ discovery) ∧
    (r.method = "OPTIONS" → ¬ r.Carries "access-control-request-method" →
      s.serve r = s.api.handle r ∧
      s.api.handle r =
        (if r.path = "/get_question" then discovery
        else if r.path = "/api/v1/health" then .fixed ⟨405, [("allow", "GET,HEAD")], ""⟩
        else .fixed ⟨404, [], ""⟩) ∧
      IsUnlayered (s.serve r)) ∧
    (r.method ≠ "OPTIONS" →
      Opened (s.api.handle r) (s.serve r) ∧ IsUnlayered (s.api.handle r) ∧
      ("access-control-allow-origin", "*") ∈ (s.serve r).response.headers) := by
  refine ⟨fun h hp => ⟨?_, fun f => Router.serve_layer_of_preflight h hp f, ?_⟩, fun h hp => ?_,
    fun h => ?_⟩
  · rw [← told_api (s := s) h]
    exact Router.serve_of_preflight h hp
  · intro heq
    have hheaders : (s.serve r).response.headers.head? = originHeaders.head? := by
      rw [serve, Router.serve_of_preflight h hp]
      rfl
    rw [heq] at hheaders
    revert hheaders
    decide
  · have hserve : s.serve r = s.api.handle r := Router.serve_of_plain h hp
    exact ⟨hserve, handle_api_of_options h, hserve ▸ isUnlayered_api s r⟩
  · have hopened : Opened (s.api.handle r) (s.serve r) := Router.serve_opens h
    refine ⟨hopened, isUnlayered_api s r, hopened.headers.mem_iff.mpr ?_⟩
    exact List.mem_append_right _ List.mem_cons_self

theorem serve_divides_three :
    let s : Service := ⟨none, []⟩
    let preflight : Request := ⟨"OPTIONS", "/x", [("Access-Control-Request-Method", "PUT")], []⟩
    let plain : Request := ⟨"OPTIONS", "/get_question", [("origin", "a")], []⟩
    let other : Request := ⟨"PUT", "/get_question", [], []⟩
    s.serve preflight = .fixed ⟨200, originHeaders ++ preflightHeaders, ""⟩ ∧
      s.serve plain = discovery ∧
      ("access-control-allow-origin", "*") ∈ (s.serve other).response.headers := by
  intro s preflight plain other
  refine ⟨?_, ?_, ?_⟩
  · have hcarries : preflight.Carries "access-control-request-method" := by
      rw [← isSome_header?_iff]
      decide +kernel
    obtain ⟨hserve, -⟩ := (serve_divides s preflight).1 rfl hcarries
    rw [hserve, if_neg (by decide), List.append_nil]
  · have hplain : ¬ plain.Carries "access-control-request-method" := by
      rw [← isSome_header?_iff]
      decide +kernel
    obtain ⟨hserve, hanswer, -⟩ := (serve_divides s plain).2.1 rfl hplain
    rw [hserve, hanswer, if_pos (by decide)]
  · exact ((serve_divides s other).2.2 (by decide)).2.2

end Service

end Http

end QuizService
