import QuizService.Proofs.Http.Layer
import QuizService.Proofs.Json.Value
import QuizService.Proofs.Question.Generate
import QuizService.Proofs.Text.Utf8

/-!
What a request gets. A request asks for a question by its query or by its body, or it does not ask
at all, and then the model and the random words have no part in its response. Main statement: in
every run each request gets the outcome of its bag, with at most one call of the model, and the
failures of two models cannot be told apart.
-/

namespace QuizService.Http

namespace Request

def HasJsonType (r : Request) : Prop :=
  ∃ t m, r.header? "content-type" = some t ∧ MediaType.ofText? t.toList = some m ∧
    m.isJson = true

/-- The bags that a request asks a question for: that of its query, or the object that its body
starts with. -/
inductive Asks (r : Request) : Bag → Prop where
  | query (hpath : r.path = "/get_question") (hmethod : r.method = "GET" ∨ r.method = "HEAD") :
    Asks r (Form.bag r.query)
  | body {bag : Bag} (hpath : r.path = "/get_question") (hmethod : r.method = "POST")
    (htype : r.HasJsonType) (hsize : r.body.length ≤ bodyLimit)
    (hread : Json.Leading.read (Utf8.validPart r.body) = .object bag) : Asks r bag

theorem Asks.unique {r : Request} {bag other : Bag} (h : r.Asks bag)
    (h' : r.Asks other) : bag = other := by
  cases h with
  | query _ hmethod =>
    cases h' with
    | query => rfl
    | body _ hpost => simp [hpost] at hmethod
  | body _ hpost _ _ hread =>
    cases h' with
    | query _ hmethod => simp [hpost] at hmethod
    | body _ _ _ _ hread' => exact Json.Leading.object.inj (hread.symm.trans hread')

theorem hasJsonType_iff {r : Request} :
    ((r.header? "content-type").bind fun t => MediaType.ofText? t.toList).any
      MediaType.isJson = true ↔ r.HasJsonType := by
  rw [HasJsonType]
  cases r.header? "content-type" with
  | none => simp
  | some t => cases hm : MediaType.ofText? t.toList <;> simp [hm]

end Request

def reply (r : Request) (status : Nat) (v : Json) : Response where
  status := status
  headers := ("content-type", "application/json") :: originHeaders
  body := if r.method = "HEAD" then "" else v.text

def invalidFields (fields : List InputField) : Json :=
  .object
    [("error",
        .string ("invalid fields: " ++ String.intercalate ", " (fields.map InputField.name))),
      ("fields", .strings (fields.map InputField.name))]

def internalError : Json :=
  .object [("error", .string "internal error")]

def answered (r : Request) (g : Generated) : Served :=
  ((Served.ofGenerated g).addHeaders originHeaders).forMethod r.method

section

variable {r : Request} {g : Generated}

theorem forMethod_json (r : Request) (status : Nat) (v : Json) (asked : List ModelCall) :
    ((⟨.json status v, asked⟩ : Served).addHeaders originHeaders).forMethod r.method =
      ⟨reply r status v, asked⟩ := by
  by_cases h : r.method = "HEAD" <;>
    simp [Served.forMethod, Served.addHeaders, Response.json, Response.addHeaders,
      Response.withoutBody, reply, h]

theorem asked_answered : (answered r g).asked = g.asked := by
  rw [answered, Served.asked_forMethod, Served.asked_addHeaders, Served.ofGenerated]
  split <;> rfl

theorem answered_ok {v : Json} {o : Origin} (h : g.outcome = .ok (v, o)) :
    answered r g = ⟨reply r 200 v, g.asked⟩ := by
  rw [answered, Served.ofGenerated, h]
  exact forMethod_json r 200 v g.asked

theorem answered_invalid {fields : List InputField}
    (h : g.outcome = .error (.invalidInput (fields.map InputField.name))) :
    answered r g = ⟨reply r 400 (invalidFields fields), g.asked⟩ := by
  rw [answered, Served.ofGenerated, h]
  exact forMethod_json r 400 (invalidFields fields) g.asked

theorem answered_failed {e : RequestError} (h : g.outcome = .error (.request e)) :
    answered r g = ⟨reply r 500 internalError, g.asked⟩ := by
  rw [answered, Served.ofGenerated, h]
  exact forMethod_json r 500 internalError g.asked

end

namespace Service

variable {r : Request} {bag : Bag}

theorem byBody_of_object {s : Service} (htype : r.HasJsonType) (hsize : r.body.length ≤ bodyLimit)
    (hread : Json.Leading.read (Utf8.validPart r.body) = .object bag) :
    s.byBody r = .ofGenerated (.ofBag s.model s.draws bag) := by
  rw [byBody, if_pos (Request.hasJsonType_iff.mpr htype), if_pos hsize, hread]

theorem byBody_of_long {s : Service} (htype : r.HasJsonType) (hsize : bodyLimit < r.body.length) :
    s.byBody r = .fixed .bodyTooLong := by
  rw [byBody, if_pos (Request.hasJsonType_iff.mpr htype), if_neg (not_le.mpr hsize)]

theorem byBody_of_refused
    (h : ∀ bag, r.HasJsonType → r.body.length ≤ bodyLimit →
      Json.Leading.read (Utf8.validPart r.body) ≠ .object bag) :
    ∃ refusal ∈ [Response.notAnObject, .malformedBody, .bodyTooLong, .wrongContentType],
      ∀ s : Service, s.byBody r = .fixed refusal := by
  by_cases htype : r.HasJsonType
  · by_cases hsize : r.body.length ≤ bodyLimit
    · have hpos := Request.hasJsonType_iff.mpr htype
      cases hread : Json.Leading.read (Utf8.validPart r.body) with
      | object bag => exact absurd hread (h bag htype hsize)
      | otherValue =>
        refine ⟨.notAnObject, by simp, fun s => ?_⟩
        rw [byBody, if_pos hpos, if_pos hsize, hread]
      | malformed =>
        refine ⟨.malformedBody, by simp, fun s => ?_⟩
        rw [byBody, if_pos hpos, if_pos hsize, hread]
    · exact ⟨.bodyTooLong, by simp, fun _ => byBody_of_long htype (not_le.mp hsize)⟩
  · refine ⟨.wrongContentType, by simp, fun s => ?_⟩
    rw [byBody, if_neg fun hpos => htype (Request.hasJsonType_iff.mp hpos)]

theorem serve_of_handler {s : Service} {inner : Handler} (hpath : r.path = "/get_question")
    (hne : r.method ≠ "OPTIONS")
    (hinner : s.questionEndpoint.handlers.get? (Endpoint.handledAs r.method) = some inner) :
    s.serve r = ((inner r).addHeaders originHeaders).forMethod r.method := by
  rw [serve, Router.serve_of_ne hne, get?_api, if_pos hpath]
  simp only [hinner]

theorem serve_of_query (s : Service) (hpath : r.path = "/get_question")
    (hmethod : r.method = "GET" ∨ r.method = "HEAD") :
    s.serve r = ((s.byQuery r).addHeaders originHeaders).forMethod r.method := by
  rcases hmethod with h | h <;> exact serve_of_handler hpath (by rw [h]; decide) (by rw [h]; rfl)

theorem serve_of_body (s : Service) (hpath : r.path = "/get_question")
    (hmethod : r.method = "POST") :
    s.serve r = ((s.byBody r).addHeaders originHeaders).forMethod r.method :=
  serve_of_handler hpath (by rw [hmethod]; decide) (by rw [hmethod]; rfl)

theorem serve_of_asks (s : Service) (h : r.Asks bag) :
    s.serve r = answered r (.ofBag s.model s.draws bag) := by
  cases h with
  | query hpath hmethod => exact serve_of_query s hpath hmethod
  | body hpath hmethod htype hsize hread =>
    rw [serve_of_body s hpath hmethod, byBody_of_object htype hsize hread]
    rfl

theorem serve_of_long (s : Service) (hpath : r.path = "/get_question") (hmethod : r.method = "POST")
    (htype : r.HasJsonType) (hsize : bodyLimit < r.body.length) :
    s.serve r = .fixed (Response.bodyTooLong.addHeaders originHeaders) := by
  have hne : r.method ≠ "HEAD" := by
    rw [hmethod]
    decide
  rw [serve_of_body s hpath hmethod, byBody_of_long htype hsize, Served.forMethod, if_neg hne]
  rfl

def IsSettled (r : Request) : Prop :=
  ∃ served : Served, (∀ s : Service, s.serve r = served) ∧ served.asked = [] ∧
    served.response.status ∈ [200, 400, 404, 405, 413, 415, 422]

theorem isSettled_of_options (h : r.method = "OPTIONS") : IsSettled r := by
  by_cases hpreflight : r.Carries "access-control-request-method"
  · have hserve (s : Service) := Router.serve_of_preflight (t := s.api) h hpreflight
    simp only [told_api h] at hserve
    exact ⟨_, hserve, rfl, by simp [Served.fixed]⟩
  · have hserve (s : Service) := Router.serve_of_plain (t := s.api) h hpreflight
    simp only [handle_api_of_options h] at hserve
    refine ⟨_, hserve, ?_⟩
    split
    · exact ⟨rfl, by decide⟩
    split <;> exact ⟨rfl, by decide⟩

theorem isSettled_of_refused
    (h : ∀ bag, r.HasJsonType → r.body.length ≤ bodyLimit →
      Json.Leading.read (Utf8.validPart r.body) ≠ .object bag)
    (hpath : r.path = "/get_question") (hpost : r.method = "POST") : IsSettled r := by
  obtain ⟨refusal, hrefusal, hbody⟩ := byBody_of_refused h
  have hserve (s : Service) :
      s.serve r = ((Served.fixed refusal).addHeaders originHeaders).forMethod r.method := by
    rw [serve_of_body s hpath hpost, hbody s]
  refine ⟨_, hserve, by simp [Served.fixed], ?_⟩
  rw [Served.status_forMethod, Served.status_addHeaders, Served.fixed]
  simp only [List.mem_cons, List.not_mem_nil, or_false] at hrefusal
  rcases hrefusal with rfl | rfl | rfl | rfl <;> decide

theorem isSettled_of_wrong_method (hpath : r.path = "/get_question")
    (hmethod : r.method ∉ ["GET", "HEAD", "POST", "OPTIONS"]) : IsSettled r := by
  simp only [List.mem_cons, List.not_mem_nil, or_false, not_or] at hmethod
  obtain ⟨hget, hhead, hpost, hoptions⟩ := hmethod
  have hnone (s : Service) :
      s.questionEndpoint.handlers.get? (Endpoint.handledAs r.method) = none := by
    simp [questionEndpoint, Endpoint.handledAs, Entries.get?, hhead, eq_comm (b := r.method), hget,
      hpost, hoptions]
  have hserve (s : Service) :
      s.serve r = ((Served.fixed .notAllowed).addHeaders originHeaders).addHeaders
        [("allow", "GET,HEAD,POST,OPTIONS")] := by
    rw [serve, Router.serve_of_ne hoptions, get?_api, if_pos hpath]
    simp only [hnone]
    rfl
  exact ⟨_, hserve, rfl, by decide⟩

theorem isSettled_elsewhere (hne : r.method ≠ "OPTIONS") (hpath : r.path ≠ "/get_question") :
    IsSettled r := by
  by_cases hhealth : r.path = "/api/v1/health"
  · by_cases hget : Endpoint.handledAs r.method = "GET"
    · have hserve (s : Service) :
          s.serve r = (health.addHeaders originHeaders).forMethod r.method := by
        rw [serve, Router.serve_of_ne hne, get?_api, if_neg hpath, if_pos hhealth, hget]
        rfl
      refine ⟨_, hserve, ?_, ?_⟩
      · rw [Served.asked_forMethod]
        rfl
      · rw [Served.status_forMethod]
        decide
    · have hnone : healthEndpoint.handlers.get? (Endpoint.handledAs r.method) = none := by
        simp [healthEndpoint, Entries.get?, eq_comm (a := "GET"), hget]
      have hserve (s : Service) :
          s.serve r = ((Served.fixed .notAllowed).addHeaders originHeaders).addHeaders
            [healthEndpoint.allow] := by
        rw [serve, Router.serve_of_ne hne, get?_api, if_neg hpath, if_pos hhealth]
        simp only [hnone]
        rfl
      exact ⟨_, hserve, rfl, by decide⟩
  · have hserve (s : Service) :
        s.serve r = (Served.fixed .notFound).addHeaders originHeaders := by
      rw [serve, Router.serve_of_ne hne, get?_api, if_neg hpath, if_neg hhealth]
      rfl
    exact ⟨_, hserve, rfl, by decide⟩

theorem isSettled_of_not_asks (h : ∀ bag, ¬ r.Asks bag) : IsSettled r := by
  by_cases hoptions : r.method = "OPTIONS"
  · exact isSettled_of_options hoptions
  by_cases hpath : r.path = "/get_question"
  · have hquery : ¬ (r.method = "GET" ∨ r.method = "HEAD") := fun hmethod =>
      h _ (.query hpath hmethod)
    by_cases hpost : r.method = "POST"
    · have hrefused bag (htype : r.HasJsonType) (hsize : r.body.length ≤ bodyLimit) :
          Json.Leading.read (Utf8.validPart r.body) ≠ .object bag :=
        fun hread => h bag (.body hpath hpost htype hsize hread)
      exact isSettled_of_refused hrefused hpath hpost
    · exact isSettled_of_wrong_method hpath (by simp_all)
  · exact isSettled_elsewhere hoptions hpath

open Generated (tagOf)

def Accepted (bag : Bag) : Prop :=
  ∀ f : InputField, f.IsValid (tagOf bag) bag

theorem accepted_iff : Accepted bag ↔ ∃ i, Input.check (tagOf bag) bag = .ok i :=
  Input.check_accepts_iff.symm

inductive Outcome (s : Service) (r : Request) (bag : Bag) : Served → Prop where
  | refused {fields : List InputField} (hbag : ¬ Accepted bag)
    (horder : fields.Sublist InputField.all)
    (hfields : ∀ f, f ∈ fields ↔ ¬ f.IsValid (tagOf bag) bag) :
    Outcome s r bag ⟨reply r 400 (invalidFields fields), []⟩
  | replied {ask : Model} {q : QuestionRequest} {v : Json} (hmodel : s.model = some ask)
    (hbag : Accepted bag) (hbuild : QuestionRequest.build (tagOf bag) bag = .ok q)
    (hask : ask q.call = .ok v) : Outcome s r bag ⟨reply r 200 v, [q.call]⟩
  | failed {ask : Model} {q : QuestionRequest} {e : RequestError} (hmodel : s.model = some ask)
    (hbag : Accepted bag) (hbuild : QuestionRequest.build (tagOf bag) bag = .ok q)
    (hask : ask q.call = .error e) : Outcome s r bag ⟨reply r 500 internalError, [q.call]⟩
  | seeded {q : QuestionRequest} {v : Json} (hmodel : s.model = none) (hbag : Accepted bag)
    (hbuild : QuestionRequest.build (tagOf bag) bag = .ok q)
    (hseed : Generated.fallback q.input s.draws = .ok v) : Outcome s r bag ⟨reply r 200 v, []⟩

theorem outcome_of_asks (s : Service) (h : r.Asks bag) : Outcome s r bag (s.serve r) := by
  rw [serve_of_asks s h]
  cases hcheck : Input.check (tagOf bag) bag with
  | error fields =>
    have hbag : ¬ Accepted bag := by
      rw [accepted_iff, hcheck]
      rintro ⟨i, hi⟩
      cases hi
    rw [Generated.ofBag_of_check_error s.model s.draws hcheck, answered_invalid rfl,
      Input.check_eq_error hcheck]
    exact .refused hbag Input.failures_sublist fun _ => Input.mem_failures_iff
  | ok i =>
    have hbag : Accepted bag := accepted_iff.mpr ⟨i, hcheck⟩
    -- Every type has a shape with a document, so nothing fails between the check and the call.
    obtain ⟨shape, hshape, -, d, hd⟩ := Catalogue.shape_eq_ok i.category
    have hbuild := QuestionRequest.build_of_check_ok hcheck hshape hd
    rw [Generated.ofBag_of_check_ok s.model s.draws hcheck hshape hd]
    cases hmodel : s.model with
    | some ask =>
      rw [Generated.answer_some]
      cases hask : ask (QuestionRequest.call ⟨d, i⟩) with
      | ok v =>
        rw [answered_ok rfl]
        exact .replied hmodel hbag hbuild hask
      | error e =>
        rw [answered_failed rfl]
        exact .failed hmodel hbag hbuild hask
    | none =>
      rw [Generated.answer_none s.draws hshape, answered_ok rfl]
      exact .seeded hmodel hbag hbuild (Generated.fallback_eq hshape s.draws)

theorem serve_of_reply {ask : Model} {ds : Draws} {v : Json} (h : r.Asks bag)
    (hbag : Accepted bag) (hask : ∀ c ∈ (serve ⟨some ask, ds⟩ r).asked, ask c = .ok v) :
    (serve ⟨some ask, ds⟩ r).response = reply r 200 v := by
  have houtcome := outcome_of_asks ⟨some ask, ds⟩ h
  generalize serve ⟨some ask, ds⟩ r = served at hask houtcome ⊢
  cases houtcome with
  | refused hnot => exact absurd hbag hnot
  | replied hmodel _ _ hreply =>
    obtain rfl := Option.some.inj hmodel
    have heq := (hask _ List.mem_cons_self).symm.trans hreply
    rw [Except.ok.inj heq]
  | failed hmodel _ _ hreply =>
    obtain rfl := Option.some.inj hmodel
    have heq := (hask _ List.mem_cons_self).symm.trans hreply
    cases heq
  | seeded hmodel => cases hmodel

/-- What a request gets: at most one call of the model, which only an accepted bag makes, and the
outcome of its bag. Without a model there is no failure. -/
structure Answered (s : Service) (r : Request) (served : Served) : Prop where
  once : served.asked.length ≤ 1
  asked : served.asked ≠ [] ↔ s.model.isSome = true ∧ ∃ bag, r.Asks bag ∧ Accepted bag
  outcome : ∀ bag, r.Asks bag → Outcome s r bag served
  noFailure : s.model = none → served.response.status ≠ 500

theorem answered_of_settled {s : Service} {served : Served} (h : ∀ bag, ¬ r.Asks bag)
    (hasked : served.asked = [])
    (hstatus : served.response.status ∈ [200, 400, 404, 405, 413, 415, 422]) :
    Answered s r served where
  once := by simp [hasked]
  asked := by simp [hasked, h]
  outcome bag hbag := absurd hbag (h bag)
  noFailure _ hfailure := by simp [hfailure] at hstatus

theorem answered_of_outcome {s : Service} {served : Served} (h : r.Asks bag)
    (houtcome : Outcome s r bag served) : Answered s r served where
  once := by cases houtcome <;> simp
  asked := by
    have hbags : (∃ other, r.Asks other ∧ Accepted other) ↔ Accepted bag := by
      constructor
      · rintro ⟨other, hother, hok⟩
        rwa [h.unique hother]
      · exact fun hok => ⟨bag, h, hok⟩
    rw [hbags]
    cases houtcome with
    | refused hbag => simp [hbag]
    | replied hmodel hbag => simp [hmodel, hbag]
    | failed hmodel hbag => simp [hmodel, hbag]
    | seeded hmodel => simp [hmodel]
  outcome other hother := by rwa [← h.unique hother]
  noFailure hnone := by
    cases houtcome with
    | failed hmodel => simp [hmodel] at hnone
    | _ => simp [reply]

theorem answered_serve (s : Service) (r : Request) : Answered s r (s.serve r) := by
  by_cases h : ∃ bag, r.Asks bag
  · obtain ⟨bag, hbag⟩ := h
    exact answered_of_outcome hbag (outcome_of_asks s hbag)
  · have hnone : ∀ bag, ¬ r.Asks bag := fun bag hbag => h ⟨bag, hbag⟩
    obtain ⟨served, hserve, hasked, hstatus⟩ := isSettled_of_not_asks hnone
    rw [hserve s]
    exact answered_of_settled hnone hasked hstatus

def Fails (ask : Model) (served : Served) : Prop :=
  ∀ c ∈ served.asked, ∃ e, ask c = .error e

theorem answered_of_fails {ask : Model} {ds : Draws} {q : QuestionRequest}
    (hbuild : QuestionRequest.build (tagOf bag) bag = .ok q)
    (h : Fails ask (answered r (.ofBag (some ask) ds bag))) :
    answered r (.ofBag (some ask) ds bag) = ⟨reply r 500 internalError, [q.call]⟩ := by
  rw [Generated.ofBag_of_build_ok _ ds hbuild, Generated.answer_some] at h ⊢
  cases hask : ask q.call with
  | error e => exact answered_failed rfl
  | ok v =>
    obtain ⟨e, he⟩ := h q.call (by simp [asked_answered])
    rw [hask] at he
    cases he

theorem serve_of_fails {ask other : Model} {ds ds' : Draws}
    (h : Fails ask (serve ⟨some ask, ds⟩ r)) (h' : Fails other (serve ⟨some other, ds'⟩ r)) :
    serve ⟨some ask, ds⟩ r = serve ⟨some other, ds'⟩ r := by
  by_cases hasks : ∃ bag, r.Asks bag
  · obtain ⟨bag, hbag⟩ := hasks
    rw [serve_of_asks _ hbag] at h h' ⊢
    rw [serve_of_asks _ hbag]
    -- Both models get the call that the bag builds, and what they fail with is dropped.
    cases hbuild : QuestionRequest.build (tagOf bag) bag with
    | error e =>
      rw [Generated.ofBag_of_build_error _ _ hbuild, Generated.ofBag_of_build_error _ _ hbuild]
    | ok q => rw [answered_of_fails hbuild h, answered_of_fails hbuild h']
  · obtain ⟨served, hserve, -⟩ := isSettled_of_not_asks fun bag hbag => hasks ⟨bag, hbag⟩
    rw [hserve, hserve]

theorem serve_head (s : Service) (hget : r.method = "GET") :
    s.serve { r with method := "HEAD" } =
      { s.serve r with response := (s.serve r).response.withoutBody } := by
  have hne : r.method ≠ "OPTIONS" := by rw [hget]; decide
  have hpath : { r with method := "HEAD" }.path = r.path := rfl
  rw [serve, serve, Router.serve_of_ne (show "HEAD" ≠ "OPTIONS" by decide),
    Router.serve_of_ne hne, hpath, get?_api, hget]
  by_cases hquestion : r.path = "/get_question"
  · simp only [if_pos hquestion]
    rfl
  by_cases hhealth : r.path = "/api/v1/health"
  · simp only [if_neg hquestion, if_pos hhealth]
    rfl
  · simp only [if_neg hquestion, if_neg hhealth]
    rfl

def calls (answers : List Served) : List ModelCall :=
  answers.flatMap Served.asked

/-- Answers requests one after another, each with random words of its own. What the model replies
may depend on the calls that it got before. -/
def run (model : Option (List ModelCall → Model)) (before : List ModelCall) :
    List (Draws × Request) → List Served
  | [] => []
  | (ds, r) :: rest =>
    let served := serve ⟨model.map fun ask => ask before, ds⟩ r
    served :: run model (before ++ served.asked) rest

theorem run_append (model : Option (List ModelCall → Model)) (before : List ModelCall)
    (earlier later : List (Draws × Request)) :
    run model before (earlier ++ later) =
      run model before earlier ++ run model (before ++ calls (run model before earlier)) later := by
  induction earlier generalizing before with
  | nil => simp [run, calls]
  | cons first rest ih =>
    obtain ⟨ds, r⟩ := first
    simp only [List.cons_append, run]
    rw [ih]
    simp [calls, List.append_assoc]

theorem run_outcome (model : Option (List ModelCall → Model)) :
    (∀ earlier ds r later,
      let s : Service := ⟨model.map fun ask => ask (calls (run model [] earlier)), ds⟩
      Answered s r (s.serve r) ∧
      ∃ rest, run model [] (earlier ++ (ds, r) :: later) =
        run model [] earlier ++ s.serve r :: rest) ∧
    (∀ (s : Service) (r : Request), r.method = "GET" →
      s.serve { r with method := "HEAD" } =
        { s.serve r with response := (s.serve r).response.withoutBody }) ∧
    (∀ (ask other : Model) (ds ds' : Draws) (r : Request), Fails ask (serve ⟨some ask, ds⟩ r) →
      Fails other (serve ⟨some other, ds'⟩ r) →
      serve ⟨some ask, ds⟩ r = serve ⟨some other, ds'⟩ r) ∧
    (∀ (s : Service) (r : Request), r.path = "/get_question" → r.method = "POST" →
      r.HasJsonType → bodyLimit < r.body.length →
      s.serve r = .fixed (Response.bodyTooLong.addHeaders originHeaders)) := by
  refine ⟨fun earlier ds r later => ⟨answered_serve _ r, ?_⟩, fun s r hget => serve_head s hget,
    fun ask other ds ds' r h h' => serve_of_fails h h', fun s r => serve_of_long s⟩
  rw [run_append, List.nil_append, run]
  exact ⟨_, rfl⟩

theorem run_outcome_undisclosed :
    let r : Request := ⟨"GET", "/get_question?category=mcq&difficulty=easy&topic=tides", [], []⟩
    let unreachable : Model := fun _ => .error .transport
    let refusing : Model := fun _ => .error (.status 401 "wrong key")
    (serve ⟨some unreachable, []⟩ r).response = reply r 500 internalError ∧
      (serve ⟨some unreachable, []⟩ r).asked.length = 1 ∧
      serve ⟨some unreachable, []⟩ r = serve ⟨some refusing, [7]⟩ r ∧
      (serve ⟨some refusing, []⟩ { r with method := "HEAD" }).response.body = "" := by
  intro r unreachable refusing
  obtain ⟨-, hhead, hopaque, -⟩ := run_outcome none
  refine ⟨by decide +kernel, by decide +kernel, ?_, ?_⟩
  · exact hopaque unreachable refusing [] [7] r (fun _ _ => ⟨_, rfl⟩) fun _ _ => ⟨_, rfl⟩
  · rw [hhead ⟨some refusing, []⟩ r rfl]
    rfl

/-- Blanks after an object count for the length of a body, and take it over the limit. -/
theorem not_asked_padded :
    let bag : Bag := .ofTexts [("category", "mcq"), ("difficulty", "easy"), ("topic", "tides")]
    let r : Request :=
      ⟨"POST", "/get_question", [("content-type", "application/json")],
        Utf8.encode
          ((Json.object bag).text ++ String.ofList (List.replicate bodyLimit ' '))⟩
    r.path = "/get_question" ∧ r.method = "POST" ∧ r.HasJsonType ∧
      Json.Leading.read (Utf8.validPart r.body) = .object bag ∧ Accepted bag ∧
      ∀ s : Service, (s.serve r).asked = [] ∧ (s.serve r).response.status = 413 := by
  intro bag r
  have hpath : r.path = "/get_question" := by decide
  have hname : "content-type".map Char.toLower = "content-type" := by decide +kernel
  have hheader : r.header? "content-type" = some "application/json" := by
    simp [r, Request.header?, hname]
  have htype : r.HasJsonType := ⟨"application/json", _, hheader, rfl, rfl⟩
  have hread : Json.Leading.read (Utf8.validPart r.body) = .object bag := by
    have hmembers : ∀ m ∈ bag.members, m.2.tree.value? 126 = some m.2 := by
      simp [bag, Bag.ofTexts, Entries.putAll, Entries.put, Json.tree, Json.Tree.value?]
    obtain ⟨hdistinct, hobject⟩ := Json.read_object hmembers (Json.Numeral.ends_blanks bodyLimit)
    rw [Utf8.validPart_encode, String.toList_append, String.toList_ofList, Json.toList_text,
      hobject]
    rfl
  have hsize : bodyLimit < r.body.length := by
    have hlength := Utf8.length_le_encode
      ((Json.object bag).text ++ String.ofList (List.replicate bodyLimit ' '))
    rw [String.toList_append, String.toList_ofList, List.length_append, List.length_replicate,
      Json.toList_text] at hlength
    have hpos : 0 < (Json.object bag).chars.length := Nat.succ_pos _
    exact (Nat.lt_add_of_pos_left hpos).trans_le hlength
  refine ⟨hpath, rfl, htype, hread, accepted_iff.mpr ⟨⟨.mcq, .easy, "tides", ""⟩, rfl⟩, fun s => ?_⟩
  rw [serve_of_long s hpath rfl htype hsize]
  exact ⟨rfl, rfl⟩

end Service

end QuizService.Http
