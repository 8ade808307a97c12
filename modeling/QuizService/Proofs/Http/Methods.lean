import QuizService.Proofs.Http.Form
import QuizService.Proofs.Http.Outcome
import QuizService.Proofs.Json.Value

/-!
A question is asked for by query or by body alike. Texts by name that are written in either form
come to the same bag, and in what order the bag holds them has no part in the answer. Main
statement: both requests are served the same.
-/

namespace QuizService

def textMembers (pairs : List (String × String)) : Entries Json :=
  pairs.map fun p => (p.1, .string p.2)

theorem names_textMembers (pairs : List (String × String)) :
    (textMembers pairs).names = pairs.map Prod.fst := by
  simp [textMembers, Entries.names]

namespace Http

namespace Request

structure SendsQuery (r : Request) (pairs : List (String × String)) : Prop where
  path : r.path = "/get_question"
  method : r.method = "GET"
  query : Form.pairs r.query = pairs

structure SendsBody (r : Request) (pairs : List (String × String)) : Prop where
  path : r.path = "/get_question"
  method : r.method = "POST"
  type : r.HasJsonType
  size : r.body.length ≤ bodyLimit
  body : Json.Leading.read (Utf8.validPart r.body) = .object (.ofTexts pairs)

structure WritesQuery (r : Request) (pairs : List (String × String)) : Prop where
  method : r.method = "GET"
  uri : r.uri = "/get_question?" ++ String.ofList (Form.query pairs)

structure WritesBody (r : Request) (pairs : List (String × String)) : Prop where
  method : r.method = "POST"
  uri : r.uri = "/get_question"
  type : r.header? "content-type" = some "application/json"
  size : r.body.length ≤ bodyLimit
  body : r.body = Utf8.encode (Json.object (textMembers pairs)).text

variable {r : Request} {pairs : List (String × String)}

theorem ne_of_mem_path {c d : Char} (hc : c ∈ "/get_question".toList) (hd : d ∈ ['?', '#']) :
    decide (c ≠ d) = true := by
  have hnot : ∀ mark ∈ ['?', '#'], mark ∉ "/get_question".toList := by simp
  rw [decide_eq_true_eq]
  rintro rfl
  exact hnot c hd hc

theorem WritesQuery.origin (h : r.WritesQuery pairs) :
    r.origin = "/get_question".toList ++ '?' :: Form.query pairs := by
  have huri : r.uri.toList = "/get_question".toList ++ '?' :: Form.query pairs := by
    simp [h.uri]
  have hwhole : ∀ c ∈ r.uri.toList, decide (c ≠ '#') = true := by
    intro c hc
    rw [huri] at hc
    rcases List.mem_append.mp hc with hc | hc
    · exact ne_of_mem_path hc (by decide)
    rcases List.mem_cons.mp hc with rfl | hc
    · decide
    · exact decide_eq_true (Form.ne_of_mem_query hc)
  have hcut : (r.uri.toList ++ []).takeWhile (fun c => decide (c ≠ '#')) = r.uri.toList ++ [] :=
    List.takeWhile_append_of_pos hwhole
  rw [List.append_nil] at hcut
  rw [Request.origin, hcut, huri]
  rfl

theorem WritesQuery.path (h : r.WritesQuery pairs) : r.path = "/get_question" := by
  rw [Request.path, h.origin,
    List.takeWhile_append_of_pos fun c hc => ne_of_mem_path hc (by decide),
    List.takeWhile_cons_of_neg (by decide), List.append_nil, String.ofList_toList]

theorem WritesQuery.query (h : r.WritesQuery pairs) : r.query = Form.query pairs := by
  rw [Request.query, h.origin,
    List.dropWhile_append_of_pos fun c hc => ne_of_mem_path hc (by decide),
    List.dropWhile_cons_of_neg (by decide)]
  rfl

theorem WritesQuery.sends (h : r.WritesQuery pairs) : r.SendsQuery pairs where
  path := h.path
  method := h.method
  query := by rw [h.query, Form.pairs_query]

theorem read_textMembers (pairs : List (String × String)) :
    Json.Leading.read (Json.object (textMembers pairs)).chars = .object (.ofTexts pairs) := by
  have hmembers : ∀ m ∈ textMembers pairs, m.2.tree.value? 126 = some m.2 := by
    intro m hm
    obtain ⟨p, -, rfl⟩ := List.mem_map.mp hm
    simp [Json.tree, Json.Tree.value?]
  obtain ⟨hdistinct, hread⟩ := @Json.read_object _ hmembers [] trivial
  rw [List.append_nil] at hread
  exact hread

theorem WritesBody.sends (h : r.WritesBody pairs) : r.SendsBody pairs where
  path := by
    rw [Request.path, Request.origin, h.uri]
    decide
  method := h.method
  type := ⟨_, _, h.type, rfl, rfl⟩
  size := h.size
  body := by rw [h.body, Utf8.validPart_encode, Json.toList_text, read_textMembers]

theorem SendsQuery.asks (h : r.SendsQuery pairs) : r.Asks (.ofTexts pairs) := by
  have hasks := Asks.query h.path (.inl h.method)
  rwa [Form.bag, h.query] at hasks

theorem SendsBody.asks (h : r.SendsBody pairs) : r.Asks (.ofTexts pairs) :=
  .body h.path h.method h.type h.size h.body

theorem asks_of_sends (h : r.SendsQuery pairs ∨ r.SendsBody pairs) :
    r.Asks (.ofTexts pairs) ∧ r.method ≠ "HEAD" := by
  rcases h with h | h
  · refine ⟨h.asks, ?_⟩
    rw [h.method]
    decide
  · refine ⟨h.asks, ?_⟩
    rw [h.method]
    decide

end Request

/-- The same response to the same calls, but for the order of the choices of a question. -/
inductive UpToChoices : Served → Served → Prop where
  | same (served : Served) : UpToChoices served served
  | arranged (status : Nat) (headers : List (String × String)) (asked : List ModelCall)
    {record : Entries Json} {items arranged : List Json}
    (hitems : record.get? "choices" = some (.array items)) (hperm : arranged.Perm items) :
    UpToChoices
      ⟨⟨status, headers, (Json.object [("question", .object record)]).text⟩, asked⟩
      ⟨⟨status, headers,
        (Json.object [("question", .object (record.put "choices" (.array arranged)))]).text⟩, asked⟩

namespace Service

variable {r other : Request} {bag raw : Bag} {pairs : List (String × String)}

theorem answered_eq (hr : r.method ≠ "HEAD") (ho : other.method ≠ "HEAD") (g : Generated) :
    answered r g = answered other g := by
  rw [answered, answered, Served.forMethod, Served.forMethod, if_neg hr, if_neg ho]

theorem serve_congr (hr : r.Asks bag) (ho : other.Asks raw) (hrm : r.method ≠ "HEAD")
    (hom : other.method ≠ "HEAD") (h : ∀ name, bag.members.get? name = raw.members.get? name)
    (s : Service) :
    s.serve r = s.serve other := by
  rw [serve_of_asks s hr, serve_of_asks s ho, Generated.ofBag_congr_bag h, answered_eq hrm hom]

theorem upToChoices_draws (hr : r.Asks bag) (hrm : r.method ≠ "HEAD") (ds ds' : Draws) :
    UpToChoices (serve ⟨none, ds⟩ r) (serve ⟨none, ds'⟩ r) := by
  rw [serve_of_asks _ hr, serve_of_asks _ hr]
  rcases Generated.ofBag_none_draws ds ds' bag with
    hsame | ⟨record, items, arranged, hitems, hperm, hfirst, hsecond⟩
  · rw [hsame]
    exact .same _
  · rw [hfirst, hsecond, answered_ok rfl, answered_ok rfl, reply, reply, if_neg hrm, if_neg hrm]
    exact .arranged _ _ _ hitems hperm

theorem serve_draws (hr : r.Asks bag) (ask : Model) (ds ds' : Draws) :
    serve ⟨some ask, ds⟩ r = serve ⟨some ask, ds'⟩ r := by
  rw [serve_of_asks _ hr, serve_of_asks _ hr, Generated.ofBag_draws ask ds ds']

theorem get?_textMembers_perm {others : List (String × String)} (h : others.Perm pairs)
    (hn : (pairs.map Prod.fst).Nodup) (name : String) :
    (Bag.ofTexts others).members.get? name = (Bag.ofTexts pairs).members.get? name := by
  have hothers : (textMembers others).names.Nodup := by
    rw [names_textMembers]
    exact (h.map Prod.fst).nodup_iff.mpr hn
  have hpairs : (textMembers pairs).names.Nodup := by rwa [names_textMembers]
  have hmembers : (Bag.ofTexts others).members = textMembers others := Entries.putAll_nil hothers
  have hmembers' : (Bag.ofTexts pairs).members = textMembers pairs := Entries.putAll_nil hpairs
  rw [hmembers, hmembers']
  exact Entries.get?_perm (h.map _) hothers name

theorem serve_either_way {get post : Request} (hget : get.SendsQuery pairs)
    (hpost : post.SendsBody pairs) :
    (∃ bag : Bag, get.Asks bag ∧ post.Asks bag ∧
      ∀ name, bag.members.get? name = Entries.get? (textMembers pairs).reverse name) ∧
    (∀ ask ds ds', serve ⟨some ask, ds⟩ get = serve ⟨some ask, ds'⟩ post) ∧
    (∀ ds ds', UpToChoices (serve ⟨none, ds⟩ get) (serve ⟨none, ds'⟩ post)) ∧
    (∀ s : Service, s.serve get = s.serve post) ∧
    (∀ (s : Service) (raw : Entries Json), raw.Perm (Form.bag get.query).members →
      answered get (.ofBag s.model s.draws raw) = s.serve get) ∧
    (∀ others : List (String × String), others.Perm pairs → (pairs.map Prod.fst).Nodup →
      ∀ r : Request, r.SendsQuery others ∨ r.SendsBody others →
        ∀ s : Service, s.serve r = s.serve get) ∧
    ∀ (r : Request) (written : List (String × String)),
      (r.WritesQuery written → r.SendsQuery written) ∧
        (r.WritesBody written → r.SendsBody written) := by
  obtain ⟨hgetAsks, hgetMethod⟩ := Request.asks_of_sends (.inl hget)
  obtain ⟨hpostAsks, hpostMethod⟩ := Request.asks_of_sends (.inr hpost)
  have hsame (s : Service) : s.serve get = s.serve post :=
    serve_congr hgetAsks hpostAsks hgetMethod hpostMethod (fun _ => rfl) s
  refine ⟨⟨_, hgetAsks, hpostAsks, fun name => ?_⟩, ?_, ?_, hsame, ?_, ?_,
    fun r written => ⟨Request.WritesQuery.sends, Request.WritesBody.sends⟩⟩
  · have hlast := Entries.get?_putAll_reverse [] (textMembers pairs) name
    rwa [Entries.get?, Option.or_none] at hlast
  · intro ask ds ds'
    rw [hsame]
    exact serve_draws hpostAsks ask ds ds'
  · intro ds ds'
    rw [hsame]
    exact upToChoices_draws hpostAsks hpostMethod ds ds'
  · intro s raw hperm
    have hfound := Entries.get?_perm hperm.symm (Form.bag get.query).names_nodup
    rw [serve_of_asks s (.query hget.path (.inl hget.method)), Generated.ofBag_congr_bag hfound]
  · intro others hperm hn r hr s
    obtain ⟨hasks, hmethod⟩ := Request.asks_of_sends hr
    exact serve_congr hasks hgetAsks hmethod hgetMethod (get?_textMembers_perm hperm hn) s

theorem serve_either_way_reordered :
    let pairs := [("category", "mcq"), ("topic", "ebb & flow, 50% \"é\""), ("x=y", "1+1"),
      ("difficulty", "hard")]
    let ask : Model := fun c => .ok (.string c.context.topic)
    let get : Request := ⟨"GET", "/get_question?" ++ String.ofList (Form.query pairs), [], []⟩
    let post (members : List (String × String)) : Request :=
      ⟨"POST", "/get_question", [("Content-Type", "application/json")],
        Utf8.encode (Json.object (textMembers members)).text⟩
    (serve ⟨some ask, []⟩ get).response.body = "\"ebb & flow, 50% \\\"é\\\"\"" ∧
      serve ⟨some ask, []⟩ get = serve ⟨some ask, [7]⟩ (post pairs) ∧
      serve ⟨some ask, []⟩ (post pairs.reverse) = serve ⟨some ask, []⟩ get := by
  intro pairs ask get post
  have hget : get.WritesQuery pairs := ⟨rfl, rfl⟩
  have hname : "Content-Type".map Char.toLower = "content-type" := by decide +kernel
  have hpost (members : List (String × String)) (hsize : (post members).body.length ≤ bodyLimit) :
      (post members).SendsBody members :=
    Request.WritesBody.sends ⟨rfl, rfl, by simp [post, Request.header?, hname], hsize, rfl⟩
  obtain ⟨-, hdraws, -, -, -, hreordered, -⟩ :=
    serve_either_way hget.sends (hpost pairs (by decide +kernel))
  refine ⟨by decide +kernel, hdraws ask [] [7], ?_⟩
  exact hreordered pairs.reverse (List.reverse_perm pairs) (by decide) (post pairs.reverse)
    (.inr (hpost pairs.reverse (by decide +kernel))) ⟨some ask, []⟩

end Service

end Http

end QuizService
