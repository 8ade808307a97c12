import QuizService.Chat.Completion
import QuizService.Proofs.Http.Outcome
import QuizService.Proofs.Json.Decode
import QuizService.Proofs.Json.Value

/-!
Documents of completions. Known names stand once in them, with any members of other names around,
and they decode to the completion they are written for. Main statement: a value that a model's
reply carries as the text of its first call comes to the caller as it is.
-/

namespace QuizService

open Json (Tree valuesOf IsNullable)

inductive ToolCall.IsDocument : ToolCall → Json → Prop where
  | call {members function : List (String × Json)} {arguments : String}
    (hfunction : valuesOf members "function" = [.object function])
    (harguments : valuesOf function "arguments" = [.string arguments]) :
    IsDocument ⟨arguments⟩ (.object members)

inductive Choice.IsDocument : Choice → Json → Prop where
  | calling {members message : List (String × Json)} {calls : List ToolCall} {items : List Json}
    (hmessage : valuesOf members "message" = [.object message])
    (hcalls : valuesOf message "tool_calls" = [.array items])
    (hitems : List.Forall₂ ToolCall.IsDocument calls items) : IsDocument ⟨calls⟩ (.object members)
  | silent {members message : List (String × Json)}
    (hmessage : valuesOf members "message" = [.object message])
    (hcalls : valuesOf message "tool_calls" = []) : IsDocument ⟨[]⟩ (.object members)

def Usage.IsCount (n : UInt32) (d : Json) : Prop :=
  d = .uint32 n

inductive Usage.IsDocument : Usage → Json → Prop where
  | usage {members : List (String × Json)} {prompt completion total : Option UInt32}
    (hprompt : IsNullable IsCount prompt (valuesOf members "prompt_tokens"))
    (hcompletion : IsNullable IsCount completion (valuesOf members "completion_tokens"))
    (htotal : IsNullable IsCount total (valuesOf members "total_tokens")) :
    IsDocument ⟨prompt, completion, total⟩ (.object members)

inductive Completion.IsDocument : Completion → Json → Prop where
  | completion {members : List (String × Json)} {choices : List Choice} {items : List Json}
    {usage : Option Usage} (hchoices : valuesOf members "choices" = [.array items])
    (hitems : List.Forall₂ Choice.IsDocument choices items)
    (husage : IsNullable Usage.IsDocument usage (valuesOf members "usage")) :
    IsDocument ⟨choices, usage⟩ (.object members)

theorem ToolCall.ofTree?_document {c : ToolCall} {d : Json} (h : c.IsDocument d) :
    ofTree? d.tree = some c := by
  cases h with
  | call hfunction harguments =>
    have hfield := Json.single?_once hfunction
    have hinner := Json.single?_once harguments
    simp [ofTree?, ofFunction?, Json.fields?_object, hfield, hinner, Tree.required?,
      Json.string?_string]

theorem Choice.ofTree?_document {c : Choice} {d : Json} (h : c.IsDocument d) :
    ofTree? d.tree = some c := by
  cases h with
  | calling hmessage hcalls hitems =>
    have hlist := Json.list?_array (fun _ _ => ToolCall.ofTree?_document) hitems
    have hfield := Json.single?_once hmessage
    have hinner := Json.single?_once hcalls
    simp [ofTree?, ofMessage?, Json.fields?_object, hfield, hinner, Tree.required?,
      Tree.orDefault?, hlist]
  | silent hmessage hcalls =>
    have hfield := Json.single?_once hmessage
    have hinner := Json.single?_missing hcalls
    simp [ofTree?, ofMessage?, Json.fields?_object, hfield, hinner, Tree.required?,
      Tree.orDefault?]

theorem Usage.ofTree?_document {u : Usage} {d : Json} (h : u.IsDocument d) :
    ofTree? d.tree = some u := by
  have hdecode : ∀ n d, IsCount n d → Tree.uint32? d.tree = some n := by
    rintro n d rfl
    exact Json.uint32?_uint32 n
  cases h with
  | usage hprompt hcompletion htotal =>
    obtain ⟨a, ha, hprompt⟩ := Json.single?_nullable hdecode rfl hprompt
    obtain ⟨b, hb, hcompletion⟩ := Json.single?_nullable hdecode rfl hcompletion
    obtain ⟨c, hc, htotal⟩ := Json.single?_nullable hdecode rfl htotal
    simp [ofTree?, Json.fields?_object, ha, hb, hc, hprompt, hcompletion, htotal]

namespace Completion

theorem ofTree?_document {c : Completion} {d : Json} (h : c.IsDocument d) :
    ofTree? d.tree = some c := by
  cases h with
  | completion hchoices hitems husage =>
    have hlist := Json.list?_array (fun _ _ => Choice.ofTree?_document) hitems
    obtain ⟨u, hu, husage⟩ := Json.single?_nullable (fun _ _ => Usage.ofTree?_document) rfl husage
    have hfield := Json.single?_once hchoices
    simp [ofTree?, Json.fields?_object, hfield, hu, Tree.required?, hlist, husage]

theorem ofText?_document {c : Completion} {d : Json} (h : c.IsDocument d) :
    ofText? d.text = some c := by
  rw [ofText?, Json.ofText?_text]
  exact ofTree?_document h

variable {v d : Json} {c : Completion}

def Carries (c : Completion) (v : Json) : Prop :=
  ∃ calls choices, c.choices = ⟨⟨v.text⟩ :: calls⟩ :: choices

theorem answer_of_carries (hv : v.Exact) (hn : v.Distinct) (hd : v.depth ≤ 127)
    (h : c.Carries v) : c.answer = .ok v := by
  obtain ⟨calls, choices, hchoices⟩ := h
  rw [answer, firstCall?, hchoices]
  simp [Json.ofText?_text_of_exact hv hn hd]

theorem outcome_of_carries (hv : v.Exact) (hn : v.Distinct) (hd : v.depth ≤ 127)
    (h : c.Carries v) (hdocument : c.IsDocument d) {status : Nat} (hstatus : 200 ≤ status)
    (hlimit : status < 300) : Reply.outcome status d.text = .ok v := by
  rw [Reply.outcome, if_pos ⟨hstatus, hlimit⟩, ofText?_document hdocument]
  exact answer_of_carries hv hn hd h

open Http Service

theorem value_survives (v : Json.Plain) {d : Json} {c : Completion} (hv : v.value.Exact)
    (hdepth : v.value.depth ≤ 127) (hcarries : c.Carries v.value) (hdocument : c.IsDocument d) :
    ofText? d.text = some c ∧ c.answer = .ok v.value ∧
      ∀ (status : Nat) (ask : Model) (ds : Draws) (r : Request) (bag : Bag),
        200 ≤ status → status < 300 → r.Asks bag → Accepted bag →
        (∀ call ∈ (serve ⟨some ask, ds⟩ r).asked, ask call = Reply.outcome status d.text) →
        (serve ⟨some ask, ds⟩ r).response = reply r 200 v.value ∧
          (r.method ≠ "HEAD" → (serve ⟨some ask, ds⟩ r).response.body = v.value.text) := by
  refine ⟨ofText?_document hdocument, answer_of_carries hv v.distinct hdepth hcarries, ?_⟩
  intro status ask ds r bag hstatus hlimit hasks haccepted hask
  have houtcome := outcome_of_carries hv v.distinct hdepth hcarries hdocument hstatus hlimit
  rw [houtcome] at hask
  have hserve := serve_of_reply hasks haccepted hask
  refine ⟨hserve, fun hmethod => ?_⟩
  rw [hserve, reply, if_neg hmethod]

theorem value_survives_escaped :
    let v : Json := .object [("say \"\\\n\"", .array [.null, .int64 (-9223372036854775808)])]
    let call (arguments : String) : Json :=
      .object [("id", .string "1"), ("function", .object [("arguments", .string arguments)])]
    let d : Json := .object
      [("id", .bool true),
        ("choices", .array
          [.object [("message", .object [("tool_calls", .array [call v.text, call "no JSON"])])],
            .object [("message", .object [("role", .string "é")]), ("index", .int64 1)]]),
        ("usage", .object [("total_tokens", .uint32 7), ("prompt_tokens", .null)])]
    let r : Request := ⟨"GET", "/get_question?category=mcq&difficulty=easy&topic=tides", [], []⟩
    (serve ⟨some fun _ => Reply.outcome 200 d.text, []⟩ r).response.body = v.text := by
  intro v call d r
  have hv : v.Exact := by
    refine .object _ (List.forall_mem_singleton.mpr (.array _ ?_))
    simp only [List.forall_mem_cons]
    exact ⟨.null, .whole _, nofun⟩
  have hn : v.Distinct := by
    refine .object _ (by decide) (List.forall_mem_singleton.mpr (.array _ ?_))
    simp only [List.forall_mem_cons]
    exact ⟨.null, .number _, nofun⟩
  have hdepth : v.depth ≤ 127 := by decide
  have hcall (arguments : String) : ToolCall.IsDocument ⟨arguments⟩ (call arguments) :=
    .call rfl rfl
  have hdocument : IsDocument
      ⟨[⟨[⟨v.text⟩, ⟨"no JSON"⟩]⟩, ⟨[]⟩], some ⟨none, none, some 7⟩⟩ d :=
    .completion rfl
      (.cons (.calling rfl rfl (.cons (hcall v.text) (.cons (hcall "no JSON") .nil)))
        (.cons (.silent rfl rfl) .nil))
      (.given (.usage .null .missing (.given rfl)))
  have hasks : r.Asks (Form.bag r.query) := .query (by decide) (.inl rfl)
  have haccepted : Accepted (Form.bag r.query) :=
    accepted_iff.mpr ⟨⟨.mcq, .easy, "tides", ""⟩, by decide +kernel⟩
  obtain ⟨-, -, hserve⟩ := value_survives ⟨v, hn⟩ hv hdepth ⟨_, _, rfl⟩ hdocument
  exact (hserve 200 _ [] r _ (by decide) (by decide) hasks haccepted fun _ _ => rfl).2 (by decide)

end Completion

end QuizService
