import QuizService.Proofs.Chat.Delivery
import QuizService.Proofs.Json.Decode
import QuizService.Proofs.Json.Value

/-!
What a reply comes to. Its body is told by the trees of its parts: a call with its arguments, a
choice with the list of its calls, a completion with the list of its choices. Main statement: the
status goes before the body, the whole body before its first choice, and the first choice and its
first call before all others.
-/

namespace QuizService

open Json (Tree)

structure ToolCall.IsWritten (arguments : String) (t : Tree) : Prop where
  fields : ∃ function, t.fields? ["function"] = some [some function] ∧
    function.fields? ["arguments"] = some [some (.string (some arguments))]

inductive Choice.Lists (t : Tree) : List Tree → Prop where
  | calling {message : Tree} {calls : List Tree}
    (hmessage : t.fields? ["message"] = some [some message])
    (hcalls : message.fields? ["tool_calls"] = some [some (.array calls)]) : Lists t calls
  | silent {message : Tree} (hmessage : t.fields? ["message"] = some [some message])
    (hcalls : message.fields? ["tool_calls"] = some [none]) : Lists t []

structure Choice.IsWritten (t : Tree) : Prop where
  calls : ∃ calls, Lists t calls ∧ ∀ call ∈ calls, ∃ arguments, ToolCall.IsWritten arguments call

def Usage.IsTreeCount (t : Tree) : Prop :=
  ∃ n : UInt32, t = .number (some (.whole (.ofUInt32 n)))

structure Usage.IsWritten (t : Tree) : Prop where
  fields : ∃ prompt completion total,
    t.fields? ["prompt_tokens", "completion_tokens", "total_tokens"] =
        some [prompt, completion, total] ∧
      Tree.IsOptional IsTreeCount prompt ∧ Tree.IsOptional IsTreeCount completion ∧
      Tree.IsOptional IsTreeCount total

inductive Completion.Lists (t : Tree) : List Tree → Prop where
  | choices {items : List Tree} {usage : Option Tree}
    (hfields : t.fields? ["choices", "usage"] = some [some (.array items), usage])
    (husage : Tree.IsOptional Usage.IsWritten usage) : Lists t items

structure Completion.IsWritten (t : Tree) : Prop where
  choices : ∃ choices, Lists t choices ∧ ∀ choice ∈ choices, Choice.IsWritten choice

theorem ToolCall.ofFunction?_eq_some_iff {t : Tree} {c : ToolCall} :
    ofFunction? t = some c ↔
      t.fields? ["arguments"] = some [some (.string (some c.arguments))] := by
  obtain ⟨arguments⟩ := c
  unfold ofFunction?
  simp only [Option.bind_eq_bind, Option.bind_eq_some_iff]
  constructor
  · rintro ⟨fields, hfields, h⟩
    split at h
    · simp only [Option.bind_eq_some_iff, Tree.required?_eq_some_iff, Tree.string?_eq_some_iff] at h
      obtain ⟨s, ⟨t, rfl, rfl⟩, h⟩ := h
      cases h
      exact hfields
    · contradiction
  · intro h
    exact ⟨_, h, rfl⟩

theorem ToolCall.ofTree?_eq_some_iff {t : Tree} {c : ToolCall} :
    ofTree? t = some c ↔ IsWritten c.arguments t := by
  unfold ofTree?
  simp only [Option.bind_eq_bind, Option.bind_eq_some_iff]
  constructor
  · rintro ⟨fields, hfields, h⟩
    split at h
    · obtain ⟨function, rfl, h⟩ := Tree.required?_eq_some_iff.mp h
      exact ⟨function, hfields, ofFunction?_eq_some_iff.mp h⟩
    · contradiction
  · rintro ⟨function, hfields, h⟩
    exact ⟨_, hfields, ofFunction?_eq_some_iff.mpr h⟩

theorem Choice.ofMessage?_eq_some_iff {t : Tree} {c : Choice} :
    ofMessage? t = some c ↔ ∃ field, t.fields? ["tool_calls"] = some [field] ∧
      Tree.orDefault? [] (Tree.list? ToolCall.ofTree?) field = some c.calls := by
  obtain ⟨calls⟩ := c
  unfold ofMessage?
  simp only [Option.bind_eq_bind, Option.bind_eq_some_iff]
  constructor
  · rintro ⟨fields, hfields, h⟩
    split at h
    · rename_i field
      obtain ⟨calls, hcalls, h⟩ := Option.bind_eq_some_iff.mp h
      cases h
      exact ⟨field, hfields, hcalls⟩
    · contradiction
  · rintro ⟨field, hfields, hcalls⟩
    exact ⟨_, hfields, Option.bind_eq_some_iff.mpr ⟨_, hcalls, rfl⟩⟩

theorem Choice.ofTree?_eq_some_iff {t : Tree} {c : Choice} :
    ofTree? t = some c ↔ ∃ items, Lists t items ∧
      List.Forall₂ (fun call item => ToolCall.IsWritten call.arguments item) c.calls items := by
  unfold ofTree?
  simp only [Option.bind_eq_bind, Option.bind_eq_some_iff]
  constructor
  · rintro ⟨fields, hfields, h⟩
    split at h
    · obtain ⟨message, rfl, h⟩ := Tree.required?_eq_some_iff.mp h
      obtain ⟨field, hfield, h⟩ := ofMessage?_eq_some_iff.mp h
      cases field with
      | none =>
        have hnil : c.calls = [] := (Option.some.inj h).symm
        exact ⟨[], .silent hfields hfield, hnil ▸ .nil⟩
      | some t =>
        obtain ⟨items, rfl, hitems⟩ := Tree.list?_eq_some_iff.mp h
        simp only [ToolCall.ofTree?_eq_some_iff] at hitems
        exact ⟨items, .calling hfields hfield, hitems⟩
    · contradiction
  · rintro ⟨items, hlists, hitems⟩
    cases hlists with
    | calling hmessage hcalls =>
      simp only [← ToolCall.ofTree?_eq_some_iff] at hitems
      have hlist := Tree.list?_eq_some_iff.mpr ⟨items, rfl, hitems⟩
      exact ⟨_, hmessage, ofMessage?_eq_some_iff.mpr ⟨_, hcalls, hlist⟩⟩
    | silent hmessage hcalls =>
      have hnil : c.calls = [] := List.forall₂_nil_right_iff.mp hitems
      exact ⟨_, hmessage, ofMessage?_eq_some_iff.mpr ⟨_, hcalls, congrArg some hnil.symm⟩⟩

theorem Usage.exists_count_iff {t : Tree} : (∃ n, t.uint32? = some n) ↔ IsTreeCount t :=
  exists_congr fun _ => Tree.uint32?_eq_some_iff

theorem Usage.exists_ofTree?_iff {t : Tree} : (∃ u, ofTree? t = some u) ↔ IsWritten t := by
  have hcount (field : Option Tree) :
      (∃ n, Tree.orDefault? none (Tree.nullable? Tree.uint32?) field = some n) ↔
        Tree.IsOptional IsTreeCount field := by
    simp only [Tree.exists_nullable?_iff, exists_count_iff]
  unfold ofTree?
  simp only [Option.bind_eq_bind, Option.bind_eq_some_iff]
  constructor
  · rintro ⟨u, fields, hfields, h⟩
    split at h
    · simp only [Option.bind_eq_some_iff] at h
      obtain ⟨prompt, hprompt, completion, hcompletion, total, htotal, -⟩ := h
      exact ⟨_, _, _, hfields, (hcount _).mp ⟨_, hprompt⟩, (hcount _).mp ⟨_, hcompletion⟩,
        (hcount _).mp ⟨_, htotal⟩⟩
    · contradiction
  · rintro ⟨a, b, c, hfields, hprompt, hcompletion, htotal⟩
    obtain ⟨prompt, hprompt⟩ := (hcount a).mpr hprompt
    obtain ⟨completion, hcompletion⟩ := (hcount b).mpr hcompletion
    obtain ⟨total, htotal⟩ := (hcount c).mpr htotal
    exact ⟨⟨prompt, completion, total⟩, _, hfields, by simp [hprompt, hcompletion, htotal]⟩

namespace Completion

variable {t : Tree}

theorem Lists.eq {a b : List Tree} (ha : Lists t a) (hb : Lists t b) : a = b := by
  obtain ⟨hfields, -⟩ := ha
  obtain ⟨hfields', -⟩ := hb
  rw [hfields] at hfields'
  simp_all

theorem ofTree?_eq_some_iff {choices : List Choice} :
    (∃ usage, ofTree? t = some ⟨choices, usage⟩) ↔ ∃ items, Lists t items ∧
      List.Forall₂ (fun choice item => Choice.ofTree? item = some choice) choices items := by
  unfold ofTree?
  simp only [Option.bind_eq_bind, Option.bind_eq_some_iff]
  constructor
  · rintro ⟨usage, fields, hfields, h⟩
    split at h
    · rename_i listed used
      simp only [Option.bind_eq_some_iff, Option.some.injEq, mk.injEq] at h
      obtain ⟨choices, hchoices, usage, husage, rfl, rfl⟩ := h
      obtain ⟨field, rfl, hlist⟩ := Tree.required?_eq_some_iff.mp hchoices
      obtain ⟨items, rfl, hitems⟩ := Tree.list?_eq_some_iff.mp hlist
      have hused : Tree.IsOptional Usage.IsWritten used := by
        simpa only [Usage.exists_ofTree?_iff] using Tree.exists_nullable?_iff.mp ⟨_, husage⟩
      exact ⟨items, .choices hfields hused, hitems⟩
    · contradiction
  · rintro ⟨items, ⟨hfields, hused⟩, hitems⟩
    have hlist := Tree.list?_eq_some_iff.mpr ⟨items, rfl, hitems⟩
    obtain ⟨usage, husage⟩ : ∃ u, Tree.orDefault? none (Tree.nullable? Usage.ofTree?) _ = some u :=
      Tree.exists_nullable?_iff.mpr (by simpa only [Usage.exists_ofTree?_iff] using hused)
    exact ⟨usage, _, hfields, by simp [Tree.required?, hlist, husage]⟩

end Completion

theorem ToolCall.IsWritten.eq {a b : String} {t : Tree} (ha : IsWritten a t) (hb : IsWritten b t) :
    a = b := by
  have hfirst : ofTree? t = some ⟨a⟩ := ofTree?_eq_some_iff.mpr ha
  have hsecond : ofTree? t = some ⟨b⟩ := ofTree?_eq_some_iff.mpr hb
  rw [hfirst] at hsecond
  exact congrArg arguments (Option.some.inj hsecond)

namespace Choice

variable {t : Tree}

theorem Lists.eq {a b : List Tree} (ha : Lists t a) (hb : Lists t b) : a = b := by
  cases ha with
  | calling hmessage hcalls =>
    cases hb with
    | calling hmessage' hcalls' => simp_all
    | silent hmessage' hcalls' => simp_all
  | silent hmessage hcalls =>
    cases hb with
    | calling hmessage' hcalls' => simp_all
    | silent hmessage' hcalls' => rfl

theorem Lists.isWritten_iff {calls : List Tree} (h : Lists t calls) :
    IsWritten t ↔ ∀ call ∈ calls, ∃ arguments, ToolCall.IsWritten arguments call := by
  constructor
  · rintro ⟨calls', h', hwritten⟩
    rwa [h.eq h']
  · exact fun hwritten => ⟨calls, h, hwritten⟩

theorem exists_ofTree?_iff : (∃ c, ofTree? t = some c) ↔ IsWritten t := by
  constructor
  · rintro ⟨c, h⟩
    obtain ⟨items, hlists, hitems⟩ := ofTree?_eq_some_iff.mp h
    have hcalls := Tree.exists_forall₂_iff.mp ⟨c.calls, hitems⟩
    exact ⟨items, hlists, fun call hcall => (hcalls call hcall).imp' _ fun _ h => h⟩
  · rintro ⟨items, hlists, hitems⟩
    obtain ⟨calls, hcalls⟩ : ∃ calls : List ToolCall,
        List.Forall₂ (fun call item => ToolCall.IsWritten call.arguments item) calls items :=
      Tree.exists_forall₂_iff.mpr fun item hitem =>
        (hitems item hitem).imp' ToolCall.mk fun _ h => h
    exact ⟨⟨calls⟩, ofTree?_eq_some_iff.mpr ⟨items, hlists, hcalls⟩⟩

end Choice

namespace Completion

theorem Lists.isWritten_iff {choices : List Tree} (h : Lists t choices) :
    IsWritten t ↔ ∀ choice ∈ choices, Choice.IsWritten choice := by
  constructor
  · rintro ⟨choices', h', hwritten⟩
    rwa [h.eq h']
  · exact fun hwritten => ⟨choices, h, hwritten⟩

theorem exists_ofTree?_iff : (∃ c, ofTree? t = some c) ↔ IsWritten t := by
  have hsplit : (∃ c, ofTree? t = some c) ↔ ∃ choices usage, ofTree? t = some ⟨choices, usage⟩ :=
    ⟨fun ⟨c, h⟩ => ⟨c.choices, c.usage, h⟩, fun ⟨_, _, h⟩ => ⟨_, h⟩⟩
  simp only [hsplit, ofTree?_eq_some_iff]
  constructor
  · rintro ⟨choices, items, hlists, hitems⟩
    have hchoices := Tree.exists_forall₂_iff.mp ⟨choices, hitems⟩
    exact ⟨items, hlists, fun item hitem => Choice.exists_ofTree?_iff.mp (hchoices item hitem)⟩
  · rintro ⟨items, hlists, hitems⟩
    obtain ⟨choices, hchoices⟩ := Tree.exists_forall₂_iff.mpr fun item hitem =>
      Choice.exists_ofTree?_iff.mpr (hitems item hitem)
    exact ⟨choices, items, hlists, hchoices⟩

inductive BeginsWith (t : Tree) : Option String → Prop where
  | empty (hchoices : Lists t []) : BeginsWith t none
  | silent {choice : Tree} {choices : List Tree} (hchoices : Lists t (choice :: choices))
    (hcalls : Choice.Lists choice []) : BeginsWith t none
  | calling {choice call : Tree} {choices calls : List Tree} {arguments : String}
    (hchoices : Lists t (choice :: choices)) (hcalls : Choice.Lists choice (call :: calls))
    (hcall : ToolCall.IsWritten arguments call) : BeginsWith t (some arguments)

theorem BeginsWith.eq {a b : Option String} (ha : BeginsWith t a) (hb : BeginsWith t b) :
    a = b := by
  cases ha with
  | empty hchoices =>
    cases hb with
    | empty => rfl
    | silent => rfl
    | calling hchoices' => cases hchoices.eq hchoices'
  | silent hchoices hcalls =>
    cases hb with
    | empty => rfl
    | silent => rfl
    | calling hchoices' hcalls' =>
      cases hchoices.eq hchoices'
      cases hcalls.eq hcalls'
  | calling hchoices hcalls hcall =>
    cases hb with
    | empty hchoices' => cases hchoices.eq hchoices'
    | silent hchoices' hcalls' =>
      cases hchoices.eq hchoices'
      cases hcalls.eq hcalls'
    | calling hchoices' hcalls' hcall' =>
      cases hchoices.eq hchoices'
      cases hcalls.eq hcalls'
      rw [hcall.eq hcall']

theorem beginsWith_of_ofTree? {c : Completion} (h : ofTree? t = some c) :
    BeginsWith t (c.firstCall?.map ToolCall.arguments) := by
  obtain ⟨choices, usage⟩ := c
  obtain ⟨items, hlists, hitems⟩ := ofTree?_eq_some_iff.mp ⟨usage, h⟩
  cases hitems with
  | nil => exact .empty hlists
  | @cons choice _ _ _ hchoice =>
    obtain ⟨items, hcalls, hwritten⟩ := Choice.ofTree?_eq_some_iff.mp hchoice
    obtain ⟨calls⟩ := choice
    dsimp only at hwritten
    cases hwritten with
    | nil => exact .silent hlists hcalls
    | cons hcall => exact .calling hlists hcalls hcall

theorem IsWritten.exists_beginsWith (h : IsWritten t) : ∃ first, BeginsWith t first := by
  obtain ⟨c, hc⟩ := exists_ofTree?_iff.mpr h
  exact ⟨_, beginsWith_of_ofTree? hc⟩

inductive HasFlaw (t : Tree) : Prop where
  | choice {choice : Tree} {choices : List Tree} (hchoices : Lists t choices)
    (hchoice : choice ∈ choices) (h : ¬Choice.IsWritten choice)
  | call {choice call : Tree} {choices calls : List Tree} (hchoices : Lists t choices)
    (hchoice : choice ∈ choices) (hcalls : Choice.Lists choice calls) (hcall : call ∈ calls)
    (h : ∀ arguments, ¬ToolCall.IsWritten arguments call)

theorem HasFlaw.not_isWritten (h : HasFlaw t) : ¬IsWritten t := by
  intro hwritten
  cases h with
  | choice hchoices hchoice h => exact h (hchoices.isWritten_iff.mp hwritten _ hchoice)
  | call hchoices hchoice hcalls hcall h =>
    have hall := hcalls.isWritten_iff.mp (hchoices.isWritten_iff.mp hwritten _ hchoice)
    obtain ⟨arguments, hwritten⟩ := hall _ hcall
    exact h arguments hwritten

/-- Well-formed choices are added after the others, or well-formed calls after the others of the
first choice. -/
inductive Grows (t t' : Tree) : Prop where
  | choices {choices more : List Tree} (hne : choices ≠ []) (h : Lists t choices)
    (h' : Lists t' (choices ++ more)) (hmore : ∀ choice ∈ more, Choice.IsWritten choice)
  | calls {choice choice' : Tree} {choices calls more : List Tree} (hne : calls ≠ [])
    (h : Lists t (choice :: choices)) (h' : Lists t' (choice' :: choices))
    (hcalls : Choice.Lists choice calls) (hcalls' : Choice.Lists choice' (calls ++ more))
    (hmore : ∀ call ∈ more, ∃ arguments, ToolCall.IsWritten arguments call)

variable {t' : Tree}

theorem Grows.isWritten_iff (h : Grows t t') : IsWritten t' ↔ IsWritten t := by
  cases h with
  | choices hne h h' hmore =>
    rw [h.isWritten_iff, h'.isWritten_iff, List.forall_mem_append]
    exact and_iff_left hmore
  | calls hne h h' hcalls hcalls' hmore =>
    rw [h.isWritten_iff, h'.isWritten_iff, List.forall_mem_cons, List.forall_mem_cons,
      hcalls.isWritten_iff, hcalls'.isWritten_iff, List.forall_mem_append, and_iff_left hmore]

theorem Grows.beginsWith {first : Option String} (h : Grows t t') (hfirst : BeginsWith t first) :
    BeginsWith t' first := by
  cases h with
  | choices hne h h' hmore =>
    cases hfirst with
    | empty hchoices => exact absurd (h.eq hchoices) hne
    | silent hchoices hcalls =>
      obtain rfl := h.eq hchoices
      exact .silent h' hcalls
    | calling hchoices hcalls hcall =>
      obtain rfl := h.eq hchoices
      exact .calling h' hcalls hcall
  | calls hne h h' hcalls hcalls' hmore =>
    cases hfirst with
    | empty hchoices => cases h.eq hchoices
    | silent hchoices hnone =>
      cases h.eq hchoices
      exact absurd (hcalls.eq hnone) hne
    | calling hchoices hlisted hcall =>
      cases h.eq hchoices
      obtain rfl := hcalls.eq hlisted
      exact .calling h' hcalls' hcall

end Completion

namespace Reply

def SaysError (body message : String) : Prop :=
  ∃ t e, Tree.ofText? body = some t ∧ t.fields? ["error"] = some [some e] ∧
    e.fields? ["message"] = some [some (.string (some message))]

theorem errorMessage?_eq_some_iff {body message : String} :
    errorMessage? body = some message ↔ SaysError body message := by
  unfold errorMessage?
  simp only [Option.bind_eq_bind, Option.bind_eq_some_iff]
  constructor
  · rintro ⟨t, ht, fields, hfields, h⟩
    split at h
    · rename_i e
      obtain ⟨inner, hinner, h⟩ := Option.bind_eq_some_iff.mp h
      split at h
      · obtain ⟨m, rfl, hm⟩ := Tree.required?_eq_some_iff.mp h
        obtain rfl := Tree.string?_eq_some_iff.mp hm
        exact ⟨t, e, ht, hfields, hinner⟩
      · contradiction
    · contradiction
  · rintro ⟨t, e, ht, hfields, hinner⟩
    exact ⟨t, ht, _, hfields, Option.bind_eq_some_iff.mpr ⟨_, hinner, rfl⟩⟩

/-- What a status and a body mean: the status comes before the body, the whole body before its
first call, and no call but the first of the first choice counts. -/
inductive Means (status : ℕ) (body : String) : Except RequestError Json → Prop where
  | refused {message : String} (hstatus : ¬(200 ≤ status ∧ status < 300))
    (hbody : SaysError body message) : Means status body (.error (.status status message))
  | unexplained (hstatus : ¬(200 ≤ status ∧ status < 300))
    (hbody : ∀ message, ¬SaysError body message) :
    Means status body (.error (.status status (Excerpt.excerpt 200 body)))
  | unreadable (hstatus : 200 ≤ status ∧ status < 300)
    (hbody : ∀ t, Tree.ofText? body = some t → ¬Completion.IsWritten t) :
    Means status body (.error .transport)
  | uncalled {t : Tree} (hstatus : 200 ≤ status ∧ status < 300) (ht : Tree.ofText? body = some t)
    (hbody : Completion.IsWritten t) (hfirst : Completion.BeginsWith t none) :
    Means status body (.error .missingToolCall)
  | garbled {t : Tree} {arguments : String} (hstatus : 200 ≤ status ∧ status < 300)
    (ht : Tree.ofText? body = some t) (hbody : Completion.IsWritten t)
    (hfirst : Completion.BeginsWith t (some arguments)) (hvalue : Json.ofText? arguments = none) :
    Means status body (.error .undecodable)
  | answered {t : Tree} {arguments : String} {v : Json} (hstatus : 200 ≤ status ∧ status < 300)
    (ht : Tree.ofText? body = some t) (hbody : Completion.IsWritten t)
    (hfirst : Completion.BeginsWith t (some arguments))
    (hvalue : Json.ofText? arguments = some v) : Means status body (.ok v)

variable {status : ℕ} {body : String} {t : Tree}

theorem outcome_of_not_success (hstatus : ¬(200 ≤ status ∧ status < 300)) :
    outcome status body =
      .error (.status status ((errorMessage? body).getD (Excerpt.excerpt 200 body))) := by
  rw [outcome, if_neg hstatus, shownBytes]

theorem outcome_of_unreadable (hstatus : 200 ≤ status ∧ status < 300)
    (hbody : ∀ t, Tree.ofText? body = some t → ¬Completion.IsWritten t) :
    outcome status body = .error .transport := by
  have hnone : Completion.ofText? body = none := by
    rw [Option.eq_none_iff_forall_ne_some]
    intro c h
    obtain ⟨t, ht, h⟩ := Option.bind_eq_some_iff.mp h
    exact hbody t ht (Completion.exists_ofTree?_iff.mp ⟨c, h⟩)
  rw [outcome, if_pos hstatus, hnone]

def ofFirst : Option String → Except RequestError Json
  | none => .error .missingToolCall
  | some arguments =>
    match Json.ofText? arguments with
    | none => .error .undecodable
    | some v => .ok v

theorem outcome_of_beginsWith {first : Option String} (hstatus : 200 ≤ status ∧ status < 300)
    (ht : Tree.ofText? body = some t) (hbody : Completion.IsWritten t)
    (hfirst : Completion.BeginsWith t first) : outcome status body = ofFirst first := by
  obtain ⟨c, hc⟩ := Completion.exists_ofTree?_iff.mpr hbody
  have htext : Completion.ofText? body = some c := Option.bind_eq_some_iff.mpr ⟨t, ht, hc⟩
  rw [hfirst.eq (Completion.beginsWith_of_ofTree? hc), outcome, if_pos hstatus, htext]
  dsimp only
  rw [Completion.answer]
  cases c.firstCall? <;> rfl

theorem outcome_of_grows {body' : String} {t' : Tree} (hstatus : 200 ≤ status ∧ status < 300)
    (ht : Tree.ofText? body = some t) (ht' : Tree.ofText? body' = some t')
    (h : Completion.Grows t t') : outcome status body' = outcome status body := by
  by_cases hbody : Completion.IsWritten t
  · obtain ⟨first, hfirst⟩ := hbody.exists_beginsWith
    rw [outcome_of_beginsWith hstatus ht hbody hfirst,
      outcome_of_beginsWith hstatus ht' (h.isWritten_iff.mpr hbody) (h.beginsWith hfirst)]
  · -- What is not well formed stays so, since all that is added is.
    have hbody' : ¬Completion.IsWritten t' := fun h' => hbody (h.isWritten_iff.mp h')
    rw [outcome_of_unreadable hstatus (by simpa [ht'] using hbody'),
      outcome_of_unreadable hstatus (by simpa [ht] using hbody)]

theorem means_outcome : Means status body (outcome status body) := by
  -- The cases are taken in the order of precedence: the status, the whole body, its first call.
  by_cases hstatus : 200 ≤ status ∧ status < 300
  · by_cases hbody : ∃ t, Tree.ofText? body = some t ∧ Completion.IsWritten t
    · obtain ⟨t, ht, hbody⟩ := hbody
      obtain ⟨first, hfirst⟩ := hbody.exists_beginsWith
      rw [outcome_of_beginsWith hstatus ht hbody hfirst]
      cases first with
      | none => exact .uncalled hstatus ht hbody hfirst
      | some arguments =>
        rw [ofFirst]
        cases hvalue : Json.ofText? arguments with
        | none => exact .garbled hstatus ht hbody hfirst hvalue
        | some v => exact .answered hstatus ht hbody hfirst hvalue
    · have hbody (t : Tree) (ht : Tree.ofText? body = some t) : ¬Completion.IsWritten t :=
        fun h => hbody ⟨t, ht, h⟩
      rw [outcome_of_unreadable hstatus hbody]
      exact .unreadable hstatus hbody
  · rw [outcome_of_not_success hstatus]
    cases hmessage : errorMessage? body with
    | none =>
      refine .unexplained hstatus fun message h => ?_
      rw [errorMessage?_eq_some_iff.mpr h] at hmessage
      contradiction
    | some message => exact .refused hstatus (errorMessage?_eq_some_iff.mp hmessage)

theorem Means.outcome_eq {result : Except RequestError Json} (h : Means status body result) :
    outcome status body = result := by
  cases h with
  | refused hstatus hbody =>
    rw [outcome_of_not_success hstatus, errorMessage?_eq_some_iff.mpr hbody, Option.getD_some]
  | unexplained hstatus hbody =>
    have hnone : errorMessage? body = none :=
      Option.eq_none_iff_forall_ne_some.mpr fun m h => hbody m (errorMessage?_eq_some_iff.mp h)
    rw [outcome_of_not_success hstatus, hnone, Option.getD_none]
  | unreadable hstatus hbody => exact outcome_of_unreadable hstatus hbody
  | uncalled hstatus ht hbody hfirst => exact outcome_of_beginsWith hstatus ht hbody hfirst
  | garbled hstatus ht hbody hfirst hvalue =>
    rw [outcome_of_beginsWith hstatus ht hbody hfirst, ofFirst, hvalue]
  | answered hstatus ht hbody hfirst hvalue =>
    rw [outcome_of_beginsWith hstatus ht hbody hfirst, ofFirst, hvalue]

theorem outcome_classified (status : ℕ) (body : String) :
    (∀ result, outcome status body = result ↔ Means status body result) ∧
      (200 ≤ status ∧ status < 300 → ∀ t, Tree.ofText? body = some t →
        (Completion.HasFlaw t → outcome status body = .error .transport) ∧
          ∀ body' t', Tree.ofText? body' = some t' →
            (Completion.Grows t t' → outcome status body' = outcome status body) ∧
              ∀ first, Completion.IsWritten t → Completion.IsWritten t' →
                Completion.BeginsWith t first → Completion.BeginsWith t' first →
                outcome status body' = outcome status body) ∧
      (∀ (c : ChatClient) (r : ChatReply) (call : ModelCall) (nonce : ℕ) (request : ChatRequest),
        c.request? call nonce = some request → r.Delivers status body →
        c.outcome (some r) call nonce = outcome status body) ∧
      ∀ s, Json.ofText? s = none ↔
        ∀ t, Tree.ofText? s = some t → t.LacksValue ∨ Json.depthLimit < t.depth := by
  refine ⟨fun result => ⟨?_, Means.outcome_eq⟩, ?_, ?_, fun _ => Json.ofText?_eq_none_iff⟩
  · rintro rfl
    exact means_outcome
  · intro hstatus t ht
    refine ⟨fun hflaw => ?_, fun body' t' ht' => ⟨outcome_of_grows hstatus ht ht', ?_⟩⟩
    · exact outcome_of_unreadable hstatus (by simpa [ht] using hflaw.not_isWritten)
    · intro first hbody hbody' hfirst hfirst'
      rw [outcome_of_beginsWith hstatus ht hbody hfirst,
        outcome_of_beginsWith hstatus ht' hbody' hfirst']
  · intro c r call nonce request hrequest hdelivers
    unfold ChatClient.outcome
    rw [hrequest]
    exact hdelivers.outcome_eq request.address

theorem outcome_classified_grown :
    let call (arguments : String) : Json :=
      .object [("function", .object [("arguments", .string arguments)])]
    let choice (calls : List Json) : Json :=
      .object [("message", .object [("tool_calls", .array calls)])]
    let document (choices : List Json) : Json := .object [("choices", .array choices)]
    let c : ChatClient := ⟨"key", "http://[::1]/v1", "small", .default, .default⟩
    let ask : ModelCall := ⟨.object [], ⟨"mcq", "easy", "tides", ""⟩⟩
    outcome 200 (document [choice [call "{}"]]).text = .ok (.object []) ∧
      outcome 200 (document [choice [call "{}"], choice []]).text = .ok (.object []) ∧
      outcome 200 (document [choice [call "{}", call "no JSON"]]).text = .ok (.object []) ∧
      outcome 200 (document [choice [call "{}"], .null]).text = .error .transport ∧
      c.outcome (some ⟨200, (document [choice [call "{}"]]).text⟩) ask 0 = .ok (.object []) := by
  intro call choice document c ask
  have hdocument (choices : List Json) :
      Completion.Lists (document choices).tree (Json.trees choices) :=
    .choices rfl (by simp [Tree.IsOptional])
  have hchoice (calls : List Json) : Choice.Lists (choice calls).tree (Json.trees calls) :=
    .calling rfl rfl
  have hcall (arguments : String) : ToolCall.IsWritten arguments (call arguments).tree :=
    ⟨_, rfl, rfl⟩
  have hfirst : Choice.IsWritten (choice [call "{}"]).tree :=
    (hchoice _).isWritten_iff.mpr (List.forall_mem_singleton.mpr ⟨_, hcall "{}"⟩)
  have hbody : Completion.IsWritten (document [choice [call "{}"]]).tree :=
    (hdocument _).isWritten_iff.mpr (List.forall_mem_singleton.mpr hfirst)
  have hnull : ¬Choice.IsWritten .null := by
    rintro ⟨calls, hcalls, -⟩
    cases hcalls with
    | calling hmessage => cases hmessage
    | silent hmessage => cases hmessage
  have htext (d : Json) := Json.ofText?_text d
  have hvalue : Json.ofText? "{}" = some (.object []) := by
    have hwritten : "{}" = (Json.object []).text := rfl
    rw [hwritten]
    exact Json.ofText?_text_of_exact (.object _ (List.forall_mem_nil _))
      (.object _ List.nodup_nil (List.forall_mem_nil _)) (by decide)
  have hmain := outcome_classified 200 (document [choice [call "{}"]]).text
  have hempty : outcome 200 (document [choice [call "{}"]]).text = .ok (.object []) :=
    (hmain.1 _).mpr (.answered (by decide) (htext _) hbody
      (.calling (hdocument _) (hchoice _) (hcall _)) hvalue)
  refine ⟨hempty, ?_, ?_, ?_, ?_⟩
  · rw [← hempty]
    refine ((hmain.2.1 (by decide) _ (htext _)).2 _ _ (htext _)).1 ?_
    exact .choices (List.cons_ne_nil _ _) (hdocument _) (hdocument [choice [call "{}"], choice []])
      (List.forall_mem_singleton.mpr ((hchoice []).isWritten_iff.mpr (List.forall_mem_nil _)))
  · rw [← hempty]
    refine ((hmain.2.1 (by decide) _ (htext _)).2 _ _ (htext _)).1 ?_
    exact .calls (List.cons_ne_nil _ _) (hdocument _) (hdocument _) (hchoice [call "{}"])
      (hchoice [call "{}", call "no JSON"]) (List.forall_mem_singleton.mpr ⟨_, hcall _⟩)
  · refine ((outcome_classified 200 _).2.1 (by decide) _ (htext _)).1 ?_
    exact .choice (hdocument _) (List.mem_cons_of_mem _ (List.mem_singleton_self _)) hnull
  · rw [← hempty]
    obtain ⟨request, hrequest⟩ : ∃ request, c.request? ask 0 = some request :=
      Option.isSome_iff_exists.mp (by decide +kernel)
    exact hmain.2.2.1 c _ ask 0 request hrequest
      ⟨rfl, by decide, by decide, by decide +kernel, rfl⟩

end Reply

end QuizService
