import QuizService.Proofs.Question.Input
import QuizService.Question.Generate

/-!
What becomes of a bag. The only failures are those of the input and of the model: every question
type has a shape, and every shape a schema. Main statement: the outcome for a bag and the calls
that the model gets.
-/

namespace QuizService

namespace QuestionRequest

variable {tag : String} {raw : Entries Json}

theorem build_of_check_error {fs : List InputField} (h : Input.check tag raw = .error fs) :
    build tag raw = .error (.invalidInput (fs.map InputField.name)) := by
  unfold build
  rw [h]
  rfl

theorem build_of_check_ok {i : Input} {s : Shape} {d : Json} (h : Input.check tag raw = .ok i)
    (hs : Catalogue.shape i.category = .ok s) (hd : s.schema = .ok d) :
    build tag raw = .ok ⟨d, i⟩ := by
  unfold build
  rw [h]
  change (Catalogue.resolve i.category.tag >>= _) = _
  rw [Catalogue.resolve_tag, hs]
  change (s.schema.mapError QuizError.ofSchema >>= _) = _
  rw [hd]
  rfl

theorem build_eq_ok_iff {r : QuestionRequest} :
    build tag raw = .ok r ↔
      Input.check tag raw = .ok r.input ∧
        ∃ s, Catalogue.shape r.input.category = .ok s ∧ s.schema = .ok r.schema := by
  constructor
  · intro h
    cases hc : Input.check tag raw with
    | error fs =>
      rw [build_of_check_error hc] at h
      contradiction
    | ok i =>
      obtain ⟨s, hs, -, d, hd⟩ := Catalogue.shape_eq_ok i.category
      rw [build_of_check_ok hc hs hd] at h
      obtain rfl := Except.ok.inj h
      exact ⟨rfl, s, hs, hd⟩
  · rintro ⟨hc, s, hs, hd⟩
    exact build_of_check_ok hc hs hd

theorem build_eq_error_iff {e : QuizError} :
    build tag raw = .error e ↔
      ∃ fs, Input.check tag raw = .error fs ∧ e = .invalidInput (fs.map InputField.name) := by
  cases hc : Input.check tag raw with
  | error fs => simp [build_of_check_error hc, eq_comm]
  | ok i =>
    obtain ⟨s, hs, -, d, hd⟩ := Catalogue.shape_eq_ok i.category
    simp [build_of_check_ok hc hs hd]

end QuestionRequest

namespace Generated

variable {raw : Entries Json}

theorem tagOf_eq_tag_iff {q : QuestionType} :
    tagOf raw = q.tag ↔ raw.get? "category" = some (.string q.tag) := by
  have hne : "" ≠ q.tag := by cases q <;> decide
  unfold tagOf
  cases hv : raw.get? "category" with
  | none => simp [hne]
  | some v => cases v <;> simp [hne]

theorem fallback_eq {i : Input} {s : Shape} (hs : Catalogue.shape i.category = .ok s)
    (ds : Draws) :
    fallback i ds =
      .ok (.object [("question", .object (s.instantiate (Builtin.fields i) ds).1)]) := by
  unfold fallback
  rw [Catalogue.resolve_tag, hs]
  rfl

theorem ofBag_of_build_error {e : QuizError} (model : Option Model) (ds : Draws)
    (h : QuestionRequest.build (tagOf raw) raw = .error e) :
    ofBag model ds raw = ⟨.error e, []⟩ := by
  rw [ofBag, h]
  rfl

theorem ofBag_of_build_ok {r : QuestionRequest} (model : Option Model) (ds : Draws)
    (h : QuestionRequest.build (tagOf raw) raw = .ok r) :
    ofBag model ds raw = answer model ds r := by
  rw [ofBag, h]
  rfl

theorem ofBag_of_check_error {fs : List InputField} (model : Option Model) (ds : Draws)
    (h : Input.check (tagOf raw) raw = .error fs) :
    ofBag model ds raw = ⟨.error (.invalidInput (fs.map InputField.name)), []⟩ := by
  exact ofBag_of_build_error model ds (QuestionRequest.build_of_check_error h)

theorem ofBag_of_check_ok {i : Input} {s : Shape} {d : Json} (model : Option Model) (ds : Draws)
    (h : Input.check (tagOf raw) raw = .ok i) (hs : Catalogue.shape i.category = .ok s)
    (hd : s.schema = .ok d) : ofBag model ds raw = answer model ds ⟨d, i⟩ := by
  exact ofBag_of_build_ok model ds (QuestionRequest.build_of_check_ok h hs hd)

theorem answer_some (ask : Model) (ds : Draws) (r : QuestionRequest) :
    answer (some ask) ds r =
      { outcome :=
          match ask r.call with
          | .ok v => .ok (v, .model)
          | .error e => .error (.request e)
        asked := [r.call] } := by
  -- From no calls made, the one step that asks lists one.
  have hrun : ((question (some ask) ds r).run.run []) =
      (((ask r.call).mapError QuizError.request).map fun v => (v, .model), [r.call]) := by
    simp only [question, Asking.call]
    cases ask r.call <;> rfl
  rw [answer, ofAsking, hrun]
  cases ask r.call <;> rfl

theorem answer_none (ds : Draws) {r : QuestionRequest} {s : Shape}
    (hs : Catalogue.shape r.input.category = .ok s) :
    answer none ds r =
      { outcome :=
          .ok (.object [("question", .object (s.instantiate (Builtin.fields r.input) ds).1)], .seed)
        asked := [] } := by
  rw [answer, question, fallback_eq hs]
  rfl

theorem origin_of_answer {model : Option Model} {ds : Draws} {r : QuestionRequest} {s : Shape}
    {v : Json} {o : Origin} (hs : Catalogue.shape r.input.category = .ok s)
    (h : (answer model ds r).outcome = .ok (v, o)) : o = .model ↔ model.isSome = true := by
  cases model with
  | none =>
    rw [answer_none ds hs] at h
    obtain ⟨-, rfl⟩ := Prod.mk.inj (Except.ok.inj h)
    simp
  | some ask =>
    rw [answer_some] at h
    cases hv : ask r.call with
    | error e => simp [hv] at h
    | ok w =>
      simp only [hv, Except.ok.injEq, Prod.mk.injEq] at h
      simp [← h.2]

theorem error_of_answer {model : Option Model} {ds : Draws} {r : QuestionRequest} {s : Shape}
    {e : QuizError} (hs : Catalogue.shape r.input.category = .ok s)
    (h : (answer model ds r).outcome = .error e) : ∃ f, e = .request f := by
  cases model with
  | none =>
    rw [answer_none ds hs] at h
    contradiction
  | some ask =>
    rw [answer_some] at h
    cases hv : ask r.call with
    | ok v => simp [hv] at h
    | error f =>
      simp only [hv, Except.error.injEq] at h
      exact ⟨f, h.symm⟩

theorem ofBag_cases (model : Option Model) (ds : Draws) (raw : Entries Json) :
    (∃ fs, Input.check (tagOf raw) raw = .error fs ∧
      ofBag model ds raw = ⟨.error (.invalidInput (fs.map InputField.name)), []⟩) ∨
    ∃ i s d, Input.check (tagOf raw) raw = .ok i ∧ Catalogue.shape i.category = .ok s ∧
      s.tag = i.category ∧ s.schema = .ok d ∧ ofBag model ds raw = answer model ds ⟨d, i⟩ := by
  cases h : Input.check (tagOf raw) raw with
  | error fs => exact .inl ⟨fs, rfl, ofBag_of_check_error model ds h⟩
  | ok i =>
    obtain ⟨s, hs, htag, d, hd⟩ := Catalogue.shape_eq_ok i.category
    exact .inr ⟨i, s, d, rfl, hs, htag, hd, ofBag_of_check_ok model ds h hs hd⟩

theorem category_of_check {i : Input} (h : Input.check (tagOf raw) raw = .ok i) :
    raw.get? "category" = some (.string i.category.tag) := by
  obtain ⟨hc, -⟩ := Input.check_eq_ok_iff.mp h
  exact tagOf_eq_tag_iff.mp (Input.category?_eq_some_iff.mp hc)

/-- Only the answers to the listed calls enter the outcome. -/
theorem ofBag_congr {ask other : Model} (ds : Draws)
    (h : ∀ c ∈ (ofBag (some ask) ds raw).asked, other c = ask c) :
    ofBag (some other) ds raw = ofBag (some ask) ds raw := by
  cases hb : QuestionRequest.build (tagOf raw) raw with
  | error e => rw [ofBag_of_build_error _ ds hb, ofBag_of_build_error _ ds hb]
  | ok r =>
    rw [ofBag_of_build_ok _ ds hb, answer_some] at h
    have hcall : other r.call = ask r.call := h r.call List.mem_cons_self
    rw [ofBag_of_build_ok _ ds hb, ofBag_of_build_ok _ ds hb, answer_some, answer_some, hcall]

theorem ofBag_congr_bag {other : Entries Json} (h : ∀ name, raw.get? name = other.get? name)
    (model : Option Model) (ds : Draws) : ofBag model ds raw = ofBag model ds other := by
  have htag : tagOf raw = tagOf other := by simp only [tagOf, h]
  simp only [ofBag, QuestionRequest.build, htag, Input.check_congr fun name _ => h name]

theorem ofBag_draws (ask : Model) (ds ds' : Draws) (raw : Entries Json) :
    ofBag (some ask) ds raw = ofBag (some ask) ds' raw := by
  rfl

theorem ofBag_none_draws (ds ds' : Draws) (raw : Entries Json) :
    ofBag none ds' raw = ofBag none ds raw ∨
      ∃ record items arranged, Entries.get? record "choices" = some (.array items) ∧
        arranged.Perm items ∧
        ofBag none ds raw = ⟨.ok (.object [("question", .object record)], .seed), []⟩ ∧
        ofBag none ds' raw =
          ⟨.ok (.object [("question", .object (record.put "choices" (.array arranged)))], .seed),
            []⟩ := by
  rcases ofBag_cases none ds raw with ⟨fs, hcheck, -⟩ | ⟨i, s, d, hcheck, hs, -, hd, -⟩
  · left
    rw [ofBag_of_check_error none ds' hcheck, ofBag_of_check_error none ds hcheck]
  · have hserved (ds : Draws) : ofBag none ds raw =
        ⟨.ok (.object [("question", .object (s.instantiate (Builtin.fields i) ds).1)], .seed),
          []⟩ := by
      rw [ofBag_of_check_ok none ds hcheck hs hd]
      exact answer_none ds hs
    rw [hserved ds, hserved ds']
    rcases Catalogue.shuffled_cases hs with hmarks | hmarks
    · left
      rw [Shape.instantiate_of_unmarked hmarks, Shape.instantiate_of_unmarked hmarks]
    · rcases Shape.instantiate_of_marked hmarks (Builtin.fields i) ds ds' with
        hsame | ⟨items, arranged, hitems, hperm, hput⟩
      · left
        rw [hsame]
      · exact .inr ⟨_, items, arranged, hitems, hperm, rfl, by rw [hput]⟩

theorem origin_of_ofBag {model : Option Model} {ds : Draws} {v : Json} {o : Origin}
    (h : (ofBag model ds raw).outcome = .ok (v, o)) : o = .model ↔ model.isSome = true := by
  rcases ofBag_cases model ds raw with ⟨fs, -, heq⟩ | ⟨i, s, d, -, hs, -, -, heq⟩
  · rw [heq] at h
    contradiction
  · rw [heq] at h
    exact origin_of_answer hs h

theorem error_of_ofBag {model : Option Model} {ds : Draws} {e : QuizError}
    (h : (ofBag model ds raw).outcome = .error e) :
    (∃ fs, e = .invalidInput fs) ∨ ∃ f, e = .request f := by
  rcases ofBag_cases model ds raw with ⟨fs, -, heq⟩ | ⟨i, s, d, -, hs, -, -, heq⟩
  · rw [heq] at h
    exact .inl ⟨_, (Except.error.inj h).symm⟩
  · rw [heq] at h
    exact .inr (error_of_answer hs h)

theorem ofBag_outcome (model : Option Model) (ds : Draws) (raw : Entries Json) :
    (∀ fs, Input.check (tagOf raw) raw = .error fs →
      ofBag model ds raw = ⟨.error (.invalidInput (fs.map InputField.name)), []⟩) ∧
    (∀ i, Input.check (tagOf raw) raw = .ok i →
      raw.get? "category" = some (.string i.category.tag) ∧
      ∃ s d, Catalogue.resolve i.category.tag = .ok s ∧ s.tag = i.category ∧ s.schema = .ok d ∧
        ofBag model ds raw =
          match model with
          | some ask =>
            let call : ModelCall :=
              ⟨d, ⟨i.category.tag, i.difficulty.tag, i.topic, i.instructions⟩⟩
            { outcome :=
                match ask call with
                | .ok v => .ok (v, .model)
                | .error e => .error (.request e)
              asked := [call] }
          | none =>
            { outcome :=
                .ok (.object [("question", .object (s.instantiate (Builtin.fields i) ds).1)], .seed)
              asked := [] }) ∧
    (∀ v o, (ofBag model ds raw).outcome = .ok (v, o) → (o = .model ↔ model.isSome = true)) ∧
    (∀ e, (ofBag model ds raw).outcome = .error e →
      (∃ fs, e = .invalidInput fs) ∨ ∃ f, e = .request f) ∧
    (∀ ask other : Model, model = some ask → (∀ c ∈ (ofBag model ds raw).asked, other c = ask c) →
      ofBag (some other) ds raw = ofBag model ds raw) := by
  refine ⟨fun fs h => ofBag_of_check_error model ds h, fun i h => ⟨category_of_check h, ?_⟩,
    fun v o => origin_of_ofBag, fun e => error_of_ofBag, ?_⟩
  · obtain ⟨s, hs, htag, d, hd⟩ := Catalogue.shape_eq_ok i.category
    have hresolve : Catalogue.resolve i.category.tag = .ok s :=
      (Catalogue.resolve_tag i.category).trans hs
    refine ⟨s, d, hresolve, htag, hd, ?_⟩
    rw [ofBag_of_check_ok model ds h hs hd]
    cases model with
    | some ask => exact answer_some ask ds ⟨d, i⟩
    | none => exact answer_none ds hs
  · rintro ask other rfl
    exact ofBag_congr ds

theorem ofBag_outcome_failing_model :
    let raw : Entries Json :=
      [("note", .null), ("topic", .string "tides"), ("category", .string "mcq"),
        ("difficulty", .string "hard"), ("instructions", .null)]
    let fail : Model := fun _ => .error .missingToolCall
    Input.check (tagOf raw) raw = .ok ⟨.mcq, .hard, "tides", ""⟩ ∧
      (ofBag (some fail) [] raw).outcome = .error (.request .missingToolCall) ∧
      ∃ d, (ofBag (some fail) [] raw).asked = [⟨d, ⟨"mcq", "hard", "tides", ""⟩⟩] := by
  intro raw fail
  have hcheck : Input.check (tagOf raw) raw = .ok ⟨.mcq, .hard, "tides", ""⟩ := rfl
  obtain ⟨-, s, d, -, -, -, heq⟩ := (ofBag_outcome (some fail) [] raw).2.1 _ hcheck
  rw [heq]
  exact ⟨hcheck, rfl, d, rfl⟩

end Generated

end QuizService
