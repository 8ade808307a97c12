import QuizService.Proofs.Question.Arrangement
import QuizService.Proofs.Question.Generate

/-!
The built-in question keeps to what a model is asked for: it satisfies the document of its
request, holds every field of its shape in order, and repeats what the caller gave.
-/

namespace QuizService

open FieldType (typed_append typed_cons typed_nil)

namespace Builtin

variable {i : Input} {s : Shape}

theorem names_fields (i : Input) :
    (fields i).names = Entries.names (content i.category) ++ ["difficulty", "topic"] :=
  List.map_append

theorem typed_content {q : QuestionType} (h : Catalogue.shape q = .ok s) :
    FieldType.Typed s.fields (content q) := by
  have htext (t : String) : FieldType.string.Admits (.string t) := FieldType.admits_string t
  have htexts (ts : List String) : (FieldType.list .string).Admits (.strings ts) :=
    FieldType.admits_strings ts
  have hcount (n : Int64) : (FieldType.optional .integer).Admits (.int64 n) :=
    FieldType.admits_optional.mpr (FieldType.admits_int64 n)
  rw [Catalogue.fields_of_shape h]
  cases q with
  | mcq =>
    apply typed_cons rfl (htext _)
    apply typed_cons rfl (htexts _)
    apply typed_cons rfl (htexts _)
    exact typed_nil _
  | multiSelect =>
    apply typed_cons rfl (htext _)
    apply typed_cons rfl (htexts _)
    apply typed_cons rfl (htexts _)
    apply typed_cons rfl (hcount _)
    exact typed_nil _
  | fill =>
    apply typed_cons rfl (htext _)
    apply typed_cons rfl (htext _)
    exact typed_nil _

theorem typed_fields (h : Catalogue.shape i.category = .ok s) :
    FieldType.Typed s.fields (fields i) := by
  have hdifficulty :
      (FieldType.enumeration Difficulty.enumeration).Admits (.string i.difficulty.tag) :=
    Difficulty.admits_enumeration_iff.mpr ⟨i.difficulty, rfl⟩
  have hdeclared : s.fields.get? "difficulty" = some (.enumeration Difficulty.enumeration) ∧
      s.fields.get? "topic" = some .string := by
    rw [Catalogue.fields_of_shape h]
    cases i.category <;> exact ⟨rfl, rfl⟩
  apply typed_append (typed_content h)
  apply typed_cons hdeclared.1 hdifficulty
  apply typed_cons hdeclared.2 (FieldType.admits_string i.topic)
  exact typed_nil _

theorem fit_pinned_fields (h : Catalogue.shape i.category = .ok s) :
    Shape.Fit s.fields (s.pinned (fields i)) := by
  have hs : s.Distinct := Catalogue.distinct_shape h
  apply Shape.fit_pinned hs (Catalogue.fit_defaults h) (Catalogue.fit_pins h)
  intro f hf _ v hv
  exact FieldType.admits_of_typed hs.fields (typed_fields h) hf (Entries.mem_of_get? hv)

theorem covers (h : Catalogue.shape i.category = .ok s) :
    ∀ name ∈ s.fields.names, name ∈ s.defaults.names ∨ name ∈ (fields i).names := by
  rw [names_fields]
  generalize i.category = q at h ⊢
  cases q <;> (obtain rfl := Except.ok.inj h; decide)

theorem names_question (h : Catalogue.shape i.category = .ok s) (ds : Draws) :
    (s.instantiate (fields i) ds).1.names = s.fields.names := by
  rw [Shape.names_instantiate (Catalogue.distinct_shape h) (Catalogue.pinned_shape h)]
  apply List.filter_eq_self.mpr
  intro name hname
  rcases covers h name hname with hdefault | hsupplied
  · rw [Entries.isSome_get?_iff.mpr hdefault, Bool.true_or]
  · rw [Entries.isSome_get?_iff.mpr hsupplied, Bool.or_true]

theorem get?_question (h : Catalogue.shape i.category = .ok s) {name : String}
    (hname : name ≠ "choices") (ds : Draws) :
    (s.instantiate (fields i) ds).1.get? name = (s.pinned (fields i)).get? name := by
  have hmarks : ∀ mark ∈ s.shuffled, mark = "choices" := by
    rw [Catalogue.shuffled_of_shape h]
    cases i.category <;> decide
  apply Shape.get?_instantiate_of_not_mem
  intro hmem
  exact hname (hmarks name hmem)

theorem get?_pinned_pin (h : Catalogue.shape i.category = .ok s) {name : String} {v : Json}
    (hv : Entries.get? (Catalogue.pins i.category).reverse name = some v) :
    (s.pinned (fields i)).get? name = some v := by
  apply Shape.get?_pinned_of_pin (Catalogue.distinct_shape h)
  rw [Catalogue.get?_pins_shape h, hv]

theorem get?_pinned_field (h : Catalogue.shape i.category = .ok s) {name : String} {v : Json}
    (hpin : Entries.get? (Catalogue.pins i.category).reverse name = none)
    (hv : (fields i).get? name = some v) (hobject : ∀ ms, v ≠ .object ms) :
    (s.pinned (fields i)).get? name = some v := by
  obtain ⟨t, ht, -⟩ := typed_fields h _ (Entries.mem_of_get? hv)
  have hname : name ∈ s.fields.names := Entries.mem_names (Entries.mem_of_get? ht)
  have hnone : s.pins.get? name = none := by rw [Catalogue.get?_pins_shape h, hpin]
  exact Shape.get?_pinned_of_supplied (Catalogue.distinct_shape h) hnone hname hv hobject

theorem get?_pinned_caller (h : Catalogue.shape i.category = .ok s) :
    (s.pinned (fields i)).get? "category" = some (.string i.category.tag) ∧
      (s.pinned (fields i)).get? "difficulty" = some (.string i.difficulty.tag) ∧
      (s.pinned (fields i)).get? "topic" = some (.string i.topic) := by
  have hcategory : Entries.get? (Catalogue.pins i.category).reverse "category" =
      some (.string i.category.tag) := by
    cases i.category <;> rfl
  have hunpinned : Entries.get? (Catalogue.pins i.category).reverse "difficulty" = none ∧
      Entries.get? (Catalogue.pins i.category).reverse "topic" = none := by
    cases i.category <;> exact ⟨rfl, rfl⟩
  have hgiven : (fields i).get? "difficulty" = some (.string i.difficulty.tag) ∧
      (fields i).get? "topic" = some (.string i.topic) := by
    unfold fields
    cases i.category <;> exact ⟨rfl, rfl⟩
  exact ⟨get?_pinned_pin h hcategory, get?_pinned_field h hunpinned.1 hgiven.1 nofun,
    get?_pinned_field h hunpinned.2 hgiven.2 nofun⟩

def Selectable (question : Entries Json) : Prop :=
  ∃ solution choices n,
    question.get? "solution" = some (.array solution) ∧
      question.get? "choices" = some (.array choices) ∧
      question.get? "num_selectable" = some (.int64 n) ∧
      (∀ x ∈ solution, x ∈ choices) ∧ n.toInt = solution.length

theorem selectable_pinned (h : Catalogue.shape i.category = .ok s) (hfill : i.category ≠ .fill) :
    Selectable (s.pinned (fields i)) := by
  obtain ⟨q, difficulty, topic, instructions⟩ := i
  cases q with
  | fill => exact absurd rfl hfill
  | mcq =>
    refine ⟨_, _, _, get?_pinned_field h rfl rfl nofun, get?_pinned_field h rfl rfl nofun,
      get?_pinned_pin h rfl, ?_, rfl⟩
    simp
  | multiSelect =>
    refine ⟨_, _, _, get?_pinned_field h rfl rfl nofun, get?_pinned_field h rfl rfl nofun,
      get?_pinned_field h rfl rfl nofun, ?_, rfl⟩
    simp

theorem selectable_question (h : Catalogue.shape i.category = .ok s) (hfill : i.category ≠ .fill)
    (ds : Draws) : Selectable (s.instantiate (fields i) ds).1 := by
  obtain ⟨solution, choices, n, hsolution, hchoices, hcount, hsub, hn⟩ :=
    selectable_pinned h hfill
  have hrel := Shape.get?_instantiate_rel s (fields i) ds "choices"
  rw [hchoices] at hrel
  obtain ⟨arranged, harranged, hperm⟩ := Json.Rearranged.eq_array_of_rel hrel
  refine ⟨solution, arranged, n, ?_, harranged, ?_, ?_, hn⟩
  · rw [get?_question h (by decide), hsolution]
  · rw [get?_question h (by decide), hcount]
  · intro x hx
    exact hperm.mem_iff.mpr (hsub x hx)

theorem allows_question (h : Catalogue.shape i.category = .ok s) {d : Json}
    (hd : s.schema = .ok d) (ds : Draws) :
    Schema.Allows d (.object (s.instantiate (fields i) ds).1) := by
  apply (Shape.allows_iff_fit (r := s.recordType) hd (Shape.nodup_instantiate ds)).mpr
  apply (Shape.fit_instantiate_iff s s.fields (fields i) ds).mpr
  exact fit_pinned_fields h

end Builtin

theorem QuestionRequest.fallback_keeps_contract {tag : String} {raw : Entries Json}
    {r : QuestionRequest} (h : QuestionRequest.build tag raw = .ok r) (ds : Draws) :
    ∃ s question, Catalogue.resolve tag = .ok s ∧
      question = (s.instantiate (Builtin.fields r.input) ds).1 ∧
      Generated.answer none ds r = ⟨.ok (.object [("question", .object question)], .seed), []⟩ ∧
      Schema.Allows r.schema (.object question) ∧
      question.names = s.fields.names ∧
      question.get? "category" = some (.string tag) ∧
      question.get? "difficulty" = raw.get? "difficulty" ∧
      question.get? "topic" = raw.get? "topic" ∧
      ("choices" ∈ s.fields.names → Builtin.Selectable question) := by
  obtain ⟨hcheck, s, hs, hd⟩ := QuestionRequest.build_eq_ok_iff.mp h
  obtain ⟨hc, hdifficulty, htopic, -⟩ := Input.check_eq_ok_iff.mp hcheck
  obtain ⟨hcategory, hdifficulty', htopic'⟩ := Builtin.get?_pinned_caller hs
  have htag : tag = r.input.category.tag := Input.category?_eq_some_iff.mp hc
  have hraw := Input.difficulty?_eq_some_iff.mp hdifficulty
  obtain ⟨hraw', -⟩ := Input.topic?_eq_some_iff.mp htopic
  refine ⟨s, _, ?_, rfl, Generated.answer_none ds hs, Builtin.allows_question hs hd ds,
    Builtin.names_question hs ds, ?_, ?_, ?_, ?_⟩
  · rw [htag, Catalogue.resolve_tag, hs]
  · rw [Builtin.get?_question hs (by decide), hcategory, htag]
  · rw [Builtin.get?_question hs (by decide), hdifficulty', hraw]
  · rw [Builtin.get?_question hs (by decide), htopic', hraw']
  · intro hchoices
    apply Builtin.selectable_question hs
    intro hfill
    rw [Catalogue.fields_of_shape hs, hfill] at hchoices
    revert hchoices
    decide

theorem QuestionRequest.fallback_keeps_contract_shuffled :
    let raw : Entries Json :=
      [("topic", .string "light"), ("note", .bool true), ("difficulty", .string "easy"),
        ("num_selectable", .int64 9)]
    ∃ (r : QuestionRequest) (question : Entries Json),
      QuestionRequest.build "multi_select" raw = .ok r ∧
      Generated.answer none [4000000000, 1, 2500000000, 7] r =
        ⟨.ok (.object [("question", .object question)], .seed), []⟩ ∧
      Schema.Allows r.schema (.object question) ∧
      question.get? "topic" = some (.string "light") ∧ Builtin.Selectable question := by
  intro raw
  obtain ⟨s, hs, -, d, hd⟩ := Catalogue.shape_eq_ok .multiSelect
  have hb : QuestionRequest.build "multi_select" raw = .ok ⟨d, .multiSelect, .easy, "light", ""⟩ :=
    QuestionRequest.build_of_check_ok rfl hs hd
  obtain ⟨t, question, ht, -, hanswer, hallows, -, -, -, htopic, hselectable⟩ :=
    QuestionRequest.fallback_keeps_contract hb [4000000000, 1, 2500000000, 7]
  have hst : s = t := Except.ok.inj (hs.symm.trans ht)
  have hchoices : "choices" ∈ t.fields.names := by
    rw [← hst, Catalogue.fields_of_shape hs]
    decide
  exact ⟨_, question, hb, hanswer, hallows, htopic, hselectable hchoices⟩

end QuizService
