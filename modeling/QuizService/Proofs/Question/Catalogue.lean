import QuizService.Proofs.Question.Defaults
import QuizService.Proofs.Question.Kind
import QuizService.Question.Catalogue

namespace QuizService

open FieldType (typed_cons typed_nil)

theorem ScoringRules.admits_json (r : ScoringRules) : recordType.type.Admits r.json := by
  have hn : (Entries.names recordType.fields).Nodup := by decide
  have hinteger (n : Int64) : (FieldType.optional .integer).Admits (.int64 n) :=
    FieldType.admits_optional.mpr (FieldType.admits_int64 n)
  have hboolean (b : Bool) : (FieldType.optional .boolean).Admits (.bool b) :=
    FieldType.admits_optional.mpr (FieldType.admits_bool b)
  apply FieldType.admits_record_of_typed hn
  apply typed_cons rfl (hinteger r.points)
  apply typed_cons rfl (hinteger r.negativePoints)
  apply typed_cons rfl (hinteger r.allowedDurationSecs)
  apply typed_cons rfl (hboolean r.skippable)
  apply typed_cons rfl (hboolean r.instantFail)
  apply typed_cons rfl (hboolean r.allowApproximate)
  exact typed_nil _

theorem Analytics.admits_json (a : Analytics) : recordType.type.Admits a.json := by
  have hn : (Entries.names recordType.fields).Nodup := by decide
  have hinteger (n : UInt32) : (FieldType.optional .integer).Admits (.uint32 n) :=
    FieldType.admits_optional.mpr (FieldType.admits_uint32 n)
  apply FieldType.admits_record_of_typed hn
  apply typed_cons rfl (hinteger a.numCorrect)
  apply typed_cons rfl (hinteger a.numIncorrect)
  apply typed_cons rfl (hinteger a.numSkipped)
  exact typed_nil _

namespace Catalogue

theorem shape_eq_ok (q : QuestionType) :
    ∃ s, shape q = .ok s ∧ s.tag = q ∧ ∃ d, s.schema = .ok d := by
  cases q <;> exact ⟨_, rfl, rfl, _, rfl⟩

theorem resolve_tag (q : QuestionType) : resolve q.tag = shape q := by
  rw [resolve, QuestionType.ofTag?_tag]

theorem resolve_eq_ok {tag : String} {s : Shape} (h : resolve tag = .ok s) :
    tag = s.tag.tag := by
  unfold resolve at h
  split at h
  · rename_i q hq
    obtain ⟨t, ht, htag, -⟩ := shape_eq_ok q
    obtain rfl := Except.ok.inj (ht.symm.trans h)
    rw [QuestionType.ofTag?_eq_some_iff.mp hq, htag]
  · contradiction

def fragments : QuestionType → List Fragment
  | .fill => [base, blank]
  | _ => [base, choices]

def pins : QuestionType → List (String × Json)
  | .mcq => [("category", .string "mcq"), ("num_selectable", .int64 1)]
  | .fill => [("category", .string "fill")]
  | .multiSelect => [("category", .string "multi_select")]

variable {q : QuestionType} {s : Shape}

theorem shape_eq_build (q : QuestionType) : shape q = Shape.build q (fragments q) (pins q) := by
  cases q <;> rfl

theorem build_of_shape (h : shape q = .ok s) : Shape.build q (fragments q) (pins q) = .ok s :=
  (shape_eq_build q).symm.trans h

theorem fields_of_shape (h : shape q = .ok s) :
    s.fields = (fragments q).flatMap Fragment.fields := by
  cases q <;> (obtain rfl := Except.ok.inj h; rfl)

theorem shuffled_of_shape (h : shape q = .ok s) :
    s.shuffled = (fragments q).flatMap Fragment.marks := by
  cases q <;> (obtain rfl := Except.ok.inj h; rfl)

theorem shuffled_cases (h : shape q = .ok s) : s.shuffled = [] ∨ s.shuffled = ["choices"] := by
  rw [shuffled_of_shape h]
  cases q with
  | fill => exact .inl rfl
  | _ => exact .inr rfl

theorem distinct_shape (h : shape q = .ok s) : s.Distinct :=
  Shape.distinct_build (build_of_shape h)

theorem pinned_shape (h : shape q = .ok s) : s.Pinned :=
  Shape.pinned_build (build_of_shape h)

theorem get?_pins_shape (h : shape q = .ok s) (name : String) :
    s.pins.get? name = Entries.get? (pins q).reverse name :=
  Shape.get?_pins_build (build_of_shape h) name

theorem get?_instantiate_of_pin (h : shape q = .ok s) {name : String} {v : Json}
    (hpin : Entries.get? (pins q).reverse name = some v) (hmark : name ≠ "choices")
    (raw : Entries Json) (ds : Draws) :
    (s.instantiate raw ds).1.get? name = some v := by
  apply Shape.get?_instantiate_of_pin (distinct_shape h)
  · rw [get?_pins_shape h, hpin]
  · rcases shuffled_cases h with hnone | hchoices
    · rw [hnone]
      exact List.not_mem_nil
    · rw [hchoices, List.mem_singleton]
      exact hmark

theorem isFitting_fragments (q : QuestionType) :
    ∀ f ∈ fragments q, ∀ item ∈ f, item.IsFitting := by
  have hbase : ∀ item ∈ base, item.IsFitting := by
    simp [base, FragmentItem.IsFitting, ScoringRules.admits_json, Analytics.admits_json]
  have hchoices : ∀ item ∈ choices, item.IsFitting := by
    simp [choices, FragmentItem.IsFitting, FieldType.Admits, FieldType.admits_optional,
      FieldType.admits_int64, Json.strings]
  have hblank : ∀ item ∈ blank, item.IsFitting := by
    simp [blank, FragmentItem.IsFitting]
  cases q with
  | fill => exact List.forall_mem_cons.mpr ⟨hbase, List.forall_mem_singleton.mpr hblank⟩
  | _ => exact List.forall_mem_cons.mpr ⟨hbase, List.forall_mem_singleton.mpr hchoices⟩

theorem not_isStale (q : QuestionType) (name : String) (v : Json) :
    ¬ Fragment.IsStale (fragments q) name v := by
  have hn : ∀ f ∈ fragments q, (Entries.names f.fields).Nodup := by cases q <;> decide
  exact Fragment.not_isStale_of_nodup hn name v

theorem typed_pins (h : shape q = .ok s) : FieldType.Typed s.fields (pins q) := by
  have hcategory (q : QuestionType) :
      (FieldType.enumeration QuestionType.enumeration).Admits (.string q.tag) :=
    QuestionType.admits_enumeration_iff.mpr ⟨q, rfl⟩
  have hinteger (n : Int64) : (FieldType.optional .integer).Admits (.int64 n) :=
    FieldType.admits_optional.mpr (FieldType.admits_int64 n)
  rw [fields_of_shape h]
  cases q with
  | mcq => exact typed_cons rfl (hcategory .mcq) (typed_cons rfl (hinteger 1) (typed_nil _))
  | fill => exact typed_cons rfl (hcategory .fill) (typed_nil _)
  | multiSelect => exact typed_cons rfl (hcategory .multiSelect) (typed_nil _)

theorem fit_defaults (h : shape q = .ok s) : Shape.Fit s.fields s.defaults := by
  have hn : s.fields.names.Nodup := (distinct_shape h).fields
  have hpins : ∀ f ∈ s.fields, ∀ v, (f.1, v) ∈ pins q → f.2.Admits v :=
    fun f hf v hv => FieldType.admits_of_typed hn (typed_pins h) hf hv
  apply (Shape.fit_defaults_iff (build_of_shape h) (isFitting_fragments q) hpins).mpr
  intro f _ _ v hv
  exact absurd hv (not_isStale q f.1 v)

theorem fit_pins (h : shape q = .ok s) : Shape.Fit s.fields s.pins := by
  intro f hf v hv
  obtain ⟨-, hdefault⟩ := pinned_shape h f.1 v hv
  exact fit_defaults h f hf v hdefault

end Catalogue

end QuizService
