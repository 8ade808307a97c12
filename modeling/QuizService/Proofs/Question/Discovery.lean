import QuizService.Proofs.Question.Conformance
import QuizService.Proofs.Question.Generate

/-!
What callers are told of the input agrees with what is checked. Main statement: a bag is accepted
exactly when it has the mandatory names and, without null instructions, is allowed by the document
of the input, and its topic is not empty.
-/

namespace QuizService

theorem FieldType.admits_string_iff {v : Json} : string.Admits v ↔ ∃ s, v = .string s := by
  cases v <;> simp [string, Admits, Scalar.IsValue]

namespace Input

variable {raw : Entries Json}

def withoutNull (raw : Entries Json) : Entries Json :=
  match raw.get? "instructions" with
  | some .null => raw.erase "instructions"
  | _ => raw

theorem nodup_withoutNull (h : raw.names.Nodup) : (withoutNull raw).names.Nodup := by
  unfold withoutNull
  split
  · exact Entries.nodup_erase h
  · exact h

theorem get?_withoutNull_of_ne {name : String} (h : "instructions" ≠ name) :
    (withoutNull raw).get? name = raw.get? name := by
  unfold withoutNull
  split
  · rw [Entries.get?_erase, if_neg h]
  · rfl

theorem get?_withoutNull_instructions {v : Json} :
    (withoutNull raw).get? "instructions" = some v ↔
      raw.get? "instructions" = some v ∧ v ≠ .null := by
  unfold withoutNull
  split
  · rename_i hnull
    rw [Entries.get?_erase, if_pos rfl, hnull]
    constructor
    · intro h
      contradiction
    · rintro ⟨h, hv⟩
      exact absurd (Option.some.inj h).symm hv
  · rename_i hsome
    refine ⟨fun h => ⟨h, ?_⟩, And.left⟩
    rintro rfl
    exact hsome h

theorem instructions?_isSome_iff :
    (∃ i, instructions? raw = some i) ↔
      ∀ v, (withoutNull raw).get? "instructions" = some v → ∃ s, v = .string s := by
  simp only [instructions?_eq_some_iff, get?_withoutNull_instructions]
  cases raw.get? "instructions" with
  | none => simp
  | some v => cases v <;> simp

theorem fit_recordType_iff {values : Entries Json} :
    Shape.Fit recordType.fields values ↔
      (∀ v, values.get? "category" = some v → ∃ q : QuestionType, v = .string q.tag) ∧
        (∀ v, values.get? "difficulty" = some v → ∃ d : Difficulty, v = .string d.tag) ∧
        (∀ v, values.get? "topic" = some v → ∃ s, v = .string s) ∧
        ∀ v, values.get? "instructions" = some v → ∃ s, v = .string s := by
  have hoptional (v : Json) : (FieldType.optional .string).Admits v ↔ ∃ s, v = .string s :=
    FieldType.admits_string_iff
  simp only [Shape.Fit, recordType, List.forall_mem_cons, QuestionType.admits_enumeration_iff,
    Difficulty.admits_enumeration_iff, FieldType.admits_string_iff, hoptional]
  simp

theorem allows_withoutNull_iff (hn : raw.names.Nodup) :
    (∃ d, recordType.schema = .ok d ∧ Schema.Allows d (.object (withoutNull raw))) ↔
      Shape.Fit recordType.fields (withoutNull raw) := by
  obtain ⟨d, hd⟩ : ∃ d, recordType.schema = .ok d := ⟨_, rfl⟩
  rw [← Shape.allows_iff_fit hd (nodup_withoutNull hn), hd]
  simp

theorem mandatory_iff :
    (∀ name ∈ recordType.partition.mandatory, raw.has name = true) ↔
      raw.has "category" = true ∧ raw.has "difficulty" = true ∧ raw.has "topic" = true := by
  have hmandatory : recordType.partition.mandatory = ["category", "difficulty", "topic"] := rfl
  simp [hmandatory]

theorem given_text_iff {α : Type} (tag : α → String) (name : String) :
    (∃ a, raw.get? name = some (.string (tag a))) ↔
      raw.has name = true ∧ ∀ v, raw.get? name = some v → ∃ a, v = .string (tag a) := by
  have hhas : raw.has name = true ↔ raw.get? name ≠ none := by
    rw [Entries.has_iff, ne_eq, Entries.get?_eq_none_iff, Classical.not_not]
  rw [hhas]
  cases raw.get? name <;> simp

theorem given_nonempty_iff {name : String} :
    (∃ t, raw.get? name = some (.string t) ∧ t ≠ "") ↔
      (∃ t, raw.get? name = some (.string t)) ∧ raw.get? name ≠ some (.string "") := by
  constructor
  · rintro ⟨t, h, ht⟩
    exact ⟨⟨t, h⟩, by simpa [h] using ht⟩
  · rintro ⟨⟨t, h⟩, ht⟩
    exact ⟨t, h, by simpa [h] using ht⟩

end Input

namespace QuestionRequest

variable {raw : Entries Json}

open Generated (tagOf)

theorem accepted_iff_check :
    (∃ r, build (tagOf raw) raw = .ok r) ↔ ∃ i, Input.check (tagOf raw) raw = .ok i := by
  constructor
  · rintro ⟨r, hr⟩
    exact ⟨r.input, (build_eq_ok_iff.mp hr).1⟩
  · rintro ⟨i, hi⟩
    obtain ⟨s, hs, -, d, hd⟩ := Catalogue.shape_eq_ok i.category
    exact ⟨_, build_of_check_ok hi hs hd⟩

theorem accepted_iff_fields :
    (∃ r, build (tagOf raw) raw = .ok r) ↔
      (∃ q : QuestionType, raw.get? "category" = some (.string q.tag)) ∧
        (∃ d : Difficulty, raw.get? "difficulty" = some (.string d.tag)) ∧
        (∃ t, raw.get? "topic" = some (.string t) ∧ t ≠ "") ∧
        ∀ v, (Input.withoutNull raw).get? "instructions" = some v → ∃ s, v = .string s := by
  rw [accepted_iff_check, ← Input.instructions?_isSome_iff]
  simp only [Input.check_eq_ok_iff, Input.category?_eq_some_iff, Generated.tagOf_eq_tag_iff,
    Input.difficulty?_eq_some_iff, Input.topic?_eq_some_iff]
  constructor
  · rintro ⟨i, hc, hd, ht, hi⟩
    exact ⟨⟨_, hc⟩, ⟨_, hd⟩, ⟨_, ht⟩, ⟨_, hi⟩⟩
  · rintro ⟨⟨c, hc⟩, ⟨d, hd⟩, ⟨t, ht⟩, ⟨i, hi⟩⟩
    exact ⟨⟨c, d, t, i⟩, hc, hd, ht, hi⟩

theorem accepted_iff_described (raw : Bag) :
    ((∃ r, build (tagOf raw) raw = .ok r) ↔
      (∀ name ∈ Input.recordType.partition.mandatory, raw.members.has name = true) ∧
        (∃ d, Input.recordType.schema = .ok d ∧
          Schema.Allows d (.object (Input.withoutNull raw))) ∧
        raw.members.get? "topic" ≠ some (.string "")) ∧
      ∀ e, build (tagOf raw) raw = .error e → ∃ fs, e = .invalidInput fs := by
  constructor
  · have hkept (name : String) (h : "instructions" ≠ name) :
        (Input.withoutNull raw).get? name = raw.members.get? name :=
      Input.get?_withoutNull_of_ne h
    have htopic : (∃ t, raw.members.get? "topic" = some (.string t)) ↔
        raw.members.has "topic" = true ∧
          ∀ v, raw.members.get? "topic" = some v → ∃ t, v = .string t :=
      Input.given_text_iff (fun t => t) "topic"
    rw [Input.allows_withoutNull_iff raw.names_nodup, Input.fit_recordType_iff, Input.mandatory_iff,
      hkept "category" (by decide), hkept "difficulty" (by decide), hkept "topic" (by decide),
      accepted_iff_fields, Input.given_text_iff QuestionType.tag,
      Input.given_text_iff Difficulty.tag, Input.given_nonempty_iff, htopic]
    constructor
    · rintro ⟨⟨hc, fc⟩, ⟨hd, fd⟩, ⟨⟨ht, ft⟩, hne⟩, fi⟩
      exact ⟨⟨hc, hd, ht⟩, ⟨fc, fd, ft, fi⟩, hne⟩
    · rintro ⟨⟨hc, hd, ht⟩, ⟨fc, fd, ft, fi⟩, hne⟩
      exact ⟨⟨hc, fc⟩, ⟨hd, fd⟩, ⟨⟨ht, ft⟩, hne⟩, fi⟩
  · intro e he
    obtain ⟨fs, -, rfl⟩ := build_eq_error_iff.mp he
    exact ⟨_, rfl⟩

theorem accepted_iff_described_null :
    let raw : Entries Json :=
      [("instructions", .null), ("topic", .string " "), ("other", .array []),
        ("difficulty", .string "easy"), ("category", .string "fill")]
    (∃ r, build (tagOf raw) raw = .ok r) ∧
      ∃ d, Input.recordType.schema = .ok d ∧ Schema.Allows d (.object (Input.withoutNull raw)) := by
  intro raw
  have haccepted : ∃ r, build (tagOf raw) raw = .ok r := ⟨_, rfl⟩
  have hdistinct : (Json.object raw).Distinct := by
    simp [raw, Entries.names]
  have hdescribed := (accepted_iff_described ⟨raw, hdistinct⟩).1.mp haccepted
  exact ⟨haccepted, hdescribed.2.1⟩

end QuestionRequest

end QuizService
