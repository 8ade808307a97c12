import Mathlib.Data.List.Perm.Basic
import QuizService.Proofs.Question.Catalogue
import QuizService.Proofs.Question.Kind
import QuizService.Question.Input

/-!
When the input is accepted. Each field has a law that says which values it takes from the bag, an
accepted input is the one whose four fields are so taken, and a refused one lists the fields whose
laws fail.
-/

namespace QuizService

theorem Json.bind_asString?_eq_some_iff {α : Type} {v : Option Json} {f : String → Option α}
    {a : α} :
    (v.bind fun w => w.asString?.bind f) = some a ↔ ∃ s, v = some (.string s) ∧ f s = some a := by
  cases v with
  | none => simp
  | some w => cases w <;> simp [asString?]

namespace InputField

def all : List InputField := [.category, .difficulty, .topic, .instructions]

/-- What a field takes from the bag; `tag` names the question type. -/
def IsValid (tag : String) (raw : Entries Json) : InputField → Prop
  | .category => ∃ q : QuestionType, tag = q.tag
  | .difficulty => ∃ d : Difficulty, raw.get? "difficulty" = some (.string d.tag)
  | .topic => ∃ t, raw.get? "topic" = some (.string t) ∧ t ≠ ""
  | .instructions =>
    raw.get? "instructions" = none ∨ raw.get? "instructions" = some .null ∨
      ∃ i, raw.get? "instructions" = some (.string i)

end InputField

namespace Input

variable {tag : String} {raw : Entries Json}

theorem category?_eq_some_iff {q : QuestionType} : category? tag = some q ↔ tag = q.tag := by
  unfold category?
  constructor
  · intro h
    split at h
    · rename_i s hs
      split at h
      · rw [Catalogue.resolve_eq_ok hs, Option.some.inj h]
      · contradiction
    · contradiction
  · rintro rfl
    obtain ⟨s, hs, rfl, -⟩ := Catalogue.shape_eq_ok q
    have hmem : QuestionType.enumeration.hasText s.tag.tag = true := by
      cases s.tag <;> rfl
    simp [Catalogue.resolve_tag, hs, hmem]

theorem difficulty?_eq_some_iff {d : Difficulty} :
    difficulty? raw = some d ↔ raw.get? "difficulty" = some (.string d.tag) := by
  have hread : difficulty? raw = some d ↔ ∃ s, raw.get? "difficulty" = some (.string s) ∧
      (if Difficulty.enumeration.hasText s then Difficulty.ofTag? s else none) = some d :=
    Json.bind_asString?_eq_some_iff
  rw [hread]
  constructor
  · rintro ⟨s, hs, h⟩
    have hd : Difficulty.ofTag? s = some d := by
      split at h
      · exact h
      · contradiction
    rw [hs, Difficulty.ofTag?_eq_some_iff.mp hd]
  · intro h
    have hmem : Difficulty.enumeration.hasText d.tag = true := by cases d <;> rfl
    exact ⟨d.tag, h, by rw [if_pos hmem, Difficulty.ofTag?_tag]⟩

theorem topic?_eq_some_iff {t : String} :
    topic? raw = some t ↔ raw.get? "topic" = some (.string t) ∧ t ≠ "" := by
  have hread : topic? raw = some t ↔ ∃ s, raw.get? "topic" = some (.string s) ∧
      (if s.isEmpty then none else some s) = some t :=
    Json.bind_asString?_eq_some_iff
  rw [hread]
  constructor
  · rintro ⟨s, hs, h⟩
    split at h
    · contradiction
    · rename_i hne
      obtain rfl := Option.some.inj h
      exact ⟨hs, fun hempty => hne (by simp [hempty])⟩
  · rintro ⟨ht, hne⟩
    exact ⟨t, ht, by simp [hne]⟩

theorem instructions?_eq_some_iff {i : String} :
    instructions? raw = some i ↔
      (raw.get? "instructions" = none ∨ raw.get? "instructions" = some .null) ∧ i = "" ∨
        raw.get? "instructions" = some (.string i) := by
  unfold instructions?
  cases hv : raw.get? "instructions" with
  | none => simp [eq_comm]
  | some v => cases v <;> simp [eq_comm]

theorem check_eq_ok_iff {i : Input} :
    check tag raw = .ok i ↔
      category? tag = some i.category ∧ difficulty? raw = some i.difficulty ∧
        topic? raw = some i.topic ∧ instructions? raw = some i.instructions := by
  unfold check
  constructor
  · intro h
    split at h
    · rename_i c d t s hc hd ht hi
      obtain rfl := Except.ok.inj h
      exact ⟨hc, hd, ht, hi⟩
    · contradiction
  · rintro ⟨hc, hd, ht, hi⟩
    simp [hc, hd, ht, hi]

theorem isSome_category?_iff :
    (category? tag).isSome = true ↔ InputField.IsValid tag raw .category := by
  simp only [Option.isSome_iff_exists, category?_eq_some_iff, InputField.IsValid]

theorem isSome_difficulty?_iff :
    (difficulty? raw).isSome = true ↔ InputField.IsValid tag raw .difficulty := by
  simp only [Option.isSome_iff_exists, difficulty?_eq_some_iff, InputField.IsValid]

theorem isSome_topic?_iff :
    (topic? raw).isSome = true ↔ InputField.IsValid tag raw .topic := by
  simp only [Option.isSome_iff_exists, topic?_eq_some_iff, InputField.IsValid]

theorem isSome_instructions?_iff :
    (instructions? raw).isSome = true ↔ InputField.IsValid tag raw .instructions := by
  simp only [Option.isSome_iff_exists, instructions?_eq_some_iff, InputField.IsValid]
  constructor
  · rintro ⟨i, ⟨hnone | hnull, -⟩ | hi⟩
    · exact .inl hnone
    · exact .inr (.inl hnull)
    · exact .inr (.inr ⟨i, hi⟩)
  · rintro (hnone | hnull | ⟨i, hi⟩)
    · exact ⟨"", .inl ⟨.inl hnone, rfl⟩⟩
    · exact ⟨"", .inl ⟨.inr hnull, rfl⟩⟩
    · exact ⟨i, .inr hi⟩

theorem mem_failures_iff {f : InputField} : f ∈ failures tag raw ↔ ¬ f.IsValid tag raw := by
  cases f with
  | category => rw [← isSome_category?_iff]; simp [failures]
  | difficulty => rw [← isSome_difficulty?_iff]; simp [failures]
  | topic => rw [← isSome_topic?_iff]; simp [failures]
  | instructions => rw [← isSome_instructions?_iff]; simp [failures]

theorem failures_sublist : (failures tag raw).Sublist InputField.all := by
  have hpart (b : Bool) (f : InputField) : (if b then [f] else []).Sublist [f] := by
    cases b <;> simp
  exact (((hpart _ _).append (hpart _ _)).append (hpart _ _)).append (hpart _ _)

theorem check_eq_error {fs : List InputField} (h : check tag raw = .error fs) :
    fs = failures tag raw := by
  unfold check at h
  split at h
  · contradiction
  · exact (Except.error.inj h).symm

theorem check_congr {other : Entries Json}
    (h : ∀ name ∈ ["difficulty", "topic", "instructions"], raw.get? name = other.get? name)
    (tag : String) : check tag raw = check tag other := by
  have hd : difficulty? raw = difficulty? other := by
    simp only [difficulty?, h "difficulty" (by simp)]
  have ht : topic? raw = topic? other := by
    simp only [topic?, h "topic" (by simp)]
  have hi : instructions? raw = instructions? other := by
    simp only [instructions?, h "instructions" (by simp)]
  simp only [check, failures, hd, ht, hi]

theorem check_accepts_iff :
    (∃ i, check tag raw = .ok i) ↔ ∀ f : InputField, f.IsValid tag raw := by
  constructor
  · rintro ⟨i, h⟩ f
    obtain ⟨hc, hd, ht, hi⟩ := check_eq_ok_iff.mp h
    cases f with
    | category => exact isSome_category?_iff.mp (by rw [hc]; rfl)
    | difficulty => exact isSome_difficulty?_iff.mp (by rw [hd]; rfl)
    | topic => exact isSome_topic?_iff.mp (by rw [ht]; rfl)
    | instructions => exact isSome_instructions?_iff.mp (by rw [hi]; rfl)
  · intro h
    obtain ⟨c, hc⟩ := Option.isSome_iff_exists.mp (isSome_category?_iff.mpr (h .category))
    obtain ⟨d, hd⟩ := Option.isSome_iff_exists.mp (isSome_difficulty?_iff.mpr (h .difficulty))
    obtain ⟨t, ht⟩ := Option.isSome_iff_exists.mp (isSome_topic?_iff.mpr (h .topic))
    obtain ⟨i, hi⟩ := Option.isSome_iff_exists.mp (isSome_instructions?_iff.mpr (h .instructions))
    exact ⟨⟨c, d, t, i⟩, check_eq_ok_iff.mpr ⟨hc, hd, ht, hi⟩⟩

theorem check_fails_iff :
    (∃ fs, check tag raw = .error fs) ↔ ∃ f : InputField, ¬ f.IsValid tag raw := by
  rw [← not_forall, ← check_accepts_iff]
  cases check tag raw with
  | ok i => simp
  | error fs => simp

theorem check_eq_error_iff {fs : List InputField} :
    check tag raw = .error fs ↔
      fs ≠ [] ∧ fs.Sublist InputField.all ∧ ∀ f, f ∈ fs ↔ ¬ f.IsValid tag raw := by
  constructor
  · intro h
    obtain ⟨f, hf⟩ := check_fails_iff.mp ⟨fs, h⟩
    obtain rfl := check_eq_error h
    exact ⟨List.ne_nil_of_mem (mem_failures_iff.mpr hf), failures_sublist,
      fun f => mem_failures_iff⟩
  · rintro ⟨hne, hsub, hmem⟩
    obtain ⟨f, hf⟩ := List.exists_mem_of_ne_nil fs hne
    obtain ⟨found, hfound⟩ := check_fails_iff.mpr ⟨f, (hmem f).mp hf⟩
    rw [hfound, check_eq_error hfound]
    -- In a list without repetition a part is told by its members.
    have hall : InputField.all.Nodup := by decide
    have hperm : (failures tag raw).Perm fs := by
      rw [List.perm_ext_iff_of_nodup (hall.sublist failures_sublist) (hall.sublist hsub)]
      intro f
      rw [mem_failures_iff, hmem]
    rw [(hall.perm_iff_eq_of_sublist failures_sublist hsub).mp hperm]

theorem check_reports_failures (tag : String) (raw : Entries Json) :
    ((∃ i, check tag raw = .ok i) ↔ ∀ f : InputField, f.IsValid tag raw) ∧
    (∀ fs, check tag raw = .error fs ↔
      fs ≠ [] ∧ fs.Sublist [.category, .difficulty, .topic, .instructions] ∧
        ∀ f, f ∈ fs ↔ ¬ f.IsValid tag raw) ∧
    (∀ i, check tag raw = .ok i ↔
      tag = i.category.tag ∧
        raw.get? "difficulty" = some (.string i.difficulty.tag) ∧
        (raw.get? "topic" = some (.string i.topic) ∧ i.topic ≠ "") ∧
        ((raw.get? "instructions" = none ∨ raw.get? "instructions" = some .null) ∧
            i.instructions = "" ∨
          raw.get? "instructions" = some (.string i.instructions))) ∧
    ∀ other : Entries Json,
      (∀ name ∈ ["difficulty", "topic", "instructions"], raw.get? name = other.get? name) →
        check tag raw = check tag other := by
  refine ⟨check_accepts_iff, fun fs => check_eq_error_iff, ?_, fun other h => check_congr h tag⟩
  intro i
  rw [check_eq_ok_iff, category?_eq_some_iff, difficulty?_eq_some_iff, topic?_eq_some_iff,
    instructions?_eq_some_iff]

theorem check_reports_failures_combined :
    let raw : Entries Json :=
      [("category", .string "fill"), ("instructions", .bool false), ("topic", .string "tides"),
        ("difficulty", .string "Easy")]
    let other : Entries Json :=
      [("difficulty", .string "Easy"), ("topic", .string "tides"), ("more", .null),
        ("instructions", .bool false)]
    check "essay" raw = .error [.category, .difficulty, .instructions] ∧
      InputField.IsValid "essay" raw .topic ∧
      check "mcq" other = .error [.difficulty, .instructions] ∧
      check "mcq" raw = check "mcq" other := by
  intro raw other
  have hraw : check "essay" raw = .error [.category, .difficulty, .instructions] := rfl
  have hother : check "mcq" other = .error [.difficulty, .instructions] := rfl
  obtain ⟨-, hfailures, -, -⟩ := check_reports_failures "essay" raw
  obtain ⟨-, -, hmem⟩ := (hfailures _).mp hraw
  have htopic : InputField.IsValid "essay" raw .topic :=
    Classical.not_not.mp (mt (hmem .topic).mpr (by decide))
  obtain ⟨-, -, -, hcongr⟩ := check_reports_failures "mcq" raw
  exact ⟨hraw, htopic, hother, hcongr other (by simp [raw, other, Entries.get?])⟩

end Input

end QuizService
