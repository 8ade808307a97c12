import QuizService.Proofs.Entries
import QuizService.Question.Shape

namespace QuizService.Shape

section

variable {P : Shape → Prop} {s t : Shape}

theorem compose_preserves (hdeclare : ∀ s f, P s → P (s.declare f))
    (hdefaults : ∀ s values, P s → P { s with defaults := Entries.putAll s.defaults values })
    (hmark : ∀ s name, P s → P (s.mark name)) (f : Fragment) (hs : P s) : P (s.compose f) :=
  List.foldlRecOn f.marks mark
    (hdefaults _ _ (List.foldlRecOn f.fields declare hs fun s hs e _ => hdeclare s e hs))
    fun s hs name _ => hmark s name hs

theorem pinAll?_preserves (hpin : ∀ s name value t, s.pin? name value = .ok t → P s → P t)
    {pins : List (String × Json)} (h : s.pinAll? pins = .ok t) (hs : P s) : P t := by
  induction pins generalizing s with
  | nil =>
    obtain rfl := Except.ok.inj h
    exact hs
  | cons pin rest ih =>
    obtain ⟨name, value⟩ := pin
    rw [pinAll?] at h
    split at h
    · rename_i u hu
      exact ih h (hpin s name value u hu hs)
    · contradiction

theorem build_preserves {tag : QuestionType} {fragments : List Fragment}
    {pins : List (String × Json)} (hempty : P (empty tag))
    (hdeclare : ∀ s f, P s → P (s.declare f))
    (hdefaults : ∀ s values, P s → P { s with defaults := Entries.putAll s.defaults values })
    (hmark : ∀ s name, P s → P (s.mark name))
    (hpin : ∀ s name value t, s.pin? name value = .ok t → P s → P t)
    (hsettle : ∀ s, P s → P s.settle) (h : build tag fragments pins = .ok s) : P s := by
  have hcomposed : P (fragments.foldl compose (empty tag)) :=
    List.foldlRecOn fragments compose hempty
      fun s hs f _ => compose_preserves hdeclare hdefaults hmark f hs
  rw [build] at h
  cases hp : (fragments.foldl compose (empty tag)).pinAll? pins with
  | error e => simp [hp, Except.map] at h
  | ok t =>
    rw [hp] at h
    obtain rfl := Except.ok.inj h
    exact hsettle t (pinAll?_preserves hpin hp hcomposed)

end

section

variable {s t : Shape} {tag : QuestionType} {fragments : List Fragment}
  {pins : List (String × Json)}

def under (s : Shape) (pins : List (String × Json)) : Shape :=
  { s with defaults := s.defaults.putAll pins, pins := s.pins.putAll pins }

theorem pinAll?_eq_ok_iff :
    s.pinAll? pins = .ok t ↔
      (∀ pin ∈ pins, s.fields.has pin.1 = true) ∧ s.under pins = t := by
  induction pins generalizing s with
  | nil => simp [pinAll?, under, Entries.putAll]
  | cons pin rest ih =>
    obtain ⟨name, value⟩ := pin
    by_cases h : s.fields.has name = true
    · simp only [pinAll?, pin?, h, if_true, ih, List.forall_mem_cons, true_and]
      rfl
    · simp [pinAll?, pin?, h]

def composed (tag : QuestionType) (fragments : List Fragment) : Shape :=
  fragments.foldl compose (empty tag)

theorem build_eq_ok_iff :
    build tag fragments pins = .ok s ↔
      (∀ pin ∈ pins, (composed tag fragments).fields.has pin.1 = true) ∧
        ((composed tag fragments).under pins).settle = s := by
  unfold build
  change ((composed tag fragments).pinAll? pins).map settle = .ok s ↔ _
  constructor
  · intro h
    cases hp : (composed tag fragments).pinAll? pins with
    | error e => simp [hp, Except.map] at h
    | ok t =>
      obtain ⟨hdeclared, rfl⟩ := pinAll?_eq_ok_iff.mp hp
      rw [hp] at h
      exact ⟨hdeclared, Except.ok.inj h⟩
  · rintro ⟨hdeclared, rfl⟩
    rw [pinAll?_eq_ok_iff.mpr ⟨hdeclared, rfl⟩]
    rfl

theorem build_eq_error_iff {e : QuizError} :
    build tag fragments pins = .error e ↔
      (composed tag fragments).pinAll? pins = .error e := by
  unfold build
  change ((composed tag fragments).pinAll? pins).map settle = .error e ↔ _
  cases (composed tag fragments).pinAll? pins with
  | ok t => exact iff_of_false nofun nofun
  | error e => exact Iff.rfl

theorem pinAll?_eq_error_iff {e : QuizError} :
    s.pinAll? pins = .error e ↔
      ∃ pin, pins.find? (fun pin => pin.1 ∉ s.fields.names) = some pin ∧
        e = .undeclaredPin s.tag.tag pin.1 := by
  induction pins generalizing s with
  | nil => simp [pinAll?]
  | cons pin rest ih =>
    obtain ⟨name, value⟩ := pin
    rw [List.find?_cons]
    by_cases h : name ∈ s.fields.names
    · have hpin : s.pin? name value =
          .ok { s with defaults := s.defaults.put name value, pins := s.pins.put name value } :=
        if_pos (Entries.has_iff.mpr h)
      simp only [pinAll?, hpin, ih, h, not_true_eq_false, decide_false]
    · have hpin : s.pin? name value = .error (.undeclaredPin s.tag.tag name) :=
        if_neg (mt Entries.has_iff.mp h)
      simp [pinAll?, hpin, h, eq_comm]

end

section

variable {tag : QuestionType} {fragments : List Fragment}

theorem foldl_declare_eq (fields : List (String × FieldType)) (s : Shape) :
    fields.foldl declare s =
      { s with
        fields := s.fields.putAll fields
        defaults := (fields.foldl declare s).defaults } := by
  induction fields generalizing s with
  | nil => rfl
  | cons f rest ih => exact ih (s.declare f)

theorem foldl_mark_eq (marks : List String) (s : Shape) :
    marks.foldl mark s = { s with shuffled := marks.foldl Entries.mention s.shuffled } := by
  induction marks generalizing s with
  | nil => rfl
  | cons name rest ih =>
    have hmark : s.mark name = { s with shuffled := Entries.mention s.shuffled name } := by
      unfold mark Entries.mention
      split <;> rfl
    rw [List.foldl_cons, hmark, ih]
    rfl

theorem compose_eq (s : Shape) (f : Fragment) :
    s.compose f =
      { s with
        fields := s.fields.putAll f.fields
        defaults := (f.fields.foldl declare s).defaults.putAll f.defaults
        shuffled := f.marks.foldl Entries.mention s.shuffled } := by
  rw [compose, foldl_mark_eq, foldl_declare_eq]

theorem foldl_compose_eq (fragments : List Fragment) (s : Shape) :
    fragments.foldl compose s =
      { s with
        fields := s.fields.putAll (fragments.flatMap Fragment.fields)
        defaults := (fragments.foldl compose s).defaults
        shuffled := (fragments.flatMap Fragment.marks).foldl Entries.mention s.shuffled } := by
  induction fragments generalizing s with
  | nil => rfl
  | cons f rest ih =>
    rw [List.foldl_cons, ih, compose_eq, List.flatMap_cons, List.flatMap_cons, List.foldl_append,
      ← Entries.putAll_putAll_append]

theorem tag_composed : (composed tag fragments).tag = tag := by
  rw [composed, foldl_compose_eq]
  rfl

theorem pins_composed : (composed tag fragments).pins = [] := by
  rw [composed, foldl_compose_eq]
  rfl

theorem fields_composed :
    (composed tag fragments).fields =
      Entries.putAll [] (fragments.flatMap Fragment.fields) := by
  rw [composed, foldl_compose_eq]
  rfl

theorem shuffled_composed :
    (composed tag fragments).shuffled = (fragments.flatMap Fragment.marks).eraseDups := by
  rw [composed, foldl_compose_eq, ← Entries.foldl_mention_nil]
  rfl

end

structure Distinct (s : Shape) : Prop where
  fields : (Entries.names s.fields).Nodup
  defaults : (Entries.names s.defaults).Nodup
  pins : (Entries.names s.pins).Nodup

theorem distinct_declare (s : Shape) (f : String × FieldType) (hs : s.Distinct) :
    (s.declare f).Distinct := by
  refine ⟨Entries.nodup_put hs.fields, ?_, hs.pins⟩
  unfold declare
  split
  · exact Entries.nodup_erase hs.defaults
  · exact hs.defaults

theorem distinct_mark (s : Shape) (name : String) (hs : s.Distinct) : (s.mark name).Distinct := by
  unfold mark
  split <;> exact ⟨hs.fields, hs.defaults, hs.pins⟩

theorem distinct_pin (s : Shape) (name : String) (value : Json) (t : Shape)
    (h : s.pin? name value = .ok t) (hs : s.Distinct) : t.Distinct := by
  unfold pin? at h
  split at h
  · obtain rfl := Except.ok.inj h
    exact ⟨hs.fields, Entries.nodup_put hs.defaults, Entries.nodup_put hs.pins⟩
  · contradiction

theorem distinct_build {tag : QuestionType} {fragments : List Fragment}
    {pins : List (String × Json)} {s : Shape} (h : build tag fragments pins = .ok s) :
    s.Distinct := by
  refine build_preserves ⟨List.nodup_nil, List.nodup_nil, List.nodup_nil⟩ distinct_declare ?_
    distinct_mark distinct_pin ?_ h
  · exact fun s _ hs => ⟨hs.fields, Entries.nodup_putAll hs.defaults, hs.pins⟩
  · exact fun s hs => ⟨hs.fields, hs.defaults, hs.pins⟩

end QuizService.Shape
