import QuizService.Proofs.Question.Declaration

/-!
What a shape is put together from. Main statement: the fields stand in the order of their first
declaration with the type of their last, a pin is default and pin of its field, other defaults are
those of the last fragment that declares a field, and marks stand in the order of their first
mention; only a pin of an undeclared name stops the building.
-/

namespace QuizService.Shape

variable {s : Shape} {tag : QuestionType} {fragments : List Fragment}
  {pins : List (String × Json)}

structure Assembled (s : Shape) (tag : QuestionType) (fragments : List Fragment)
    (pins : List (String × Json)) : Prop where
  record : s.recordType = ⟨tag.tag, s.fields⟩
  names : s.fields.names = (Entries.names (fragments.flatMap Fragment.fields)).eraseDups
  distinct : s.fields.names.Nodup
  type : ∀ name,
    s.fields.get? name = (Fragment.declaration? fragments.flatten name).map Prod.fst
  pinned : ∀ name v, Entries.get? pins.reverse name = some v →
    s.pins.get? name = some v ∧ s.defaults.get? name = some v
  unpinned : ∀ name, name ∉ Entries.names pins →
    s.pins.get? name = none ∧
      s.defaults.get? name = (Fragment.last? fragments name).bind fun f => f.default? name
  shuffled : s.shuffled =
    (fragments.flatMap Fragment.marks).eraseDups.filter fun name => name ∈ s.fields.names
  markedOnce : s.shuffled.Nodup

theorem names_composed :
    (composed tag fragments).fields.names =
      (Entries.names (fragments.flatMap Fragment.fields)).eraseDups := by
  rw [fields_composed, Entries.names_putAll_nil]

theorem shuffled_build (h : build tag fragments pins = .ok s) :
    s.shuffled =
      (fragments.flatMap Fragment.marks).eraseDups.filter fun name => name ∈ s.fields.names := by
  obtain ⟨-, rfl⟩ := build_eq_ok_iff.mp h
  change (composed tag fragments).shuffled.filter _ = _
  rw [shuffled_composed]
  apply List.filter_congr
  intro name _
  apply Bool.eq_iff_iff.mpr
  rw [Entries.has_iff, decide_eq_true_iff]
  exact Iff.rfl

theorem assembled_build (h : build tag fragments pins = .ok s) :
    s.Assembled tag fragments pins where
  record := by
    obtain ⟨-, rfl⟩ := build_eq_ok_iff.mp h
    change RecordType.mk (composed tag fragments).tag.tag _ = _
    rw [tag_composed]
  names := by
    obtain ⟨-, rfl⟩ := build_eq_ok_iff.mp h
    exact names_composed
  distinct := (distinct_build h).fields
  type := get?_fields_build h
  pinned := by
    intro name v hv
    rw [get?_pins_build h, get?_defaults_build h, hv]
    exact ⟨rfl, rfl⟩
  unpinned := by
    intro name hname
    rw [get?_pins_build h, get?_defaults_build h, Entries.get?_reverse_eq_none_iff.mpr hname]
    exact ⟨rfl, Option.none_or⟩
  shuffled := shuffled_build h
  markedOnce := by
    rw [shuffled_build h]
    exact (Entries.nodup_eraseDups _).filter _

theorem build_composition (tag : QuestionType) (fragments : List Fragment)
    (pins : List (String × Json)) :
    (∀ e, build tag fragments pins = .error e ↔
      ∃ pin, pins.find? (fun pin => pin.1 ∉ Entries.names (fragments.flatMap Fragment.fields)) =
          some pin ∧
        e = .undeclaredPin tag.tag pin.1) ∧
    ∀ s, build tag fragments pins = .ok s →
      s.Assembled tag fragments pins ∧
      ((∃ d, s.schema = .ok d) ↔ ∀ f ∈ s.fields, ∃ d, f.2.schema = .ok d) ∧
      ∀ e, s.schema = .error e →
        ∃ f ∈ s.fields, ∃ inner, f.2.schema = .error inner ∧
          e = (inner.below f.1).below tag.tag := by
  constructor
  · intro e
    rw [build_eq_error_iff, pinAll?_eq_error_iff, tag_composed, names_composed]
    simp only [List.mem_eraseDups]
  · intro s h
    have hs : s.Assembled tag fragments pins := assembled_build h
    have hn : (Entries.names s.recordType.fields).Nodup := hs.distinct
    refine ⟨hs, RecordType.exists_schema_iff hn, ?_⟩
    intro e he
    obtain ⟨f, hf, inner, hinner, rfl⟩ := RecordType.exists_of_schema_eq_error hn he
    refine ⟨f, hf, inner, hinner, ?_⟩
    rw [hs.record]

theorem build_composition_redeclared :
    let first : Fragment :=
      [.field "x" .integer (some (.int64 3)), .shuffled "z", .field "y" .string none, .shuffled "w"]
    let second : Fragment :=
      [.field "z" (.list .string) (some (.strings ["a"])), .shuffled "y", .field "x" .string none,
        .field "z" .integer (some (.int64 5)), .shuffled "z"]
    ∃ s, build .fill [first, second] [("y", .string "b"), ("y", .string "c")] = .ok s ∧
      s.fields.names = ["x", "y", "z"] ∧ s.shuffled = ["z", "y"] ∧
      s.fields.get? "x" = some .string ∧ s.defaults.get? "x" = none ∧
      s.defaults.get? "y" = some (.string "c") ∧ s.defaults.get? "z" = some (.int64 5) := by
  intro first second
  have hb : ∃ s, build .fill [first, second] [("y", .string "b"), ("y", .string "c")] = .ok s :=
    ⟨_, rfl⟩
  obtain ⟨s, hs⟩ := hb
  obtain ⟨-, hbuilt⟩ :=
    build_composition .fill [first, second] [("y", .string "b"), ("y", .string "c")]
  obtain ⟨hassembled, -⟩ := hbuilt s hs
  obtain ⟨-, hx⟩ := hassembled.unpinned "x" (by decide)
  obtain ⟨-, hy⟩ := hassembled.pinned "y" (.string "c") rfl
  obtain ⟨-, hz⟩ := hassembled.unpinned "z" (by decide)
  have hnames : s.fields.names = ["x", "y", "z"] := hassembled.names
  refine ⟨s, hs, hnames, ?_, hassembled.type "x", hx, hy, hz⟩
  rw [hassembled.shuffled, hnames]
  decide

end QuizService.Shape
