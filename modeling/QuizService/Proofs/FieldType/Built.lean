import QuizService.FieldType.Basic
import QuizService.Proofs.FieldType.Lowering

/-!
Defects and the parts of a type that show them. Main statement: a type made by the builders has no
optional part directly inside another, so it has a document unless a record in it declares a name
twice, and its optional form has the same outcome.
-/

namespace QuizService.FieldType

inductive IsPart (s : FieldType) : FieldType → Prop where
  | whole : IsPart s s
  | optionalOf {inner : FieldType} (h : IsPart s inner) : IsPart s (.optionalOf inner)
  | list {item : FieldType} (h : IsPart s item) : IsPart s (.list item)
  | map {value : FieldType} (h : IsPart s value) : IsPart s (.map value)
  | record {name : String} {fields : List (String × FieldType)} {f : String × FieldType}
    (hf : f ∈ fields) (h : IsPart s f.2) : IsPart s (.record name fields)

inductive Shows : Defect → FieldType → Prop where
  | nestedOptional (inner : FieldType) : Shows .nestedOptional (.optionalOf (.optionalOf inner))
  | repeatedField (name : String) {fields : List (String × FieldType)}
    (h : ¬ (Entries.names fields).Nodup) : Shows .repeatedField (.record name fields)

variable {path seen : List String} {fields : List (String × FieldType)} {s t : FieldType}
  {d : Defect} {e : SchemaError}

theorem isOptional_iff : t.isOptional = true ↔ ∃ inner, t = .optionalOf inner := by
  cases t <;> simp [isOptional]

theorem exists_fieldDefect_iff :
    (∃ e ∈ fieldDefectsAt path seen fields, e.defect = d) ↔
      (d = .repeatedField ∧
          ¬ (seen.Disjoint (Entries.names fields) ∧ (Entries.names fields).Nodup)) ∨
        ∃ f ∈ fields, ∃ e ∈ defectsAt (path ++ [f.1]) f.2, e.defect = d := by
  induction fields generalizing seen with
  | nil => simp [fieldDefectsAt, Entries.names]
  | cons f rest ih =>
    obtain ⟨name, t⟩ := f
    have hown : (∃ e ∈ (if name ∈ seen then [(⟨path ++ [name], .repeatedField⟩ : SchemaError)]
        else []), e.defect = d) ↔ d = .repeatedField ∧ name ∈ seen := by
      by_cases hn : name ∈ seen <;> simp [hn, eq_comm]
    have hlater : (seen ++ [name]).Disjoint (Entries.names rest) ↔
        seen.Disjoint (Entries.names rest) ∧ name ∉ Entries.names rest := by
      rw [List.disjoint_append_left, List.singleton_disjoint]
    have hfields : (∃ f ∈ (name, t) :: rest, ∃ e ∈ defectsAt (path ++ [f.1]) f.2, e.defect = d) ↔
        (∃ e ∈ defectsAt (path ++ [name]) t, e.defect = d) ∨
          ∃ f ∈ rest, ∃ e ∈ defectsAt (path ++ [f.1]) f.2, e.defect = d := by
      simp only [List.mem_cons, or_and_right, exists_or, exists_eq_left]
    rw [fieldDefectsAt, hfields]
    simp only [List.mem_append, or_and_right, exists_or, hown]
    rw [ih, hlater, Entries.names_cons, List.nodup_cons, List.disjoint_cons_right]
    by_cases hd : d = .repeatedField <;> by_cases hn : name ∈ seen <;>
      simp [hd, hn, or_left_comm]

theorem exists_defect_iff :
    (∃ e ∈ defectsAt path t, e.defect = d) ↔ ∃ s, IsPart s t ∧ Shows d s := by
  constructor
  · rintro ⟨e, he, rfl⟩
    induction t generalizing path e with
    | scalar k => contradiction
    | enumeration m => contradiction
    | optionalOf inner ih =>
      rcases List.mem_append.mp he with hown | hinner
      · have hi : inner.isOptional = true := by
          by_contra h
          simp [h] at hown
        obtain ⟨u, rfl⟩ := isOptional_iff.mp hi
        obtain rfl := List.mem_singleton.mp hown
        exact ⟨_, .whole, .nestedOptional u⟩
      · obtain ⟨s, hs, hd⟩ := ih _ hinner
        exact ⟨s, .optionalOf hs, hd⟩
    | list item ih =>
      obtain ⟨s, hs, hd⟩ := ih _ he
      exact ⟨s, .list hs, hd⟩
    | map value ih =>
      obtain ⟨s, hs, hd⟩ := ih _ he
      exact ⟨s, .map hs, hd⟩
    | record name fields ih =>
      rcases exists_fieldDefect_iff.mp ⟨e, he, rfl⟩ with ⟨hd, hn⟩ | ⟨f, hf, e', he', hd⟩
      · rw [hd]
        exact ⟨_, .whole, .repeatedField name fun h => hn ⟨List.disjoint_nil_left _, h⟩⟩
      · obtain ⟨s, hs, hs'⟩ := ih f hf _ he'
        exact ⟨s, .record hf hs, hd ▸ hs'⟩
  · rintro ⟨s, hs, hd⟩
    induction hs generalizing path with
    | whole =>
      cases hd with
      | nestedOptional inner => exact ⟨⟨path, .nestedOptional⟩, List.mem_cons_self, rfl⟩
      | repeatedField name h => exact exists_fieldDefect_iff.mpr (.inl ⟨rfl, fun hn => h hn.2⟩)
    | optionalOf _ ih =>
      obtain ⟨e, he, hd⟩ := @ih path
      exact ⟨e, List.mem_append_right _ he, hd⟩
    | list _ ih => exact ih
    | map _ ih => exact ih
    | record hf _ ih => exact exists_fieldDefect_iff.mpr (.inr ⟨_, hf, ih⟩)

theorem exists_error_iff :
    (∃ e, t.schema = .error e) ↔ ∃ d s, IsPart s t ∧ Shows d s := by
  have hhead : (∃ e, t.defects.head? = some e) ↔ ∃ d, ∃ e ∈ t.defects, e.defect = d := by
    cases t.defects with
    | nil => simp
    | cons e more => simp
  simp only [schema_eq, unlessFound_eq_error, hhead]
  exact exists_congr fun d => exists_defect_iff

theorem exists_part_of_error (h : t.schema = .error e) : ∃ s, IsPart s t ∧ Shows e.defect s := by
  rw [schema_eq, unlessFound_eq_error] at h
  exact exists_defect_iff.mp ⟨e, List.mem_of_mem_head? h, rfl⟩

theorem schema_optional (t : FieldType) : t.optional.schema = t.schema := by
  unfold optional
  split
  · rfl
  · rename_i h
    simp only [schema, lower, if_neg h]

theorem not_shows_of_built (h : Built t) (hs : IsPart s t) : ¬ Shows .nestedOptional s := by
  induction h with
  | scalar k => cases hs; nofun
  | enumeration m => cases hs; nofun
  | optional t _ ih =>
    unfold optional at hs
    split at hs
    · exact ih hs
    · rename_i hnot
      cases hs with
      | whole =>
        rintro ⟨inner⟩
        exact hnot rfl
      | optionalOf hs => exact ih hs
  | list item _ ih =>
    cases hs with
    | whole => nofun
    | list hs => exact ih hs
  | map value _ ih =>
    cases hs with
    | whole => nofun
    | map hs => exact ih hs
  | record name fields _ ih =>
    cases hs with
    | whole => nofun
    | record hf hs => exact ih _ hf hs

theorem built_iff : Built t ↔ ∀ inner, ¬ IsPart (.optionalOf (.optionalOf inner)) t := by
  constructor
  · intro h inner hs
    exact not_shows_of_built h hs (.nestedOptional inner)
  · intro h
    induction t with
    | scalar k => exact .scalar k
    | enumeration m => exact .enumeration m
    | optionalOf inner ih =>
      have hinner : inner.isOptional = false := by
        by_contra hnot
        obtain ⟨u, rfl⟩ := isOptional_iff.mp (Bool.not_eq_false _ ▸ hnot)
        exact h u .whole
      have heq : inner.optional = .optionalOf inner := by simp [optional, hinner]
      exact heq ▸ .optional inner (ih fun u hu => h u (.optionalOf hu))
    | list item ih => exact .list item (ih fun u hu => h u (.list hu))
    | map value ih => exact .map value (ih fun u hu => h u (.map hu))
    | record name fields ih =>
      exact .record name fields fun f hf => ih f hf fun u hu => h u (.record hf hu)

theorem schema_of_built (h : Built t) :
    (∀ inner, ¬ IsPart (.optionalOf (.optionalOf inner)) t) ∧
    ((∃ e, t.schema = .error e) ↔
      ∃ name fields, IsPart (.record name fields) t ∧ ¬ (Entries.names fields).Nodup) ∧
    (∀ e, t.schema = .error e → e.defect.reason = "duplicate field name") ∧
    t.optional.schema = t.schema := by
  refine ⟨built_iff.mp h, ?_, ?_, schema_optional t⟩
  · rw [exists_error_iff]
    constructor
    · rintro ⟨d, s, hs, hd⟩
      cases hd with
      | nestedOptional inner => exact absurd (.nestedOptional inner) (not_shows_of_built h hs)
      | repeatedField name hn => exact ⟨name, _, hs, hn⟩
    · rintro ⟨name, fields, hs, hn⟩
      exact ⟨.repeatedField, _, hs, .repeatedField name hn⟩
  · intro e he
    obtain ⟨s, hs, hd⟩ := exists_part_of_error he
    cases hdefect : e.defect with
    | nestedOptional => exact absurd (hdefect ▸ hd) (not_shows_of_built h hs)
    | repeatedField => rfl

theorem schema_of_built_repeated :
    let fields : List (String × FieldType) := [("label", .optional .string), ("label", .integer)]
    let t : FieldType := .optional (.optional (.map (.list (.record "Item" fields))))
    Built t ∧ ∃ e, t.schema = .error e ∧ e.defect.reason = "duplicate field name" ∧
      t.optional.schema = .error e := by
  intro fields t
  have hfields : ∀ f ∈ fields, Built f.2 :=
    List.forall_mem_cons.mpr
      ⟨.optional _ (.scalar .string), List.forall_mem_singleton.mpr (.scalar .integer)⟩
  have hbuilt : Built t :=
    .optional _ (.optional _ (.map _ (.list _ (.record "Item" _ hfields))))
  have hpart : IsPart (.record "Item" fields) t := .optionalOf (.map (.list .whole))
  have hrepeated : ¬ (Entries.names fields).Nodup := by decide
  obtain ⟨-, hfails, hreason, hoptional⟩ := schema_of_built hbuilt
  obtain ⟨e, he⟩ := hfails.mpr ⟨_, _, hpart, hrepeated⟩
  exact ⟨hbuilt, e, he, hreason e he, hoptional.trans he⟩

end QuizService.FieldType
