import QuizService.FieldType.Schema
import QuizService.Proofs.Entries
import QuizService.Question.Error

/-!
Lowering stops at the first defect of the walk. Main statement: the outcome of lowering a type is
its outline, or the head of its list of defects; the ways of a record's own document begin with
its name.
-/

namespace QuizService

namespace FieldType

variable {way path seen : List String} {fields : List (String × FieldType)}

@[elab_as_elim, induction_eliminator]
theorem induct {motive : FieldType → Prop}
    (scalar : ∀ s, motive (.scalar s))
    (enumeration : ∀ e, motive (.enumeration e))
    (optionalOf : ∀ inner, motive inner → motive (.optionalOf inner))
    (list : ∀ item, motive item → motive (.list item))
    (map : ∀ value, motive value → motive (.map value))
    (record : ∀ name fields, (∀ f ∈ fields, motive f.2) → motive (.record name fields))
    (t : FieldType) : motive t :=
  @FieldType.rec motive (fun fields => ∀ f ∈ fields, motive f.2) (fun f => motive f.2)
    scalar enumeration optionalOf list map record (by simp)
    (fun _ _ hf hrest => List.forall_mem_cons.mpr ⟨hf, hrest⟩) (fun _ _ ht => ht) t

mutual

def outline : FieldType → Json
  | .scalar s => document s.name []
  | .enumeration e => document e.kind.name [("enum", .array (e.members.map Literal.json))]
  | .optionalOf inner => outline inner
  | .list item => document "array" [("items", outline item)]
  | .map value => document "object" [("additionalProperties", outline value)]
  | .record _ fields => document "object" [("properties", .object (outlines fields))]

def outlines : List (String × FieldType) → List (String × Json)
  | [] => []
  | (name, t) :: rest => (name, outline t) :: outlines rest

end

theorem outlines_eq_map (fields : List (String × FieldType)) :
    outlines fields = fields.map fun f => (f.1, f.2.outline) := by
  induction fields with
  | nil => rfl
  | cons f rest ih => rw [outlines, ih, List.map_cons]

def unlessFound {α : Type} (result : α) : List SchemaError → Except SchemaError α
  | [] => .ok result
  | e :: _ => .error e

theorem map_unlessFound {α β : Type} (f : α → β) (a : α) (found : List SchemaError) :
    f <$> unlessFound a found = unlessFound (f a) found := by
  cases found <;> rfl

theorem bind_unlessFound {α β : Type} {k : α → Except SchemaError β} {a : α} {b : β}
    {found more : List SchemaError} (h : k a = unlessFound b more) :
    unlessFound a found >>= k = unlessFound b (found ++ more) := by
  cases found with
  | nil => exact h
  | cons e rest => rfl

theorem unlessFound_eq_ok {α : Type} {a b : α} {found : List SchemaError} :
    unlessFound a found = .ok b ↔ found = [] ∧ a = b := by
  cases found <;> simp [unlessFound]

theorem unlessFound_eq_error {α : Type} {a : α} {found : List SchemaError} {e : SchemaError} :
    unlessFound a found = .error e ↔ found.head? = some e := by
  cases found <;> simp [unlessFound]

@[simp]
theorem ok_bind {α β : Type} (a : α) (k : α → Except SchemaError β) : (.ok a >>= k) = k a :=
  rfl

@[simp]
theorem error_bind {α β : Type} (e : SchemaError) (k : α → Except SchemaError β) :
    (.error e >>= k) = .error e :=
  rfl

@[simp]
theorem run_push (segment : String) (way : List String) :
    (Lowering.push segment).run way = .ok ((), way ++ [segment]) :=
  rfl

@[simp]
theorem run_pop (way : List String) : Lowering.pop.run way = .ok ((), way.dropLast) :=
  rfl

@[simp]
theorem run_refuse {α : Type} (defect : Defect) (way : List String) :
    (Lowering.refuse defect : Lowering α).run way = .error ⟨way, defect⟩ :=
  rfl

theorem run_part {α β : Type} {x : Lowering α} {a : α} {segment : String}
    {found : List SchemaError}
    (hx : x.run (way ++ [segment]) = unlessFound (a, way ++ [segment]) found)
    (f : α → Lowering β) :
    (do
      Lowering.push segment
      let v ← x
      Lowering.pop
      f v).run way = unlessFound a found >>= fun v => (f v).run way := by
  simp only [StateT.run_bind, run_push, run_pop, ok_bind, hx]
  cases found with
  | nil => simp [unlessFound]
  | cons e more => rfl

theorem run_lowerFields
    (hf : ∀ f ∈ fields, ∀ way,
      (lower f.2).run way = unlessFound (f.2.outline, way) (defectsAt way f.2))
    {seen' : List String} (hs : ∀ n, n ∈ seen ↔ n ∈ seen') :
    (lowerFields seen fields).run way =
      unlessFound (outlines fields, way) (fieldDefectsAt way seen' fields) := by
  -- Lowering keeps the names it has seen backwards, the walk does not.
  induction fields generalizing seen seen' with
  | nil => rfl
  | cons f rest ih =>
    obtain ⟨name, t⟩ := f
    obtain ⟨ht, hrest⟩ := List.forall_mem_cons.mp hf
    by_cases hn : name ∈ seen
    · have hn' : name ∈ seen' := (hs name).mp hn
      simp [lowerFields, fieldDefectsAt, hn, hn', unlessFound]
    · have hn' : name ∉ seen' := fun h => hn ((hs name).mpr h)
      have hs' : ∀ n, n ∈ name :: seen ↔ n ∈ seen' ++ [name] := by
        intro n
        simp [hs n, or_comm]
      simp only [lowerFields, if_neg hn, fieldDefectsAt, if_neg hn', List.nil_append]
      rw [run_part (ht _)]
      simp only [StateT.run_bind, ih hrest hs']
      apply bind_unlessFound
      exact map_unlessFound _ _ _

theorem run_lower (t : FieldType) (way : List String) :
    (lower t).run way = unlessFound (t.outline, way) (defectsAt way t) := by
  induction t generalizing way with
  | scalar s => rfl
  | enumeration e => rfl
  | optionalOf inner ih =>
    by_cases h : inner.isOptional
    · simp [lower, defectsAt, h, unlessFound]
    · simp [lower, defectsAt, h, ih, outline]
  | list item ih =>
    rw [lower, run_part (ih _)]
    exact map_unlessFound _ _ _
  | map value ih =>
    rw [lower, run_part (ih _)]
    exact map_unlessFound _ _ _
  | record name fields ih =>
    rw [lower, StateT.run_bind, run_lowerFields ih fun _ => Iff.rfl]
    exact map_unlessFound _ _ _

/-- What was pushed is popped again: a type that is lowered leaves the way as it found it. -/
theorem run_lower_restores (t : FieldType) (way : List String) :
    t.lower.run way = (t.lower.run' way).map fun d => (d, way) := by
  rw [StateT.run'_eq, run_lower]
  cases defectsAt way t <;> rfl

theorem schema_eq (t : FieldType) : t.schema = unlessFound t.outline t.defects := by
  rw [schema, StateT.run'_eq, run_lower, map_unlessFound]
  rfl

theorem schema_eq_ok {t : FieldType} {d : Json} :
    t.schema = .ok d ↔ t.defects = [] ∧ t.outline = d := by
  rw [schema_eq, unlessFound_eq_ok]

theorem exists_schema_iff {t : FieldType} : (∃ d, t.schema = .ok d) ↔ t.defects = [] := by
  simp [schema_eq_ok]

end FieldType

def SchemaError.below (segment : String) (e : SchemaError) : SchemaError :=
  { e with path := segment :: e.path }

namespace FieldType

variable {path seen : List String} {fields : List (String × FieldType)}

theorem fieldDefectsAt_cons (segment : String)
    (hf : ∀ f ∈ fields, ∀ path,
      defectsAt (segment :: path) f.2 = (defectsAt path f.2).map (.below segment)) :
    fieldDefectsAt (segment :: path) seen fields =
      (fieldDefectsAt path seen fields).map (.below segment) := by
  induction fields generalizing seen with
  | nil => rfl
  | cons f rest ih =>
    obtain ⟨name, t⟩ := f
    obtain ⟨ht, hrest⟩ := List.forall_mem_cons.mp hf
    simp only [fieldDefectsAt, List.cons_append, List.map_append, ht, ih hrest]
    by_cases hn : name ∈ seen <;> simp [hn, SchemaError.below]

theorem defectsAt_cons (segment : String) (path : List String) (t : FieldType) :
    defectsAt (segment :: path) t = (defectsAt path t).map (.below segment) := by
  induction t generalizing path with
  | scalar s => rfl
  | enumeration e => rfl
  | optionalOf inner ih =>
    by_cases h : inner.isOptional <;> simp [defectsAt, h, ih, SchemaError.below]
  | list item ih => simp only [defectsAt, List.cons_append, ih]
  | map value ih => simp only [defectsAt, List.cons_append, ih]
  | record name fields ih => simp only [defectsAt, fieldDefectsAt_cons segment ih]

theorem defectsAt_eq_nil_iff {t : FieldType} : defectsAt path t = [] ↔ t.defects = [] := by
  induction path with
  | nil => exact Iff.rfl
  | cons segment path ih => rw [defectsAt_cons, List.map_eq_nil_iff, ih]

theorem fieldDefectsAt_eq_nil_iff :
    fieldDefectsAt path seen fields = [] ↔
      (∀ f ∈ fields, f.1 ∉ seen) ∧ (∀ f ∈ fields, f.2.defects = []) ∧
        (Entries.names fields).Nodup := by
  induction fields generalizing seen with
  | nil => simp [fieldDefectsAt, Entries.names]
  | cons f rest ih =>
    obtain ⟨name, t⟩ := f
    have hname : name ∉ Entries.names rest ↔ ∀ f ∈ rest, f.1 ≠ name := by
      rw [Entries.names, List.mem_map, not_exists]
      exact forall_congr' fun f => not_and
    have hif : (if name ∈ seen then [(⟨path ++ [name], .repeatedField⟩ : SchemaError)] else []) = []
        ↔ name ∉ seen := by
      simp
    rw [fieldDefectsAt, List.append_eq_nil_iff, List.append_eq_nil_iff, hif, defectsAt_eq_nil_iff,
      ih, Entries.names_cons, List.nodup_cons, hname]
    simp only [List.forall_mem_cons, List.mem_append, List.mem_singleton, not_or, forall_and]
    constructor
    · rintro ⟨hseen, ht, ⟨hrest, hother⟩, hdefects, hnodup⟩
      exact ⟨⟨hseen, hrest⟩, ⟨ht, hdefects⟩, hother, hnodup⟩
    · rintro ⟨⟨hseen, hrest⟩, ⟨ht, hdefects⟩, hother, hnodup⟩
      exact ⟨hseen, ht, ⟨hrest, hother⟩, hdefects, hnodup⟩

theorem defects_optionalOf_eq_nil {inner : FieldType} (h : (optionalOf inner).defects = []) :
    inner.defects = [] :=
  (List.append_eq_nil_iff.mp h).2

theorem defects_list_eq_nil_iff {item : FieldType} : (list item).defects = [] ↔ item.defects = [] :=
  @defectsAt_eq_nil_iff [listMark] item

theorem defects_map_eq_nil_iff {value : FieldType} :
    (map value).defects = [] ↔ value.defects = [] :=
  @defectsAt_eq_nil_iff [mapMark] value

theorem defects_record_eq_nil_iff {name : String} :
    (record name fields).defects = [] ↔
      (∀ f ∈ fields, f.2.defects = []) ∧ (Entries.names fields).Nodup := by
  have hfields : (record name fields).defects = [] ↔ fieldDefectsAt [] [] fields = [] := Iff.rfl
  rw [hfields, fieldDefectsAt_eq_nil_iff]
  simp

theorem fieldDefectsAt_of_nodup (hn : (Entries.names fields).Nodup)
    (hseen : ∀ f ∈ fields, f.1 ∉ seen) :
    fieldDefectsAt path seen fields =
      fields.flatMap fun f => defectsAt (path ++ [f.1]) f.2 := by
  induction fields generalizing seen with
  | nil => rfl
  | cons f rest ih =>
    obtain ⟨name, t⟩ := f
    obtain ⟨hname, hrest⟩ := List.nodup_cons.mp hn
    obtain ⟨hfirst, hlater⟩ := List.forall_mem_cons.mp hseen
    have hseen' : ∀ f ∈ rest, f.1 ∉ seen ++ [name] := by
      intro f hf hmem
      rcases List.mem_append.mp hmem with h | h
      · exact hlater f hf h
      · have hmention : f.1 ∈ Entries.names rest := Entries.mem_names hf
        rw [List.mem_singleton.mp h] at hmention
        exact hname hmention
    rw [fieldDefectsAt, if_neg hfirst, ih hrest hseen', List.nil_append, List.flatMap_cons]

end FieldType

theorem RecordType.schema_eq (r : RecordType) :
    r.schema = r.type.schema.mapError (.below r.name) := by
  have hd : r.schema =
      FieldType.unlessFound r.type.outline (r.type.defects.map (.below r.name)) := by
    rw [RecordType.schema, StateT.run'_eq, FieldType.run_lower, FieldType.map_unlessFound]
    exact congrArg _ (FieldType.defectsAt_cons r.name [] r.type)
  rw [hd, FieldType.schema_eq]
  cases r.type.defects <;> rfl

theorem RecordType.schema_eq_ok {r : RecordType} {d : Json} :
    r.schema = .ok d ↔ r.type.schema = .ok d := by
  rw [RecordType.schema_eq]
  cases r.type.schema with
  | ok _ => exact Iff.rfl
  | error _ => constructor <;> intro h <;> contradiction

theorem RecordType.exists_schema_iff {r : RecordType} (hn : (Entries.names r.fields).Nodup) :
    (∃ d, r.schema = .ok d) ↔ ∀ f ∈ r.fields, ∃ d, f.2.schema = .ok d := by
  simp only [RecordType.schema_eq_ok, FieldType.exists_schema_iff]
  have hrecord : r.type.defects = [] ↔
      (∀ f ∈ r.fields, f.2.defects = []) ∧ (Entries.names r.fields).Nodup :=
    FieldType.defects_record_eq_nil_iff
  exact hrecord.trans (and_iff_left hn)

theorem RecordType.exists_of_schema_eq_error {r : RecordType} {e : SchemaError}
    (hn : (Entries.names r.fields).Nodup) (h : r.schema = .error e) :
    ∃ f ∈ r.fields, ∃ inner, f.2.schema = .error inner ∧ e = (inner.below f.1).below r.name := by
  have hdefects : r.type.defects =
      r.fields.flatMap fun f => f.2.defects.map (SchemaError.below f.1) := by
    change FieldType.fieldDefectsAt [] [] r.fields = _
    rw [FieldType.fieldDefectsAt_of_nodup hn (by simp)]
    simp only [List.nil_append, FieldType.defectsAt_cons]
    rfl
  rw [RecordType.schema_eq] at h
  cases ht : r.type.schema with
  | ok d =>
    rw [ht] at h
    contradiction
  | error outer =>
    rw [ht] at h
    obtain rfl := Except.error.inj h
    rw [FieldType.schema_eq, FieldType.unlessFound_eq_error, hdefects, List.head?_flatMap] at ht
    obtain ⟨f, hf, hhead⟩ := List.exists_of_findSome?_eq_some ht
    rw [List.head?_map, Option.map_eq_some_iff] at hhead
    obtain ⟨inner, hinner, rfl⟩ := hhead
    refine ⟨f, hf, inner, ?_, rfl⟩
    rw [FieldType.schema_eq, FieldType.unlessFound_eq_error, hinner]

theorem schema_of_first_defect :
    (∀ t : FieldType, (∃ d, t.schema = .ok d) ↔ t.defects = []) ∧
    (∀ (t : FieldType) (e : SchemaError), t.schema = .error e ↔ t.defects.head? = some e) ∧
    (∀ r : RecordType, r.schema = r.type.schema.mapError (.below r.name)) ∧
    (∀ (t : FieldType) (way : List String),
      t.lower.run way = (t.lower.run' way).map fun d => (d, way)) ∧
    (∀ path : List String, ∀ defect : Defect,
      QuizError.ofSchema ⟨path, defect⟩ =
        .unsupportedType (if path = [] then "<root>" else ".".intercalate path)
          (match defect with
            | .nestedOptional => "optional wrapping another optional"
            | .repeatedField => "duplicate field name")) := by
  refine ⟨fun t => ?_, fun t e => ?_, RecordType.schema_eq, FieldType.run_lower_restores,
    fun path defect => ?_⟩
  · simp only [FieldType.schema_eq_ok]
    exact ⟨fun ⟨_, h, _⟩ => h, fun h => ⟨_, h, rfl⟩⟩
  · rw [FieldType.schema_eq, FieldType.unlessFound_eq_error]
  · cases path <;> cases defect <;> rfl

example :
    (RecordType.mk "Outer"
      [("items", .list (.record "Item" [("label", .optionalOf (.optionalOf .string))]))]).schema =
        .error ⟨["Outer", "items", "[]", "label"], .nestedOptional⟩ :=
  rfl

end QuizService
