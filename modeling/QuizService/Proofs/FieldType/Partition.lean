import QuizService.FieldType.Schema
import QuizService.Proofs.FieldType.Lowering

/-!
The mandatory and the optional fields of a record, and the names in its document. Main statement:
the two lists share out the declared names, each in the order of first declaration, by the type of
the first declaration; a document has the names of both, in that order.
-/

namespace QuizService.RecordType

variable {seen : List String} {fields : List (String × FieldType)} {r : RecordType}

theorem firstDeclarations_cons_of_mem {name : String} (h : name ∈ seen) (t : FieldType) :
    firstDeclarations seen ((name, t) :: fields) = firstDeclarations seen fields :=
  if_pos h

theorem firstDeclarations_cons_of_not_mem {name : String} (h : name ∉ seen) (t : FieldType) :
    firstDeclarations seen ((name, t) :: fields) =
      (name, t) :: firstDeclarations (name :: seen) fields :=
  if_neg h

theorem names_firstDeclarations :
    Entries.names (firstDeclarations seen fields) =
      ((Entries.names fields).filter fun name => name ∉ seen).eraseDups := by
  induction fields generalizing seen with
  | nil => rfl
  | cons f rest ih =>
    obtain ⟨name, t⟩ := f
    rw [Entries.names_cons, List.filter_cons]
    by_cases h : name ∈ seen
    · rw [firstDeclarations_cons_of_mem h, ih]
      simp [h]
    · rw [firstDeclarations_cons_of_not_mem h, Entries.names_cons, ih, if_pos (decide_eq_true h),
        List.eraseDups_cons, Entries.filter_not_mem_of_iff fun other => List.mem_cons]

theorem get?_firstDeclarations (name : String) :
    Entries.get? (firstDeclarations seen fields) name =
      if name ∈ seen then none else Entries.get? fields name := by
  induction fields generalizing seen with
  | nil => simp [firstDeclarations, Entries.get?]
  | cons f rest ih =>
    obtain ⟨other, t⟩ := f
    by_cases h : other ∈ seen
    · rw [firstDeclarations_cons_of_mem h, ih, Entries.get?_cons]
      by_cases hname : name = other <;> simp [hname, h]
    · rw [firstDeclarations_cons_of_not_mem h, Entries.get?_cons, Entries.get?_cons, ih]
      by_cases hname : name = other <;> simp [hname, h]

def declared (r : RecordType) : List String :=
  (Entries.names r.fields).eraseDups

def allowsMissing (r : RecordType) (name : String) : Bool :=
  (Entries.get? r.fields name).any FieldType.isOptional

theorem allowsMissing_iff {name : String} :
    r.allowsMissing name = true ↔
      ∃ inner, Entries.get? r.fields name = some (.optionalOf inner) := by
  unfold allowsMissing
  cases Entries.get? r.fields name with
  | none => simp
  | some t => cases t <;> simp [FieldType.isOptional]

theorem names_firstDeclarations_nil :
    Entries.names (firstDeclarations [] r.fields) = r.declared := by
  have hall : (Entries.names r.fields).filter (fun name => name ∉ []) = Entries.names r.fields := by
    simp
  rw [names_firstDeclarations, hall, declared]

theorem names_filter_firstDeclarations (chosen : Bool → Bool) :
    ((firstDeclarations [] r.fields).filter fun f => chosen f.2.isOptional).map Prod.fst =
      r.declared.filter fun name => chosen (r.allowsMissing name) := by
  have hn : (Entries.names (firstDeclarations [] r.fields)).Nodup := by
    rw [names_firstDeclarations_nil]
    exact Entries.nodup_eraseDups _
  rw [← names_firstDeclarations_nil, Entries.names, List.filter_map]
  congr 1
  apply List.filter_congr
  intro f hf
  have hfirst := Entries.get?_of_mem hn hf
  rw [get?_firstDeclarations, if_neg List.not_mem_nil] at hfirst
  rw [Function.comp_apply, allowsMissing, hfirst, Option.any_some]

theorem mandatory_partition :
    r.partition.mandatory = r.declared.filter fun name => !r.allowsMissing name :=
  names_filter_firstDeclarations not

theorem optional_partition :
    r.partition.optional = r.declared.filter fun name => r.allowsMissing name :=
  names_filter_firstDeclarations id

/-- Two lists share out the declared names of a record. -/
structure Divides (r : RecordType) (p : Partition) : Prop where
  mandatory_nodup : p.mandatory.Nodup
  optional_nodup : p.optional.Nodup
  disjoint : p.mandatory.Disjoint p.optional
  declared : ∀ name,
    name ∈ p.mandatory ∨ name ∈ p.optional ↔ name ∈ Entries.names r.fields
  mandatory_order : p.mandatory.Sublist (Entries.names r.fields).eraseDups
  optional_order : p.optional.Sublist (Entries.names r.fields).eraseDups
  optional : ∀ name, name ∈ p.optional ↔
    ∃ inner, Entries.get? r.fields name = some (.optionalOf inner)

/-- Names that put two lists together, each in its order. -/
structure Merges (p : Partition) (keys : List String) : Prop where
  nodup : keys.Nodup
  mandatory : keys.filter (fun name => name ∈ p.mandatory) = p.mandatory
  optional : keys.filter (fun name => name ∈ p.optional) = p.optional
  keys : ∀ name, name ∈ keys ↔ name ∈ p.mandatory ∨ name ∈ p.optional

theorem mem_declared {name : String} : name ∈ r.declared ↔ name ∈ Entries.names r.fields :=
  List.mem_eraseDups

theorem mem_mandatory_iff {name : String} :
    name ∈ r.partition.mandatory ↔ name ∈ r.declared ∧ r.allowsMissing name = false := by
  rw [mandatory_partition, List.mem_filter, Bool.not_eq_true']

theorem mem_optional_iff {name : String} :
    name ∈ r.partition.optional ↔ name ∈ r.declared ∧ r.allowsMissing name = true := by
  rw [optional_partition, List.mem_filter]

theorem mem_partition_iff {name : String} :
    name ∈ r.partition.mandatory ∨ name ∈ r.partition.optional ↔ name ∈ r.declared := by
  rw [mem_mandatory_iff, mem_optional_iff]
  cases r.allowsMissing name <;> simp

theorem mem_declared_of_allowsMissing {name : String} (h : r.allowsMissing name = true) :
    name ∈ r.declared := by
  obtain ⟨inner, hinner⟩ := allowsMissing_iff.mp h
  exact mem_declared.mpr (Entries.mem_names (Entries.mem_of_get? hinner))

theorem divides_partition (r : RecordType) : r.Divides r.partition where
  mandatory_nodup := by
    rw [mandatory_partition]
    exact (Entries.nodup_eraseDups _).filter _
  optional_nodup := by
    rw [optional_partition]
    exact (Entries.nodup_eraseDups _).filter _
  disjoint := by
    intro name hmandatory hoptional
    obtain ⟨-, hfalse⟩ := mem_mandatory_iff.mp hmandatory
    obtain ⟨-, htrue⟩ := mem_optional_iff.mp hoptional
    rw [hfalse] at htrue
    contradiction
  declared := fun name => mem_partition_iff.trans mem_declared
  mandatory_order := by
    rw [mandatory_partition]
    exact List.filter_sublist
  optional_order := by
    rw [optional_partition]
    exact List.filter_sublist
  optional := by
    intro name
    rw [mem_optional_iff, ← allowsMissing_iff]
    exact and_iff_right_of_imp mem_declared_of_allowsMissing

example :
    (RecordType.mk "Dup"
      [("a", .string), ("b", .optional .string), ("a", .optional .string),
        ("b", .integer)]).partition = ⟨["a"], ["b"]⟩ :=
  rfl

theorem merges_declared (r : RecordType) : Merges r.partition r.declared where
  nodup := Entries.nodup_eraseDups _
  mandatory := by
    conv_rhs => rw [mandatory_partition]
    apply List.filter_congr
    intro name hname
    simp [mem_mandatory_iff, hname]
  optional := by
    conv_rhs => rw [optional_partition]
    apply List.filter_congr
    intro name hname
    simp [mem_optional_iff, hname]
  keys := fun name => mem_partition_iff.symm

theorem exists_properties_of_schema {d : Json} (h : r.schema = .ok d) :
    ∃ properties, d = FieldType.document "object" [("properties", .object properties)] ∧
      Entries.names properties = r.declared := by
  obtain ⟨hdefects, rfl⟩ := FieldType.schema_eq_ok.mp (RecordType.schema_eq_ok.mp h)
  obtain ⟨-, hn⟩ := FieldType.defects_record_eq_nil_iff.mp hdefects
  refine ⟨FieldType.outlines r.fields, rfl, ?_⟩
  rw [declared, Entries.eraseDups_of_nodup hn, FieldType.outlines_eq_map, Entries.names,
    List.map_map]
  rfl

theorem partition_merges_schema (r : RecordType) :
    r.Divides r.partition ∧
      ∀ d, r.schema = .ok d →
        ∃ properties, d = FieldType.document "object" [("properties", .object properties)] ∧
          Merges r.partition (Entries.names properties) := by
  refine ⟨divides_partition r, ?_⟩
  intro d hd
  obtain ⟨properties, hproperties, hnames⟩ := exists_properties_of_schema hd
  refine ⟨properties, hproperties, ?_⟩
  rw [hnames]
  exact merges_declared r

theorem partition_merges_schema_alternating :
    let r : RecordType :=
      ⟨"Sample", [("a", .optional .string), ("b", .list (.optional .integer)), ("c", .string),
        ("d", .optional (.map .boolean))]⟩
    r.partition.mandatory = ["b", "c"] ∧ r.partition.optional = ["a", "d"] ∧
      ∃ d, r.schema = .ok d ∧
        ∃ properties, d = FieldType.document "object" [("properties", .object properties)] ∧
          Merges r.partition (Entries.names properties) := by
  intro r
  have hschema : ∃ d, r.schema = .ok d := ⟨_, rfl⟩
  obtain ⟨d, hd⟩ := hschema
  obtain ⟨-, hmerges⟩ := partition_merges_schema r
  exact ⟨rfl, rfl, d, hd, hmerges d hd⟩

end QuizService.RecordType
