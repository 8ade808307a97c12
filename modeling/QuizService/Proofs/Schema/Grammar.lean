import Mathlib.Data.Set.List
import QuizService.FieldType.Values
import QuizService.Proofs.Json.Value
import QuizService.Proofs.Schema.Meaning
import QuizService.Schema.Reading

/-!
The language of the documents that types are lowered to. Main statement: it is the grammar, and
the types without optional parts have all of it.
-/

namespace QuizService

theorem Literal.mem_range_text {m : Literal} (h : m.kind = .string) : m ∈ Set.range text := by
  cases m with
  | text s => exact ⟨s, rfl⟩
  | whole n => contradiction

theorem Literal.mem_range_whole {m : Literal} (h : m.kind = .integer) : m ∈ Set.range whole := by
  cases m with
  | text s => contradiction
  | whole n => exact ⟨n, rfl⟩

theorem Enumeration.texts_or_wholes (e : Enumeration) :
    (e.kind = .string ∧ ∃ first others, e.members = List.map Literal.text (first :: others)) ∨
      (e.kind = .integer ∧
        ∃ first others, e.members = List.map Literal.whole (first :: others)) := by
  obtain ⟨name, kind, members, hne, huniform⟩ := e
  cases members with
  | nil => contradiction
  | cons m ms =>
    obtain ⟨rfl, hms⟩ := List.forall_mem_cons.mp huniform
    cases m with
    | text s =>
      have hrange : ms ∈ Set.range (List.map Literal.text) := by
        rw [Set.range_list_map]
        exact fun m hm => Literal.mem_range_text (hms m hm)
      obtain ⟨others, rfl⟩ := hrange
      exact .inl ⟨rfl, s, others, rfl⟩
    | whole n =>
      have hrange : ms ∈ Set.range (List.map Literal.whole) := by
        rw [Set.range_list_map]
        exact fun m hm => Literal.mem_range_whole (hms m hm)
      obtain ⟨others, rfl⟩ := hrange
      exact .inr ⟨rfl, n, others, rfl⟩

def Enumeration.ofWholes (name : String) (first : Int64) (others : List Int64) : Enumeration where
  name := name
  kind := .integer
  members := (first :: others).map .whole
  nonempty := by simp
  uniform := by simp [Literal.kind]

namespace Schema

open FieldType (document outline outlines)

inductive Within (e : Json) : Json → Prop where
  | self : Within e e
  | items {keywords : List (String × Json)} {argument : Json} :
    ("items", argument) ∈ keywords → Within e argument → Within e (.object keywords)
  | values {keywords : List (String × Json)} {argument : Json} :
    ("additionalProperties", argument) ∈ keywords → Within e argument → Within e (.object keywords)
  | property {keywords declared : List (String × Json)} {p : String × Json} :
    ("properties", .object declared) ∈ keywords → p ∈ declared → Within e p.2 →
      Within e (.object keywords)

def IsCoherent (e : Json) : Prop :=
  ∃ keywords : Entries Json, e = .object keywords ∧ "required" ∉ keywords.names ∧
    ∀ choices, ("enum", choices) ∈ keywords →
      ∃ kind, ("type", .string kind) ∈ keywords ∧ ∀ v ∈ items choices, HasKind v kind

variable {e : Enumeration}

theorem outline_texts {first : String} {others : List String} (hk : e.kind = .string)
    (hm : e.members = List.map Literal.text (first :: others)) :
    outline (.enumeration e) = document "string" [("enum", .strings (first :: others))] := by
  rw [outline, hk, hm, List.map_map]
  rfl

theorem outline_wholes {first : Int64} {others : List Int64} (hk : e.kind = .integer)
    (hm : e.members = List.map Literal.whole (first :: others)) :
    outline (.enumeration e) =
      document "integer" [("enum", .array ((first :: others).map .int64))] := by
  rw [outline, hk, hm, List.map_map]
  rfl

theorem emitted_enumeration (e : Enumeration) : Emitted (outline (.enumeration e)) := by
  rcases e.texts_or_wholes with ⟨hk, first, others, hm⟩ | ⟨hk, first, others, hm⟩
  · rw [outline_texts hk hm]
    exact .texts first others
  · rw [outline_wholes hk hm]
    exact .wholes first others

theorem emitted_outline {t : FieldType} (h : t.defects = []) : Emitted t.outline := by
  induction t with
  | scalar s => exact .scalar s
  | enumeration e => exact emitted_enumeration e
  | optionalOf inner ih => exact ih (FieldType.defects_optionalOf_eq_nil h)
  | list item ih => exact .list _ (ih (FieldType.defects_list_eq_nil_iff.mp h))
  | map value ih => exact .map _ (ih (FieldType.defects_map_eq_nil_iff.mp h))
  | record name fields ih =>
    obtain ⟨hfields, hnames⟩ := FieldType.defects_record_eq_nil_iff.mp h
    rw [outline, FieldType.outlines_eq_map]
    refine .record _ ?_ ?_
    · rw [List.map_map]
      exact hnames
    · exact List.forall_mem_map.mpr fun f hf => ih f hf (hfields f hf)

theorem emitted_of_schema {t : FieldType} {d : Json} (h : t.schema = .ok d) : Emitted d := by
  obtain ⟨hdefects, rfl⟩ := FieldType.schema_eq_ok.mp h
  exact emitted_outline hdefects

theorem exists_fields {properties : List (String × Json)}
    (h : ∀ p ∈ properties, ∃ t : FieldType, t.IsMandatory ∧ t.schema = .ok p.2) :
    ∃ fields, outlines fields = properties ∧ FieldType.AreMandatory fields ∧
      ∀ f ∈ fields, f.2.defects = [] := by
  induction properties with
  | nil => exact ⟨[], rfl, trivial, nofun⟩
  | cons p rest ih =>
    obtain ⟨name, d⟩ := p
    obtain ⟨⟨t, ht, hschema⟩, hrest⟩ := List.forall_mem_cons.mp h
    obtain ⟨hdefects, rfl⟩ := FieldType.schema_eq_ok.mp hschema
    obtain ⟨fields, rfl, hfields, hnone⟩ := ih hrest
    exact ⟨(name, t) :: fields, rfl, ⟨ht, hfields⟩, List.forall_mem_cons.mpr ⟨hdefects, hnone⟩⟩

theorem exists_mandatory {d : Json} (h : Emitted d) :
    ∃ t : FieldType, t.IsMandatory ∧ t.schema = .ok d := by
  induction h with
  | scalar s => exact ⟨.scalar s, trivial, rfl⟩
  | texts first others =>
    have houtline := outline_texts (e := .ofTexts "" first others) rfl rfl
    exact ⟨.enumeration (.ofTexts "" first others), trivial,
      FieldType.schema_eq_ok.mpr ⟨rfl, houtline⟩⟩
  | wholes first others =>
    have houtline := outline_wholes (e := .ofWholes "" first others) rfl rfl
    exact ⟨.enumeration (.ofWholes "" first others), trivial,
      FieldType.schema_eq_ok.mpr ⟨rfl, houtline⟩⟩
  | list items _ ih =>
    obtain ⟨t, ht, hschema⟩ := ih
    obtain ⟨hdefects, rfl⟩ := FieldType.schema_eq_ok.mp hschema
    exact ⟨.list t, ht,
      FieldType.schema_eq_ok.mpr ⟨FieldType.defects_list_eq_nil_iff.mpr hdefects, rfl⟩⟩
  | map values _ ih =>
    obtain ⟨t, ht, hschema⟩ := ih
    obtain ⟨hdefects, rfl⟩ := FieldType.schema_eq_ok.mp hschema
    exact ⟨.map t, ht,
      FieldType.schema_eq_ok.mpr ⟨FieldType.defects_map_eq_nil_iff.mpr hdefects, rfl⟩⟩
  | record properties hnames _ ih =>
    obtain ⟨fields, rfl, hfields, hnone⟩ := exists_fields ih
    rw [FieldType.outlines_eq_map, List.map_map] at hnames
    exact ⟨.record "" fields, hfields,
      FieldType.schema_eq_ok.mpr ⟨FieldType.defects_record_eq_nil_iff.mpr ⟨hnone, hnames⟩, rfl⟩⟩

theorem Emitted.parts {keywords : List (String × Json)} (h : Emitted (.object keywords)) :
    (∀ d, ("items", d) ∈ keywords → Emitted d) ∧
    (∀ d, ("additionalProperties", d) ∈ keywords → Emitted d) ∧
    (∀ ds, ("properties", .object ds) ∈ keywords → ∀ p ∈ ds, Emitted p.2) := by
  generalize hd : Json.object keywords = d at h
  cases h with
  | scalar s =>
    obtain rfl := Json.object.inj hd
    simp
  | texts first others =>
    obtain rfl := Json.object.inj hd
    simp
  | wholes first others =>
    obtain rfl := Json.object.inj hd
    simp
  | list items hitems =>
    obtain rfl := Json.object.inj hd
    simp [hitems]
  | map values hvalues =>
    obtain rfl := Json.object.inj hd
    simp [hvalues]
  | record properties _ hproperties =>
    obtain rfl := Json.object.inj hd
    simpa using hproperties

theorem Emitted.within {d e : Json} (h : Emitted d) (hw : Within e d) : Emitted e := by
  induction hw with
  | self => exact h
  | items hmem _ ih => exact ih (h.parts.1 _ hmem)
  | values hmem _ ih => exact ih (h.parts.2.1 _ hmem)
  | property hmem hp _ ih => exact ih (h.parts.2.2 _ hmem _ hp)

theorem isCoherent_document {kind keyword : String} {argument : Json} (h : keyword ≠ "required")
    (hk : keyword = "enum" → ∀ v ∈ items argument, HasKind v kind) :
    IsCoherent (document kind [(keyword, argument)]) := by
  refine ⟨_, rfl, by simpa [Entries.names] using h.symm, fun choices hchoices => ?_⟩
  have hmem : keyword = "enum" ∧ argument = choices := by simpa [eq_comm] using hchoices
  obtain ⟨hkeyword, rfl⟩ := hmem
  exact ⟨kind, List.mem_cons_self, hk hkeyword⟩

theorem Emitted.isCoherent {d : Json} (h : Emitted d) : IsCoherent d := by
  cases h with
  | scalar s => exact ⟨_, rfl, by simp [Entries.names], by simp⟩
  | texts first others =>
    refine isCoherent_document (by decide) fun _ => List.forall_mem_map.mpr fun s _ => ?_
    exact hasKind_literal (.text s)
  | wholes first others =>
    refine isCoherent_document (by decide) fun _ => List.forall_mem_map.mpr fun n _ => ?_
    exact hasKind_literal (.whole n)
  | list items _ => exact isCoherent_document (by decide) (by simp)
  | map values _ => exact isCoherent_document (by decide) (by simp)
  | record properties _ _ => exact isCoherent_document (by decide) (by simp)

theorem distinct_document {kind keyword : String} {argument : Json} (h : "type" ≠ keyword)
    (ha : argument.Distinct) : (document kind [(keyword, argument)]).Distinct := by
  refine .object _ (by simpa [Entries.names] using h) ?_
  simp [ha]

theorem Emitted.distinct {d : Json} (h : Emitted d) : d.Distinct := by
  induction h with
  | scalar s => exact .object _ (by simp [Entries.names]) (by simp)
  | texts first others =>
    exact distinct_document (by decide)
      (.array _ (List.forall_mem_map.mpr fun s _ => .string s))
  | wholes first others =>
    exact distinct_document (by decide)
      (.array _ (List.forall_mem_map.mpr fun n _ => .number _))
  | list items _ ih => exact distinct_document (by decide) ih
  | map values _ ih => exact distinct_document (by decide) ih
  | record properties hnames _ ih => exact distinct_document (by decide) (.object _ hnames ih)

theorem emitted_iff (d : Json) :
    ((∃ t : FieldType, t.schema = .ok d) ↔ Emitted d) ∧
    ((∃ t : FieldType, t.IsMandatory ∧ t.schema = .ok d) ↔ Emitted d) ∧
    (Emitted d → ∀ e, Within e d → IsCoherent e) := by
  refine ⟨⟨?_, ?_⟩, ⟨?_, exists_mandatory⟩, fun h e hw => (h.within hw).isCoherent⟩
  · rintro ⟨t, ht⟩
    exact emitted_of_schema ht
  · intro h
    obtain ⟨t, -, ht⟩ := exists_mandatory h
    exact ⟨t, ht⟩
  · rintro ⟨t, -, ht⟩
    exact emitted_of_schema ht

end Schema

end QuizService
