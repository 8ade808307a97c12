import QuizService.Proofs.FieldType.Values
import QuizService.Schema.Reading

/-!
The document of a type and the type itself admit the same values. Main statement: a value is
allowed by the document that a type is lowered to exactly when it belongs to the type.
-/

namespace QuizService

theorem Enumeration.ofMembers_members (e : Enumeration) :
    ofMembers e.name e.members = .ok e := by
  obtain ⟨name, kind, members, hne, huniform⟩ := e
  cases members with
  | nil => exact absurd rfl hne
  | cons m ms =>
    have hk : m.kind = kind := huniform m List.mem_cons_self
    subst hk
    exact dif_pos huniform

theorem hasKind_literal (m : Literal) : Schema.HasKind m.json m.kind.name := by
  cases m with
  | text s => rfl
  | whole n => exact .inl rfl

theorem hasKind_scalar (s : Scalar) (v : Json) : Schema.HasKind v s.name ↔ s.IsValue v := by
  cases v with
  | number n => cases s <;> cases n <;> simp [Schema.HasKind, Scalar.name, Scalar.IsValue]
  | _ => cases s <;> simp [Schema.HasKind, Scalar.name, Scalar.IsValue]

namespace Schema

open FieldType (document outline outlines)

theorem allows_document {kind : String} {more : List (String × Json)} {v : Json} :
    Allows (document kind more) v ↔ HasKind v kind ∧ AllKeywords more v := by
  simp [document, Allows, AllKeywords]

theorem allows_enum {kind : String} {choices : List Json} {v : Json} :
    Allows (document kind [("enum", .array choices)]) v ↔ HasKind v kind ∧ v ∈ choices := by
  simp [allows_document, AllKeywords, items]

theorem allows_array {d v : Json} :
    Allows (document "array" [("items", d)]) v ↔ ∃ vs, v = .array vs ∧ ∀ x ∈ vs, Allows d x := by
  rw [allows_document]
  cases v with
  | array vs => simp [HasKind, AllKeywords, items]
  | number n => cases n <;> simp [HasKind]
  | _ => simp [HasKind]

theorem allows_map {d v : Json} :
    Allows (document "object" [("additionalProperties", d)]) v ↔
      ∃ ms, v = .object ms ∧ ∀ m ∈ ms, Allows d m.2 := by
  rw [allows_document]
  cases v with
  | object ms => simp [HasKind, AllKeywords, members]
  | number n => cases n <;> simp [HasKind]
  | _ => simp [HasKind]

theorem namedMembers_iff {ds : List (String × Json)} {v : Json} :
    NamedMembers ds v ↔ ∀ d ∈ ds, ∀ m ∈ members v, m.1 = d.1 → Allows d.2 m.2 := by
  induction ds with
  | nil => simp [NamedMembers]
  | cons d rest ih =>
    obtain ⟨name, doc⟩ := d
    rw [NamedMembers, ih, List.forall_mem_cons]

theorem allows_record {ds : List (String × Json)} {v : Json} :
    Allows (document "object" [("properties", .object ds)]) v ↔
      ∃ ms, v = .object ms ∧ ∀ d ∈ ds, ∀ m ∈ ms, m.1 = d.1 → Allows d.2 m.2 := by
  rw [allows_document]
  cases v with
  | object ms => simp [HasKind, AllKeywords, Properties, namedMembers_iff, members]
  | number n => cases n <;> simp [HasKind]
  | _ => simp [HasKind]

end Schema

namespace FieldType

open Schema

theorem allows_enumeration (e : Enumeration) (v : Json) :
    Allows (outline (.enumeration e)) v ↔ (enumeration e).Admits v := by
  rw [outline, allows_enum, List.mem_map]
  constructor
  · rintro ⟨-, m, hm, rfl⟩
    exact ⟨m, hm, rfl⟩
  · -- A member has the kind of its enumeration, so the keyword for the kind refuses none.
    rintro ⟨m, hm, rfl⟩
    exact ⟨e.uniform m hm ▸ hasKind_literal m, m, hm, rfl⟩

theorem allows_outline (t : FieldType) (v : Json) : Allows t.outline v ↔ t.Admits v := by
  induction t generalizing v with
  | scalar s => simp [outline, allows_document, AllKeywords, hasKind_scalar, Admits]
  | enumeration e => exact allows_enumeration e v
  | optionalOf inner ih => exact ih v
  | list item ih => simp only [outline, allows_array, Admits, ih]
  | map value ih => simp only [outline, allows_map, Admits, ih]
  | record name fields ih =>
    rw [outline, allows_record, outlines_eq_map, Admits]
    refine exists_congr fun ms => and_congr_right fun _ => ?_
    rw [fieldsAdmit_iff, List.forall_mem_map]
    exact forall₂_congr fun f hf => forall₃_congr fun m _ _ => ih f hf m.2

theorem allows_schema_iff {t : FieldType} {d : Json} (h : t.schema = .ok d) (v : Json) :
    Allows d v ↔ t.Admits v := by
  obtain ⟨-, rfl⟩ := schema_eq_ok.mp h
  exact allows_outline t v

theorem allows_schema_iff_levels :
    let level : Enumeration :=
      ⟨"Level", .integer, [.whole 1, .whole 2], by simp, by simp [Literal.kind]⟩
    let t : FieldType := .record "Answer"
      [("levels", .map (.list (.enumeration level))), ("note", .optionalOf .string)]
    let v : Json := .object [("levels", .object [("a", .array [.int64 2])]), ("other", .null)]
    ∃ d, t.schema = .ok d ∧ (Allows d v ↔ t.Admits v) :=
  ⟨_, rfl, allows_schema_iff rfl _⟩

end FieldType

end QuizService
