import QuizService.FieldType.Values
import QuizService.Proofs.FieldType.Lowering
import QuizService.Proofs.Json.ReadBack

/-!
What a document tells of its type. Main statement: the texts of two documents agree exactly when
the types agree up to optional parts and the names of enumerations and records.
-/

namespace QuizService

theorem Scalar.name_injective {a b : Scalar} (h : a.name = b.name) : a = b := by
  cases a <;> cases b <;> first | rfl | exact absurd h (by decide)

theorem Literal.json_injective {a b : Literal} (h : a.json = b.json) : a = b := by
  cases a <;> cases b <;> simp_all [Literal.json, Json.int64, Whole.ofInt64, Int64.toInt_inj]

theorem Literal.exact_json (m : Literal) : m.json.Exact := by
  cases m with
  | text s => exact .string s
  | whole n => exact .whole _

theorem Enumeration.unnamed_ext {e f : Enumeration} (hk : e.kind = f.kind)
    (hm : e.members = f.members) : e.unnamed = f.unnamed := by
  cases e
  cases f
  simp_all [unnamed]

namespace FieldType

variable {fields others : List (String × FieldType)} {t u : FieldType}

def core : FieldType → FieldType
  | .optionalOf inner => core inner
  | t => t

theorem outline_core (t : FieldType) : t.core.outline = t.outline := by
  induction t with
  | optionalOf inner ih => exact ih
  | _ => rfl

theorem erased_core (t : FieldType) : t.core.erased = t.erased := by
  induction t with
  | optionalOf inner ih => exact ih
  | _ => rfl

theorem isOptional_core (t : FieldType) : t.core.isOptional = false := by
  induction t with
  | optionalOf inner ih => exact ih
  | _ => rfl

theorem exact_document {kind keyword : String} {argument : Json} (h : argument.Exact) :
    (document kind [(keyword, argument)]).Exact :=
  .object _ (by simp [h])

theorem exact_outline (t : FieldType) : t.outline.Exact := by
  induction t with
  | scalar s => exact .object _ (by simp)
  | enumeration e => exact exact_document (.array _ (by simp [Literal.exact_json]))
  | optionalOf inner ih => exact ih
  | list item ih => exact exact_document ih
  | map value ih => exact exact_document ih
  | record name fields ih =>
    refine exact_document (.object _ ?_)
    rw [outlines_eq_map]
    exact List.forall_mem_map.mpr ih

theorem document_inj {kind other keyword : String} {a b : Json}
    (h : document kind [(keyword, a)] = document other [(keyword, b)]) : kind = other ∧ a = b := by
  simpa [document] using h

theorem erasedFields_eq_map (fields : List (String × FieldType)) :
    erasedFields fields = fields.map fun f => (f.1, f.2.erased) := by
  induction fields with
  | nil => rfl
  | cons f rest ih => rw [erasedFields, ih, List.map_cons]

theorem outline_erased (t : FieldType) : t.erased.outline = t.outline := by
  induction t with
  | scalar s => rfl
  | enumeration e => rfl
  | optionalOf inner ih => exact ih
  | list item ih => simp only [erased, outline, ih]
  | map value ih => simp only [erased, outline, ih]
  | record name fields ih =>
    have hf : outlines (erasedFields fields) = outlines fields := by
      rw [erasedFields_eq_map, outlines_eq_map, outlines_eq_map, List.map_map]
      exact List.map_congr_left fun f hf => Prod.ext rfl (ih f hf)
    simp only [erased, outline, hf]

theorem erasedFields_eq
    (hf : ∀ f ∈ fields, ∀ u : FieldType, f.2.outline = u.outline → f.2.erased = u.erased)
    (h : outlines fields = outlines others) : erasedFields fields = erasedFields others := by
  induction fields generalizing others with
  | nil => cases others <;> simp_all [outlines]
  | cons f rest ih =>
    cases others with
    | nil => simp [outlines] at h
    | cons g others =>
      obtain ⟨ht, hrest⟩ := List.forall_mem_cons.mp hf
      obtain ⟨hhead, htail⟩ := List.cons.inj h
      obtain ⟨hname, hd⟩ := Prod.mk.inj hhead
      simp only [erasedFields, ht g.2 hd, ih hrest htail, hname]

theorem erased_eq_of_core
    (h : ∀ v : FieldType, v.isOptional = false → t.outline = v.outline → t.erased = v.erased)
    (hu : t.outline = u.outline) : t.erased = u.erased := by
  rw [← erased_core u]
  exact h u.core (isOptional_core u) (hu.trans (outline_core u).symm)

theorem erased_eq_of_outline_eq (h : t.outline = u.outline) : t.erased = u.erased := by
  -- The other type may wear optional layers that its outline does not show: only its core is
  -- compared, constructor by constructor.
  induction t generalizing u with
  | scalar s =>
    refine erased_eq_of_core (fun v hv hd => ?_) h
    cases v with
    | scalar r =>
      have hn : s.name = r.name := by simpa [outline, document] using hd
      rw [Scalar.name_injective hn]
    | _ => simp_all [outline, document, isOptional]
  | enumeration e =>
    refine erased_eq_of_core (fun v hv hd => ?_) h
    cases v with
    | enumeration f =>
      obtain ⟨hn, ha⟩ := document_inj hd
      have hk : e.kind = f.kind := Scalar.name_injective hn
      have hm : e.members = f.members :=
        (List.map_inj_right fun _ _ => Literal.json_injective).mp (Json.array.inj ha)
      simp only [erased, Enumeration.unnamed_ext hk hm]
    | _ => simp_all [outline, document, isOptional]
  | optionalOf inner ih => exact ih h
  | list item ih =>
    refine erased_eq_of_core (fun v hv hd => ?_) h
    cases v with
    | list other => simp only [erased, ih (document_inj hd).2]
    | _ => simp_all [outline, document, isOptional]
  | map value ih =>
    refine erased_eq_of_core (fun v hv hd => ?_) h
    cases v with
    | map other => simp only [erased, ih (document_inj hd).2]
    | _ => simp_all [outline, document, isOptional]
  | record name fields ih =>
    refine erased_eq_of_core (fun v hv hd => ?_) h
    cases v with
    | record other others =>
      have hds := Json.object.inj (document_inj hd).2
      simp only [erased, erasedFields_eq (fun f hf _ => ih f hf) hds]
    | _ => simp_all [outline, document, isOptional]

theorem outline_eq_iff : t.outline = u.outline ↔ t.erased = u.erased := by
  refine ⟨erased_eq_of_outline_eq, fun h => ?_⟩
  rw [← outline_erased t, h, outline_erased u]

theorem text_eq_iff_erased_eq {d e : Json} (hd : t.schema = .ok d) (he : u.schema = .ok e) :
    d.text = e.text ↔ t.erased = u.erased := by
  obtain ⟨-, rfl⟩ := schema_eq_ok.mp hd
  obtain ⟨-, rfl⟩ := schema_eq_ok.mp he
  rw [← outline_eq_iff]
  exact ⟨Json.text_injective (exact_outline t) (exact_outline u), fun h => by rw [h]⟩

theorem text_eq_iff_erased_eq_renamed :
    let t : FieldType := .record "Answer"
      [("level", .optionalOf (.enumeration (.ofTexts "Level" "low" ["high"]))),
        ("scores", .map (.list .integer))]
    let u : FieldType := .record "Reply"
      [("level", .enumeration (.ofTexts "Grade" "low" ["high"])),
        ("scores", .optionalOf (.map (.list (.optionalOf .integer))))]
    ∃ d e, t.schema = .ok d ∧ u.schema = .ok e ∧ (d.text = e.text ↔ t.erased = u.erased) :=
  ⟨_, _, rfl, rfl, text_eq_iff_erased_eq rfl rfl⟩

end FieldType

end QuizService
