import QuizService.Proofs.Question.Declaration

/-!
Records made from nothing, which hold the defaults alone. Main statement: such a record keeps to
the document of its shape exactly when each stale default still belongs to the type that was
declared over its own.
-/

namespace QuizService.Shape

variable {s : Shape} {tag : QuestionType} {fragments : List Fragment}
  {pins : List (String × Json)} {name : String}

theorem get?_pinned_nil (hs : s.Distinct) (hp : s.Pinned) {f : String × FieldType}
    (hf : f ∈ s.fields) : (s.pinned []).get? f.1 = s.defaults.get? f.1 := by
  rw [get?_pinned hs, if_pos (Entries.mem_names hf)]
  rw [Entries.get?, resolveValue_none]
  cases hpin : s.pins.get? f.1 with
  | none => rw [Option.none_or]
  | some v => rw [Option.some_or, (hp f.1 v hpin).2]

theorem allows_instantiate_nil_iff (h : build tag fragments pins = .ok s) {d : Json}
    (hschema : s.schema = .ok d) (ds : Draws) :
    Schema.Allows d (.object (s.instantiate [] ds).1) ↔ Fit s.fields s.defaults := by
  have hs : s.Distinct := distinct_build h
  rw [allows_iff_fit (r := s.recordType) hschema (nodup_instantiate ds)]
  change Fit s.fields _ ↔ _
  rw [fit_instantiate_iff]
  refine forall₂_congr fun f hf => ?_
  rw [get?_pinned_nil hs (pinned_build h) hf]

theorem admits_declared (h : build tag fragments pins = .ok s)
    (hgiven : ∀ f ∈ fragments, ∀ item ∈ f, item.IsFitting) {f : String × FieldType}
    (hf : f ∈ s.fields) {g : Fragment} {t : FieldType} {v : Json}
    (hlast : Fragment.last? fragments f.1 = some g)
    (hg : g.declaration? f.1 = some (t, some v)) : f.2.Admits v := by
  have htype : s.fields.get? f.1 = some t := by
    rw [get?_fields_build h, Fragment.declaration?_flatten, hlast, Option.bind_some, hg]
    rfl
  have hf' : s.fields.get? f.1 = some f.2 := Entries.get?_of_mem (distinct_build h).fields hf
  obtain rfl := Option.some.inj (htype.symm.trans hf')
  obtain ⟨given, hvalue, hmem⟩ := Fragment.mem_of_declaration? hg
  obtain ⟨d, rfl, rfl⟩ := Option.map_eq_some_iff.mp hvalue.symm
  exact hgiven g (Fragment.mem_of_last? hlast) _ hmem

theorem fit_defaults_iff (h : build tag fragments pins = .ok s)
    (hgiven : ∀ f ∈ fragments, ∀ item ∈ f, item.IsFitting)
    (hpins : ∀ f ∈ s.fields, ∀ v, (f.1, v) ∈ pins → f.2.Admits v) :
    Fit s.fields s.defaults ↔
      ∀ f ∈ s.fields, f.1 ∉ Entries.names pins → ∀ v,
        Fragment.IsStale fragments f.1 v → f.2.Admits v := by
  constructor
  · rintro hfit f hf hnot v ⟨g, t, hlast, -, hv⟩
    apply hfit f hf v
    rw [get?_defaults_build h, Entries.get?_reverse_eq_none_iff.mpr hnot, hlast, Option.none_or]
    exact hv
  · intro hstale f hf v hv
    rw [get?_defaults_build h] at hv
    cases hpin : Entries.get? pins.reverse f.1 with
    | some w =>
      rw [hpin, Option.some_or] at hv
      obtain rfl := Option.some.inj hv
      exact hpins f hf _ (List.mem_reverse.mp (Entries.mem_of_get? hpin))
    | none =>
      rw [hpin, Option.none_or] at hv
      obtain ⟨g, hlast, hgv⟩ := Option.bind_eq_some_iff.mp hv
      obtain ⟨⟨t, default⟩, hg⟩ := Option.isSome_iff_exists.mp (Fragment.isSome_of_last? hlast)
      cases default with
      | none =>
        have hnot : f.1 ∉ Entries.names pins := Entries.get?_reverse_eq_none_iff.mp hpin
        exact hstale f hf hnot v ⟨g, t, hlast, hg, hgv⟩
      | some w =>
        -- A default that is not stale came with the declaration that gave the field its type.
        have hw : w = v :=
          Option.some.inj ((Fragment.default?_of_declaration? hg).symm.trans hgv)
        subst hw
        exact admits_declared h hgiven hf hlast hg

theorem get?_defaults_eq_none_iff (h : build tag fragments pins = .ok s) {t : FieldType}
    (hnot : name ∉ Entries.names pins)
    (hdeclared : Fragment.declaration? fragments.flatten name = some (t, none)) :
    s.defaults.get? name = none ↔ ∀ v, ¬ Fragment.IsStale fragments name v := by
  have hpin : Entries.get? pins.reverse name = none := Entries.get?_reverse_eq_none_iff.mpr hnot
  rw [Fragment.declaration?_flatten] at hdeclared
  obtain ⟨g, hlast, hg⟩ := Option.bind_eq_some_iff.mp hdeclared
  rw [get?_defaults_build h, hpin, Option.none_or, hlast, Option.bind_some]
  constructor
  · rintro hnone v ⟨g', t', hlast', -, hv⟩
    obtain rfl := Option.some.inj (hlast.symm.trans hlast')
    rw [hnone] at hv
    contradiction
  · intro hstale
    cases hv : g.default? name with
    | none => rfl
    | some v => exact absurd ⟨g, t, hlast, hg, hv⟩ (hstale v)

theorem allows_instantiate_nil (h : build tag fragments pins = .ok s) {d : Json}
    (hschema : s.schema = .ok d)
    (hgiven : ∀ f ∈ fragments, ∀ item ∈ f, item.IsFitting)
    (hpins : ∀ f ∈ s.fields, ∀ v, (f.1, v) ∈ pins → f.2.Admits v) :
    (∀ ds, Schema.Allows d (.object (s.instantiate [] ds).1) ↔
      ∀ f ∈ s.fields, f.1 ∉ Entries.names pins → ∀ v,
        Fragment.IsStale fragments f.1 v → f.2.Admits v) ∧
    (∀ name t, name ∉ Entries.names pins →
      Fragment.declaration? fragments.flatten name = some (t, none) →
        (s.defaults.get? name = none ↔ ∀ v, ¬ Fragment.IsStale fragments name v)) := by
  refine ⟨fun ds => ?_, fun name t => get?_defaults_eq_none_iff h⟩
  rw [allows_instantiate_nil_iff h hschema, fit_defaults_iff h hgiven hpins]

theorem allows_instantiate_nil_redeclared :
    let first : Fragment :=
      [.field "x" .string (some (.string "a")),
        .field "tags" (.list .string) (some (.strings ["b", "c", "d"])), .shuffled "tags"]
    let second : Fragment := [.field "kind" .string none, .field "x" .integer none]
    ∃ s d, build .fill [first, second] [("kind", .string "fill")] = .ok s ∧ s.schema = .ok d ∧
      (∀ f ∈ [first, second], ∀ item ∈ f, item.IsFitting) ∧
      (∀ f ∈ s.fields, ∀ v, (f.1, v) ∈ [("kind", Json.string "fill")] → f.2.Admits v) ∧
      s.defaults.get? "x" = none ∧ Schema.Allows d (.object (s.instantiate [] [5, 9]).1) := by
  intro first second
  let s : Shape :=
    ⟨.fill, [("x", .integer), ("tags", .list .string), ("kind", .string)],
      [("tags", .strings ["b", "c", "d"]), ("kind", .string "fill")], [("kind", .string "fill")],
      ["tags"]⟩
  have hb : build .fill [first, second] [("kind", .string "fill")] = .ok s := rfl
  have hgiven : ∀ f ∈ [first, second], ∀ item ∈ f, item.IsFitting := by
    simp [first, second, FragmentItem.IsFitting, Json.strings, FieldType.Admits, FieldType.string,
      Scalar.IsValue]
  have hpins : ∀ f ∈ s.fields, ∀ v, (f.1, v) ∈ [("kind", Json.string "fill")] → f.2.Admits v := by
    simp [s, FieldType.Admits, FieldType.string, Scalar.IsValue]
  have hnodup : ∀ f ∈ [first, second], (Entries.names f.fields).Nodup := by
    simp [first, second, Fragment.fields, Entries.names]
  have hstale := Fragment.not_isStale_of_nodup hnodup
  obtain ⟨hallows, hdefault⟩ := allows_instantiate_nil hb rfl hgiven hpins
  exact ⟨s, _, hb, rfl, hgiven, hpins, (hdefault "x" .integer (by decide) rfl).mpr (hstale "x"),
    (hallows [5, 9]).mpr fun f _ _ v hv => absurd hv (hstale f.1 v)⟩

/-- The default of a text stays with a field that its fragment turned into an integer. -/
theorem not_allows_instantiate_nil_stale :
    let fragment : Fragment :=
      [.field "x" .string (some (.string "a")), .field "x" .integer none]
    ∃ s d, build .mcq [fragment] [] = .ok s ∧ s.schema = .ok d ∧
      (∀ item ∈ fragment, item.IsFitting) ∧
      (s.instantiate [] []).1 = [("x", .string "a")] ∧
      ¬ Schema.Allows d (.object (s.instantiate [] []).1) := by
  intro fragment
  have hgiven : ∀ item ∈ fragment, item.IsFitting := by
    simp [fragment, FragmentItem.IsFitting, FieldType.Admits, FieldType.string, Scalar.IsValue]
  let s : Shape := ⟨.mcq, [("x", .integer)], [("x", .string "a")], [], []⟩
  have hb : build .mcq [fragment] [] = .ok s := rfl
  have hfit : ¬ Fit s.fields s.defaults := by
    simp [Fit, s, Entries.get?, FieldType.Admits, FieldType.integer, Scalar.IsValue]
  exact ⟨s, _, hb, rfl, hgiven, rfl, mt (allows_instantiate_nil_iff hb rfl []).mp hfit⟩

end QuizService.Shape
