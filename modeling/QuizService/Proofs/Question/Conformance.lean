import QuizService.Proofs.Question.Composition
import QuizService.Proofs.Question.Instance
import QuizService.Proofs.Schema.Meaning

/-!
A record made from a shape keeps to the shape's own document, if the defaults, the pins and the
supplied values belong to the types of their fields.
-/

namespace QuizService.Shape

variable {s : Shape} {raw record : Entries Json}

def Fit (fields : Entries FieldType) (values : Entries Json) : Prop :=
  ∀ f ∈ fields, ∀ v, values.get? f.1 = some v → f.2.Admits v

theorem admits_resolveValue {t : FieldType} {default supplied : Option Json} {v : Json}
    (hd : ∀ d, default = some d → t.Admits d) (hs : ∀ x, supplied = some x → t.Admits x)
    (h : resolveValue default supplied = some v) : t.Admits v := by
  unfold resolveValue at h
  split at h
  · obtain rfl := Option.some.inj h
    exact FieldType.admits_putAll (hd _ rfl) (hs _ rfl)
  · exact hs v h
  · exact hd v h
  · contradiction

theorem fit_pinned (hs : s.Distinct) (hd : Fit s.fields s.defaults) (hp : Fit s.fields s.pins)
    (hr : ∀ f ∈ s.fields, s.pins.get? f.1 = none →
      ∀ v, raw.get? f.1 = some v → f.2.Admits v) :
    Fit s.fields ((s.filled raw).putAll s.pins) := by
  intro f hf v h
  rw [Entries.get?_putAll hs.pins, get?_filled] at h
  cases hpin : s.pins.get? f.1 with
  | some w =>
    rw [hpin, Option.some_or] at h
    exact hp f hf v (hpin.trans h)
  | none =>
    rw [hpin, Option.none_or, if_pos (Entries.mem_names hf)] at h
    exact admits_resolveValue (hd f hf) (hr f hf hpin) h

theorem fit_shuffleField {fields : Entries FieldType} {state : Entries Json × Draws}
    (h : Fit fields state.1) (name : String) : Fit fields (shuffleField state name).1 := by
  intro f hf v hv
  rcases get?_shuffleField hv with hv | ⟨items, arranged, hitems, rfl, hperm⟩
  · exact h f hf v hv
  · exact FieldType.admits_of_perm hperm (h f hf _ hitems)

theorem admits_of_fit {fields : Entries FieldType} {name : String} (hn : record.names.Nodup)
    (h : Fit fields record) : (FieldType.record name fields).Admits (.object record) := by
  refine FieldType.admits_record.mpr fun f hf m hm hname => h f hf m.2 ?_
  exact Entries.get?_of_mem hn (by rw [← hname]; exact hm)

theorem admits_iff_fit {fields : Entries FieldType} {name : String} (hn : record.names.Nodup) :
    (FieldType.record name fields).Admits (.object record) ↔ Fit fields record := by
  refine ⟨fun h f hf v hv => ?_, admits_of_fit hn⟩
  exact FieldType.admits_record.mp h f hf (f.1, v) (Entries.mem_of_get? hv) rfl

theorem allows_iff_fit {r : RecordType} {d : Json} (hr : r.schema = .ok d)
    (hn : record.names.Nodup) : Schema.Allows d (.object record) ↔ Fit r.fields record := by
  have hlowered : r.type.schema = .ok d := RecordType.schema_eq_ok.mp hr
  obtain ⟨-, rfl⟩ := FieldType.schema_eq_ok.mp hlowered
  rw [FieldType.allows_outline]
  exact admits_iff_fit hn

theorem allows_instantiate {tag : QuestionType} {fragments : List Fragment}
    {pins : List (String × Json)} (hs : build tag fragments pins = .ok s) {d : Json}
    (hschema : s.schema = .ok d) (hd : Fit s.fields s.defaults) (hp : Fit s.fields s.pins)
    (hr : ∀ f ∈ s.fields, s.pins.get? f.1 = none →
      ∀ v, raw.get? f.1 = some v → f.2.Admits v) (ds : Draws) :
    Schema.Allows d (.object (s.instantiate raw ds).1) := by
  have hlowered : s.recordType.type.schema = .ok d := RecordType.schema_eq_ok.mp hschema
  obtain ⟨-, rfl⟩ := FieldType.schema_eq_ok.mp hlowered
  rw [FieldType.allows_outline]
  have hfit : Fit s.fields (s.instantiate raw ds).1 :=
    instantiate_preserves (fit_pinned (distinct_build hs) hd hp hr)
      (fun _ name h => fit_shuffleField h name) ds
  exact admits_of_fit (nodup_instantiate ds) hfit

theorem allows_instantiate_supplied :
    ∃ points : Json.Plain, points.value = .object [("points", .int64 1)] ∧
      let rules : FieldType := .record "Rules" [("points", .integer), ("skip", .boolean)]
      let fragment : Fragment :=
        [.field "kind" .string none, .field "rules" (.optionalOf rules) (some points),
          .field "tags" (.list .string) none, .shuffled "tags"]
      let s : Shape :=
        ⟨.fill, [("kind", .string), ("rules", .optionalOf rules), ("tags", .list .string)],
          [("rules", .object [("points", .int64 1)]), ("kind", .string "fill")],
          [("kind", .string "fill")], ["tags"]⟩
      let raw : Entries Json :=
        [("kind", .null), ("tags", .array [.string "a", .string "b", .string "c"]),
          ("rules", .object [("skip", .bool true), ("note", .null)]), ("other", .null)]
      ∃ d, build .fill [fragment] [("kind", .string "fill")] = .ok s ∧ s.schema = .ok d ∧
        Fit s.fields s.defaults ∧ Fit s.fields s.pins ∧
        (∀ f ∈ s.fields, s.pins.get? f.1 = none → ∀ v, raw.get? f.1 = some v → f.2.Admits v) ∧
        Schema.Allows d (.object (s.instantiate raw [3000000000, 7]).1) := by
  refine ⟨⟨.object [("points", .int64 1)], .object _ (by decide) ?_⟩, rfl, ?_⟩
  · simp [Json.int64]
  intro rules fragment s raw
  have hb : build .fill [fragment] [("kind", .string "fill")] = .ok s := rfl
  have hd : Fit s.fields s.defaults := by
    simp [Fit, s, rules, Entries.get?, FieldType.Admits, FieldType.FieldsAdmit, Scalar.IsValue,
      FieldType.string, FieldType.integer, FieldType.boolean, Json.int64]
  have hp : Fit s.fields s.pins := by
    simp [Fit, s, Entries.get?, FieldType.Admits, FieldType.string, Scalar.IsValue]
  have hr : ∀ f ∈ s.fields, s.pins.get? f.1 = none →
      ∀ v, raw.get? f.1 = some v → f.2.Admits v := by
    simp [s, raw, rules, Entries.get?, FieldType.Admits, FieldType.FieldsAdmit, Scalar.IsValue,
      FieldType.string, FieldType.integer, FieldType.boolean, -Prod.forall]
  exact ⟨_, hb, rfl, hd, hp, hr, allows_instantiate hb rfl hd hp hr _⟩

end QuizService.Shape
