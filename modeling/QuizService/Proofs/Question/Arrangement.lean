import QuizService.Proofs.Question.Conformance

namespace QuizService

section

variable {R : Json → Json → Prop}

theorem optionRel_refl (hR : ∀ v, R v v) (v : Option Json) : Option.Rel R v v := by
  cases v with
  | none => exact .none
  | some v => exact .some (hR v)

theorem optionRel_trans (hR : ∀ {u v w}, R u v → R v w → R u w) {u v w : Option Json}
    (huv : Option.Rel R u v) (hvw : Option.Rel R v w) : Option.Rel R u w := by
  cases huv with
  | none => exact hvw
  | some huv =>
    cases hvw with
    | some hvw => exact .some (hR huv hvw)

theorem eq_none_of_optionRel {w : Option Json} (h : Option.Rel R none w) : w = none := by
  cases h with
  | none => rfl

theorem exists_of_optionRel {v : Json} {w : Option Json} (h : Option.Rel R (some v) w) :
    ∃ x, w = some x ∧ R v x := by
  cases h with
  | some h => exact ⟨_, rfl, h⟩

end

inductive Json.Rearranged : Json → Json → Prop where
  | same (v : Json) : Rearranged v v
  | array {items arranged : List Json} (h : arranged.Perm items) :
    Rearranged (.array items) (.array arranged)

namespace Json.Rearranged

theorem trans {u v w : Json} (huv : Rearranged u v) (hvw : Rearranged v w) : Rearranged u w := by
  cases huv with
  | same => exact hvw
  | array h =>
    cases hvw with
    | same => exact .array h
    | array h' => exact .array (h'.trans h)

theorem symm {v w : Json} (h : Rearranged v w) : Rearranged w v := by
  cases h with
  | same => exact .same v
  | array h => exact .array h.symm

theorem rel_refl (v : Option Json) : Option.Rel Rearranged v v :=
  optionRel_refl .same v

theorem rel_trans {u v w : Option Json} (huv : Option.Rel Rearranged u v)
    (hvw : Option.Rel Rearranged v w) : Option.Rel Rearranged u w :=
  optionRel_trans .trans huv hvw

theorem eq_array_of_rel {items : List Json} {v : Option Json}
    (h : Option.Rel Rearranged (some (.array items)) v) :
    ∃ arranged, v = some (.array arranged) ∧ arranged.Perm items := by
  obtain ⟨w, rfl, hw⟩ := exists_of_optionRel h
  cases hw with
  | same => exact ⟨items, rfl, .refl items⟩
  | array hperm => exact ⟨_, rfl, hperm⟩

theorem admits_iff {v w : Json} (h : Rearranged v w) (t : FieldType) : t.Admits v ↔ t.Admits w := by
  cases h with
  | same => exact Iff.rfl
  | array h => exact ⟨FieldType.admits_of_perm h, FieldType.admits_of_perm h.symm⟩

theorem fits_iff {v w : Option Json} (h : Option.Rel Rearranged v w) (t : FieldType) :
    (∀ x, v = some x → t.Admits x) ↔ ∀ x, w = some x → t.Admits x := by
  cases h with
  | none => exact Iff.rfl
  | some h => simp [h.admits_iff t]

end Json.Rearranged

namespace Shape

variable {s : Shape} {raw record later : Entries Json} {state : Entries Json × Draws}

theorem get?_shuffleField_rel (state : Entries Json × Draws) (name other : String) :
    Option.Rel Json.Rearranged (state.1.get? other) ((shuffleField state name).1.get? other) := by
  unfold shuffleField
  split
  · rename_i items hitems
    rw [Entries.get?_put]
    by_cases h : name = other
    · subst h
      rw [if_pos rfl, hitems]
      exact .some (.array (Shuffle.shuffle_perm items state.2))
    · rw [if_neg h]
      exact Json.Rearranged.rel_refl _
  · exact Json.Rearranged.rel_refl _

theorem get?_shuffleField_of_ne {name other : String} (h : name ≠ other) :
    (shuffleField state name).1.get? other = state.1.get? other := by
  unfold shuffleField
  split
  · exact Entries.get?_put_of_ne _ _ h
  · rfl

theorem names_shuffleField (state : Entries Json × Draws) (name : String) :
    (shuffleField state name).1.names = state.1.names := by
  unfold shuffleField
  split
  · rename_i items hitems
    have hmem : name ∈ state.1.names := Entries.mem_names (Entries.mem_of_get? hitems)
    rw [Entries.names_put, if_pos hmem]
  · rfl

def pinned (s : Shape) (raw : Entries Json) : Entries Json :=
  (s.filled raw).putAll s.pins

theorem instantiate_eq (s : Shape) (raw : Entries Json) (ds : Draws) :
    s.instantiate raw ds = s.shuffled.foldl shuffleField (s.pinned raw, ds) :=
  rfl

theorem get?_pinned (hs : s.Distinct) (raw : Entries Json) (name : String) :
    (s.pinned raw).get? name =
      (s.pins.get? name).or
        (if name ∈ s.fields.names then resolveValue (s.defaults.get? name) (raw.get? name)
          else none) := by
  rw [pinned, Entries.get?_putAll hs.pins, get?_filled]

theorem get?_pinned_of_pin (hs : s.Distinct) {name : String} {v : Json}
    (h : s.pins.get? name = some v) (raw : Entries Json) : (s.pinned raw).get? name = some v := by
  rw [get?_pinned hs, h, Option.some_or]

theorem get?_pinned_of_undeclared (hs : s.Distinct) {name : String} (hname : name ∉ s.fields.names)
    (hpin : s.pins.get? name = none) (raw : Entries Json) : (s.pinned raw).get? name = none := by
  rw [get?_pinned hs, hpin, Option.none_or, if_neg hname]

theorem get?_pinned_of_unpinned (hs : s.Distinct) {name : String} (hname : name ∈ s.fields.names)
    (hpin : s.pins.get? name = none) (raw : Entries Json) :
    (s.pinned raw).get? name = resolveValue (s.defaults.get? name) (raw.get? name) := by
  rw [get?_pinned hs, hpin, Option.none_or, if_pos hname]

theorem resolveValue_none (default : Option Json) : resolveValue default none = default := by
  cases default with
  | none => rfl
  | some d => cases d <;> rfl

theorem resolveValue_supplied {default : Option Json} {v : Json}
    (h : ∀ base more, ¬ (default = some (.object base) ∧ v = .object more)) :
    resolveValue default (some v) = some v := by
  unfold resolveValue
  split
  · rename_i base more heq
    exact absurd ⟨rfl, Option.some.inj heq⟩ (h base more)
  · rename_i heq
    exact heq.symm
  · contradiction
  · contradiction

theorem get?_pinned_of_supplied (hs : s.Distinct) {name : String} {v : Json}
    (hpin : s.pins.get? name = none) (hname : name ∈ s.fields.names)
    (hv : raw.get? name = some v) (hobject : ∀ ms, v ≠ .object ms) :
    (s.pinned raw).get? name = some v := by
  rw [get?_pinned_of_unpinned hs hname hpin, hv]
  exact resolveValue_supplied fun _ more h => hobject more h.2

theorem instantiate_of_unmarked (h : s.shuffled = []) (raw : Entries Json) (ds : Draws) :
    (s.instantiate raw ds).1 = s.pinned raw := by
  rw [instantiate_eq, h]
  rfl

theorem instantiate_of_marked {mark : String} (h : s.shuffled = [mark]) (raw : Entries Json)
    (ds ds' : Draws) :
    (s.instantiate raw ds').1 = (s.instantiate raw ds).1 ∨
      ∃ items arranged, (s.instantiate raw ds).1.get? mark = some (.array items) ∧
        arranged.Perm items ∧
        (s.instantiate raw ds').1 = (s.instantiate raw ds).1.put mark (.array arranged) := by
  have hstep (ds : Draws) : s.instantiate raw ds = shuffleField (s.pinned raw, ds) mark := by
    rw [instantiate_eq, h]
    rfl
  simp only [hstep, shuffleField]
  split
  · rename_i items hitems
    have hfirst := Shuffle.shuffle_perm items ds
    have hsecond := Shuffle.shuffle_perm items ds'
    refine .inr ⟨_, _, Entries.get?_put_self _ _ _, hsecond.trans hfirst.symm, ?_⟩
    rw [Entries.put_put]
  · exact .inl rfl

theorem get?_instantiate_rel (s : Shape) (raw : Entries Json) (ds : Draws) (name : String) :
    Option.Rel Json.Rearranged ((s.pinned raw).get? name) ((s.instantiate raw ds).1.get? name) :=
  instantiate_preserves
    (P := fun record => Option.Rel Json.Rearranged ((s.pinned raw).get? name) (record.get? name))
    (Json.Rearranged.rel_refl _)
    (fun state mark h => Json.Rearranged.rel_trans h (get?_shuffleField_rel state mark name)) ds

theorem get?_foldl_shuffleField_of_not_mem {marks : List String} {name : String} (h : name ∉ marks)
    (state : Entries Json × Draws) :
    (marks.foldl shuffleField state).1.get? name = state.1.get? name := by
  refine List.foldlRecOn
    (motive := fun later : Entries Json × Draws => later.1.get? name = state.1.get? name)
    marks shuffleField rfl ?_
  intro later hlater mark hmark
  have hne : mark ≠ name := by
    rintro rfl
    exact h hmark
  rw [get?_shuffleField_of_ne hne, hlater]

theorem get?_instantiate_of_not_mem {name : String} (h : name ∉ s.shuffled) (raw : Entries Json)
    (ds : Draws) : (s.instantiate raw ds).1.get? name = (s.pinned raw).get? name :=
  get?_foldl_shuffleField_of_not_mem h (s.pinned raw, ds)

theorem get?_instantiate_of_pin (hs : s.Distinct) {name : String} {v : Json}
    (hpin : s.pins.get? name = some v) (hmark : name ∉ s.shuffled) (raw : Entries Json)
    (ds : Draws) : (s.instantiate raw ds).1.get? name = some v := by
  rw [get?_instantiate_of_not_mem hmark, get?_pinned_of_pin hs hpin]

theorem get?_instantiate_of_unpinned (hs : s.Distinct) {name : String}
    (hname : name ∈ s.fields.names) (hpin : s.pins.get? name = none) (hmark : name ∉ s.shuffled)
    (raw : Entries Json) (ds : Draws) :
    (s.instantiate raw ds).1.get? name = resolveValue (s.defaults.get? name) (raw.get? name) := by
  rw [get?_instantiate_of_not_mem hmark, get?_pinned_of_unpinned hs hname hpin]

theorem fit_instantiate_iff (s : Shape) (fields : Entries FieldType) (raw : Entries Json)
    (ds : Draws) : Fit fields (s.instantiate raw ds).1 ↔ Fit fields (s.pinned raw) :=
  forall₂_congr fun f _ =>
    (Json.Rearranged.fits_iff (get?_instantiate_rel s raw ds f.1) f.2).symm

theorem names_fillField (s : Shape) (raw record : Entries Json) (f : String × FieldType)
    (h : f.1 ∉ record.names) :
    (s.fillField raw record f).names =
      if (resolveValue (s.defaults.get? f.1) (raw.get? f.1)).isSome = true
      then record.names ++ [f.1] else record.names := by
  unfold fillField
  cases resolveValue (s.defaults.get? f.1) (raw.get? f.1) with
  | none => rfl
  | some v => simp [Entries.names_put, h]

theorem names_foldl_fillField (fields : Entries FieldType) (hn : fields.names.Nodup)
    (record : Entries Json) (hrecord : ∀ name ∈ fields.names, name ∉ record.names) :
    (fields.foldl (s.fillField raw) record).names =
      record.names ++ fields.names.filter fun name =>
        (resolveValue (s.defaults.get? name) (raw.get? name)).isSome := by
  induction fields generalizing record with
  | nil => simp [Entries.names]
  | cons f rest ih =>
    obtain ⟨hf, hrest⟩ := List.nodup_cons.mp hn
    have hnames := names_fillField s raw record f (hrecord f.1 List.mem_cons_self)
    have hlater : ∀ name ∈ Entries.names rest, name ∉ (s.fillField raw record f).names := by
      intro name hname hmem
      have hne : name ≠ f.1 := by
        rintro rfl
        exact hf hname
      have hnot := hrecord name (List.mem_cons_of_mem _ hname)
      rw [hnames] at hmem
      split at hmem <;> simp_all
    rw [List.foldl_cons, ih hrest _ hlater, hnames, Entries.names_cons, List.filter_cons]
    split <;> simp

def Pinned (s : Shape) : Prop :=
  ∀ name v, s.pins.get? name = some v →
    name ∈ s.fields.names ∧ s.defaults.get? name = some v

theorem isSome_resolveValue (default supplied : Option Json) :
    (resolveValue default supplied).isSome = (default.isSome || supplied.isSome) := by
  unfold resolveValue
  split <;> simp

theorem resolveValue_eq_none_iff {default supplied : Option Json} :
    resolveValue default supplied = none ↔ default = none ∧ supplied = none := by
  rw [← Option.not_isSome_iff_eq_none, isSome_resolveValue, Bool.or_eq_true, not_or,
    Option.not_isSome_iff_eq_none, Option.not_isSome_iff_eq_none]

theorem names_pinned (hs : s.Distinct) (hp : s.Pinned) (raw : Entries Json) :
    (s.pinned raw).names = s.fields.names.filter fun name =>
      (s.defaults.get? name).isSome || (raw.get? name).isSome := by
  have hfilled : (s.filled raw).names = s.fields.names.filter fun name =>
      (s.defaults.get? name).isSome || (raw.get? name).isSome := by
    rw [filled_eq, names_foldl_fillField s.fields hs.fields [] (by simp [Entries.names])]
    simp only [isSome_resolveValue]
    rfl
  have hpins : ∀ name ∈ s.pins.names, name ∈ (s.filled raw).names := by
    intro name hname
    obtain ⟨v, hv⟩ := Option.isSome_iff_exists.mp (Entries.isSome_get?_iff.mpr hname)
    obtain ⟨hfield, hdefault⟩ := hp name v hv
    rw [hfilled]
    exact List.mem_filter.mpr ⟨hfield, by simp [hdefault]⟩
  rw [pinned, Entries.names_putAll_of_subset hpins, hfilled]

theorem names_instantiate (hs : s.Distinct) (hp : s.Pinned) (raw : Entries Json) (ds : Draws) :
    (s.instantiate raw ds).1.names = s.fields.names.filter fun name =>
      (s.defaults.get? name).isSome || (raw.get? name).isSome := by
  rw [← names_pinned hs hp raw]
  exact instantiate_preserves (P := fun record => record.names = (s.pinned raw).names) rfl
    (fun state name h => (names_shuffleField state name).trans h) ds

end Shape
end QuizService
