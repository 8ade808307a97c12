import QuizService.Proofs.Question.Arrangement
import QuizService.Question.Shape

namespace QuizService

namespace Fragment

variable {f : Fragment} {fragments : List Fragment} {name : String} {t : FieldType} {v : Json}
  {default : Option Json}

theorem declaration?_cons (item : FragmentItem) (f : Fragment) (name : String) :
    declaration? (item :: f) name = (f.declaration? name).or (item.declaration? name) := by
  simp [declaration?, List.findSome?_append]

theorem default?_cons (item : FragmentItem) (f : Fragment) (name : String) :
    default? (item :: f) name =
      (f.default? name).or ((item.declaration? name).bind Prod.snd) := by
  simp [default?, List.findSome?_append]

theorem last?_cons (f : Fragment) (fragments : List Fragment) (name : String) :
    last? (f :: fragments) name =
      (last? fragments name).or (if (f.declaration? name).isSome then some f else none) := by
  by_cases h : (f.declaration? name).isSome = true <;> simp [last?, h]

theorem mem_of_last? (h : last? fragments name = some f) : f ∈ fragments :=
  List.mem_reverse.mp (List.mem_of_find?_eq_some h)

theorem isSome_of_last? (h : last? fragments name = some f) :
    (f.declaration? name).isSome = true := by
  unfold last? at h
  have hf := List.find?_some h
  exact hf

theorem mem_of_declaration? (h : f.declaration? name = some (t, default)) :
    ∃ given, default = given.map Json.Plain.value ∧ .field name t given ∈ f := by
  obtain ⟨item, hitem, h⟩ := List.exists_of_findSome?_eq_some h
  have hmem : item ∈ f := List.mem_reverse.mp hitem
  cases item with
  | shuffled mark => contradiction
  | field n u d =>
    rw [FragmentItem.declaration?] at h
    split at h
    · rename_i hn
      obtain ⟨rfl, rfl⟩ := Prod.mk.inj (Option.some.inj h)
      exact ⟨d, rfl, hn ▸ hmem⟩
    · contradiction

theorem default?_eq_none (h : f.declaration? name = none) : f.default? name = none := by
  rw [declaration?, List.findSome?_eq_none_iff] at h
  rw [default?, List.findSome?_eq_none_iff]
  intro item hitem
  rw [h item hitem, Option.bind_none]

theorem default?_of_declaration? (h : f.declaration? name = some (t, some v)) :
    f.default? name = some v := by
  induction f with
  | nil => contradiction
  | cons item rest ih =>
    rw [declaration?_cons] at h
    rw [default?_cons]
    cases hrest : declaration? rest name with
    | some e =>
      rw [hrest, Option.some_or] at h
      rw [ih (hrest.trans h), Option.some_or]
    | none =>
      rw [hrest, Option.none_or] at h
      rw [default?_eq_none hrest, h]
      rfl

theorem declaration?_flatten (fragments : List Fragment) (name : String) :
    declaration? fragments.flatten name =
      (last? fragments name).bind fun f => f.declaration? name := by
  induction fragments with
  | nil => rfl
  | cons f rest ih =>
    have happend : declaration? (f ++ rest.flatten) name =
        (declaration? rest.flatten name).or (f.declaration? name) := by
      simp [declaration?, List.findSome?_append]
    rw [List.flatten_cons, happend, ih, last?_cons]
    cases hrest : last? rest name with
    | some g =>
      obtain ⟨e, he⟩ := Option.isSome_iff_exists.mp (isSome_of_last? hrest)
      simp [he]
    | none => cases hf : f.declaration? name <;> simp [hf]

theorem get?_fields_reverse (f : Fragment) (name : String) :
    Entries.get? f.fields.reverse name = (f.declaration? name).map Prod.fst := by
  induction f with
  | nil => rfl
  | cons item rest ih =>
    rw [declaration?_cons]
    cases item with
    | shuffled mark =>
      rw [FragmentItem.declaration?, Option.or_none]
      exact ih
    | field n t default =>
      have hfields : fields (.field n t default :: rest) = (n, t) :: fields rest := rfl
      rw [hfields, List.reverse_cons, Entries.get?_append, ih, FragmentItem.declaration?]
      by_cases h : n = name <;> cases declaration? rest name <;> simp [Entries.get?, h]

theorem get?_defaults_reverse (f : Fragment) (name : String) :
    Entries.get? f.defaults.reverse name = f.default? name := by
  induction f with
  | nil => rfl
  | cons item rest ih =>
    rw [default?_cons]
    cases item with
    | shuffled mark =>
      rw [FragmentItem.declaration?, Option.bind_none, Option.or_none]
      exact ih
    | field n t default =>
      cases default with
      | none =>
        have hdefaults : defaults (.field n t none :: rest) = defaults rest := rfl
        rw [hdefaults, ih, FragmentItem.declaration?]
        by_cases h : n = name <;> simp [h]
      | some v =>
        have hdefaults : defaults (.field n t (some v) :: rest) = (n, v.value) :: defaults rest :=
          rfl
        rw [hdefaults, List.reverse_cons, Entries.get?_append, ih, FragmentItem.declaration?]
        by_cases h : n = name <;> simp [Entries.get?, h]

theorem mem_names_fields_iff :
    name ∈ Entries.names f.fields ↔ (f.declaration? name).isSome = true := by
  rw [← Classical.not_not (a := name ∈ _), ← Entries.get?_reverse_eq_none_iff,
    get?_fields_reverse]
  cases f.declaration? name <;> simp

theorem default?_eq_of_nodup (hn : (Entries.names f.fields).Nodup) (name : String) :
    f.default? name = (f.declaration? name).bind Prod.snd := by
  induction f with
  | nil => rfl
  | cons item rest ih =>
    rw [default?_cons, declaration?_cons]
    cases item with
    | shuffled mark => simp [FragmentItem.declaration?, ih hn]
    | field n t default =>
      obtain ⟨hhead, hrest⟩ := List.nodup_cons.mp hn
      rw [ih hrest, FragmentItem.declaration?]
      by_cases h : n = name
      · subst h
        have hnone : ¬ (declaration? rest n).isSome = true := mt mem_names_fields_iff.mpr hhead
        simp [Option.not_isSome_iff_eq_none.mp hnone]
      · simp [h]

theorem not_isStale_of_nodup (hn : ∀ f ∈ fragments, (Entries.names f.fields).Nodup) (name : String)
    (v : Json) : ¬ IsStale fragments name v := by
  rintro ⟨f, t, hlast, hdeclared, hv⟩
  rw [default?_eq_of_nodup (hn f (mem_of_last? hlast)), hdeclared] at hv
  contradiction

end Fragment

namespace Shape

variable {s : Shape} {fragments : List Fragment} {name : String}

def Backed (s : Shape) : Prop :=
  ∀ name, s.fields.get? name = none → s.defaults.get? name = none

theorem get?_defaults_declare (hs : s.Backed) (f : String × FieldType) (name : String) :
    (s.declare f).defaults.get? name = if f.1 = name then none else s.defaults.get? name := by
  unfold declare
  by_cases hf : s.fields.has f.1 = true
  · simp [hf, Entries.get?_erase]
  · have hnone : s.fields.get? f.1 = none :=
      Entries.get?_eq_none_iff.mpr (mt Entries.has_iff.mpr hf)
    by_cases h : f.1 = name
    · rw [if_neg hf, if_pos h, ← h]
      exact hs f.1 hnone
    · rw [if_neg hf, if_neg h]

theorem backed_declare (hs : s.Backed) (f : String × FieldType) : (s.declare f).Backed := by
  intro name h
  have hget : (s.declare f).fields.get? name =
      if f.1 = name then some f.2 else s.fields.get? name :=
    Entries.get?_put s.fields f.1 f.2 name
  rw [hget] at h
  rw [get?_defaults_declare hs]
  by_cases hf : f.1 = name
  · rw [if_pos hf]
  · rw [if_neg hf] at h ⊢
    exact hs name h

theorem get?_defaults_foldl_declare (fields : List (String × FieldType)) (hs : s.Backed)
    (name : String) :
    (fields.foldl declare s).defaults.get? name =
      if name ∈ Entries.names fields then none else s.defaults.get? name := by
  induction fields generalizing s with
  | nil => simp [Entries.names]
  | cons f rest ih =>
    rw [List.foldl_cons, ih (backed_declare hs f), get?_defaults_declare hs, Entries.names_cons]
    by_cases hf : f.1 = name
    · simp [hf]
    · have hf' : name ≠ f.1 := fun h => hf h.symm
      simp [hf, hf']

theorem get?_fields_compose (s : Shape) (f : Fragment) (name : String) :
    (s.compose f).fields.get? name =
      ((f.declaration? name).map Prod.fst).or (s.fields.get? name) := by
  rw [compose_eq, Entries.get?_putAll_reverse, Fragment.get?_fields_reverse]

theorem get?_defaults_compose (hs : s.Backed) (f : Fragment) (name : String) :
    (s.compose f).defaults.get? name =
      if (f.declaration? name).isSome = true then f.default? name else s.defaults.get? name := by
  rw [compose_eq, Entries.get?_putAll_reverse, Fragment.get?_defaults_reverse,
    get?_defaults_foldl_declare f.fields hs]
  cases hf : f.declaration? name with
  | none =>
    have hnot : name ∉ Entries.names f.fields := by simp [Fragment.mem_names_fields_iff, hf]
    simp [Fragment.default?_eq_none hf, hnot]
  | some e =>
    have hmem : name ∈ Entries.names f.fields := by simp [Fragment.mem_names_fields_iff, hf]
    simp [hmem]

theorem backed_compose (hs : s.Backed) (f : Fragment) : (s.compose f).Backed := by
  intro name h
  rw [get?_fields_compose] at h
  obtain ⟨hf, hname⟩ := Option.or_eq_none_iff.mp h
  rw [Option.map_eq_none_iff] at hf
  rw [get?_defaults_compose hs, hf]
  exact hs name hname

theorem get?_foldl_compose (fragments : List Fragment) (hs : s.Backed) (name : String) :
    (fragments.foldl compose s).fields.get? name =
        (((Fragment.last? fragments name).bind fun f => f.declaration? name).map Prod.fst).or
          (s.fields.get? name) ∧
      (fragments.foldl compose s).defaults.get? name =
        match Fragment.last? fragments name with
        | some f => f.default? name
        | none => s.defaults.get? name := by
  induction fragments generalizing s with
  | nil => exact ⟨rfl, rfl⟩
  | cons f rest ih =>
    obtain ⟨hfields, hdefaults⟩ := ih (backed_compose hs f)
    rw [List.foldl_cons, hfields, hdefaults, get?_fields_compose, get?_defaults_compose hs,
      Fragment.last?_cons]
    cases hrest : Fragment.last? rest name with
    | some g =>
      obtain ⟨e, he⟩ := Option.isSome_iff_exists.mp (Fragment.isSome_of_last? hrest)
      simp [he]
    | none => cases hf : f.declaration? name <;> simp [hf]

section

variable {tag : QuestionType} {pins : List (String × Json)}

theorem backed_empty (tag : QuestionType) : (empty tag).Backed :=
  fun _ _ => rfl

theorem get?_fields_build (h : build tag fragments pins = .ok s) (name : String) :
    s.fields.get? name = (Fragment.declaration? fragments.flatten name).map Prod.fst := by
  obtain ⟨-, rfl⟩ := build_eq_ok_iff.mp h
  obtain ⟨hfields, -⟩ := get?_foldl_compose fragments (backed_empty tag) name
  rw [Fragment.declaration?_flatten, ← Option.or_none (o := Option.map _ _)]
  exact hfields

theorem get?_pins_build (h : build tag fragments pins = .ok s) (name : String) :
    s.pins.get? name = Entries.get? pins.reverse name := by
  obtain ⟨-, rfl⟩ := build_eq_ok_iff.mp h
  change Entries.get? ((composed tag fragments).pins.putAll pins) name = _
  rw [pins_composed, Entries.get?_putAll_reverse, Entries.get?, Option.or_none]

theorem get?_defaults_build (h : build tag fragments pins = .ok s) (name : String) :
    s.defaults.get? name =
      (Entries.get? pins.reverse name).or
        ((Fragment.last? fragments name).bind fun f => f.default? name) := by
  obtain ⟨-, rfl⟩ := build_eq_ok_iff.mp h
  obtain ⟨-, hdefaults⟩ := get?_foldl_compose fragments (backed_empty tag) name
  change Entries.get? ((composed tag fragments).defaults.putAll pins) name = _
  rw [Entries.get?_putAll_reverse, composed, hdefaults]
  cases Fragment.last? fragments name <;> rfl

theorem pinned_build (h : build tag fragments pins = .ok s) : s.Pinned := by
  intro name v hv
  have hpin : Entries.get? pins.reverse name = some v := (get?_pins_build h name).symm.trans hv
  have hdefault : s.defaults.get? name = some v := by
    rw [get?_defaults_build h, hpin, Option.some_or]
  obtain ⟨hdeclared, rfl⟩ := build_eq_ok_iff.mp h
  have hmem : (name, v) ∈ pins := List.mem_reverse.mp (Entries.mem_of_get? hpin)
  exact ⟨Entries.has_iff.mp (hdeclared _ hmem), hdefault⟩

end

end Shape

end QuizService
