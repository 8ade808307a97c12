import QuizService.Proofs.Json.Value
import QuizService.Proofs.Question.Declaration

/-!
What a record made from a shape holds: for each field its pin, or else the supplied value over the
default, and arrays of marked fields in any order. Making a record from a record changes nothing
but that order.
-/

namespace QuizService.Shape

variable {s : Shape} {raw : Entries Json} {name : String} {v w : Json}

def Arranges (s : Shape) (name : String) (v w : Json) : Prop :=
  if name ∈ s.shuffled then v.Rearranged w else v = w

theorem arranges_of_mem (h : name ∈ s.shuffled) : s.Arranges name = Json.Rearranged := by
  funext v w
  rw [Arranges, if_pos h]

theorem arranges_of_not_mem (h : name ∉ s.shuffled) : s.Arranges name = (· = ·) := by
  funext v w
  rw [Arranges, if_neg h]

theorem arranges_equivalence (s : Shape) (name : String) : Equivalence (s.Arranges name) := by
  by_cases h : name ∈ s.shuffled
  · rw [arranges_of_mem h]
    exact ⟨.same, .symm, .trans⟩
  · rw [arranges_of_not_mem h]
    exact eq_equivalence

theorem Arranges.rearranged (h : s.Arranges name v w) : v.Rearranged w := by
  unfold Arranges at h
  split at h
  · exact h
  · exact h ▸ .same v

theorem Arranges.eq_object {members : Entries Json} (h : s.Arranges name (.object members) w) :
    w = .object members := by
  cases h.rearranged with
  | same => rfl

theorem get?_instantiate_arranges (s : Shape) (raw : Entries Json) (ds : Draws) (name : String) :
    Option.Rel (s.Arranges name) ((s.pinned raw).get? name)
      ((s.instantiate raw ds).1.get? name) := by
  by_cases h : name ∈ s.shuffled
  · rw [arranges_of_mem h]
    exact get?_instantiate_rel s raw ds name
  · rw [get?_instantiate_of_not_mem h]
    exact optionRel_refl (arranges_equivalence s name).refl _

/-- A record holds a value under a name, but for the order of a marked array. -/
def Holds (s : Shape) (record : Entries Json) (name : String) (v : Json) : Prop :=
  ∃ w, record.get? name = some w ∧ s.Arranges name v w

theorem holds_instantiate (h : (s.pinned raw).get? name = some v) (ds : Draws) :
    s.Holds (s.instantiate raw ds).1 name v := by
  have hrel := get?_instantiate_arranges s raw ds name
  rw [h] at hrel
  exact exists_of_optionRel hrel

structure Contents (s : Shape) (raw record : Entries Json) : Prop where
  names : record.names = s.fields.names.filter fun name =>
    (s.defaults.get? name).isSome || (s.pins.get? name).isSome || (raw.get? name).isSome
  distinct : record.names.Nodup
  pinned : ∀ name v, s.pins.get? name = some v → s.Holds record name v
  merged : ∀ name base more, name ∈ s.fields.names → s.pins.get? name = none →
    s.defaults.get? name = some (.object base) → raw.get? name = some (.object more) →
      ∃ members, record.get? name = some (.object members) ∧ Entries.Overlays base more members
  supplied : ∀ name v, name ∈ s.fields.names → s.pins.get? name = none →
    raw.get? name = some v →
      (∀ base more, ¬ (s.defaults.get? name = some (.object base) ∧ v = .object more)) →
        s.Holds record name v
  defaulted : ∀ name v, name ∈ s.fields.names → s.pins.get? name = none →
    raw.get? name = none → s.defaults.get? name = some v → s.Holds record name v

section

variable {tag : QuestionType} {fragments : List Fragment} {pins : List (String × Json)}

theorem instantiate_contents (h : build tag fragments pins = .ok s) (raw : Bag) (ds : Draws) :
    s.Contents raw (s.instantiate raw ds).1 := by
  have hs : s.Distinct := distinct_build h
  have hp : s.Pinned := pinned_build h
  constructor
  case names =>
    rw [names_instantiate hs hp]
    apply List.filter_congr
    intro name _
    -- A pin is the default of its field too, so it brings no further key.
    cases hpin : s.pins.get? name with
    | none => simp
    | some v => simp [(hp name v hpin).2]
  case distinct => exact nodup_instantiate ds
  case pinned =>
    intro name v hv
    exact holds_instantiate (get?_pinned_of_pin hs hv raw) ds
  case merged =>
    intro name base more hname hpin hbase hmore
    have hvalue : (s.pinned raw).get? name = some (.object (Entries.putAll base more)) := by
      rw [get?_pinned_of_unpinned hs hname hpin, hbase, hmore]
      rfl
    obtain ⟨w, hw, harranges⟩ := holds_instantiate hvalue ds
    obtain rfl := harranges.eq_object
    exact ⟨_, hw, Entries.overlays_putAll (raw.nodup_of_get? hmore)⟩
  case supplied =>
    intro name v hname hpin hv hother
    apply holds_instantiate
    rw [get?_pinned_of_unpinned hs hname hpin, hv, resolveValue_supplied hother]
  case defaulted =>
    intro name v hname hpin hnone hv
    apply holds_instantiate
    rw [get?_pinned_of_unpinned hs hname hpin, hv, hnone]
    exact resolveValue_none (some v)

theorem instantiate_contents_pinned :
    ∃ rules : Json.Plain, rules.value = .object [("a", .int64 1), ("b", .int64 2)] ∧
      let fragment : Fragment :=
        [.field "kind" .string none, .field "tags" (.list .string) none, .shuffled "tags",
          .field "rules" (.map .integer) (some rules), .field "note" .string none]
      let pins : List (String × Json) := [("tags", .strings ["x", "y", "y"])]
      let raw : Entries Json :=
        [("rules", .object [("c", .null), ("b", .int64 5)]), ("other", .bool true),
          ("tags", .int64 7), ("kind", .string "free")]
      ∃ s, build .fill [fragment] pins = .ok s ∧
        (s.instantiate raw [4000000000, 1]).1.names = ["kind", "tags", "rules"] ∧
        s.Holds (s.instantiate raw [4000000000, 1]).1 "kind" (.string "free") ∧
        s.Holds (s.instantiate raw [4000000000, 1]).1 "tags" (.strings ["x", "y", "y"]) ∧
        ∃ members, (s.instantiate raw [4000000000, 1]).1.get? "rules" = some (.object members) ∧
          Entries.names members = ["a", "b", "c"] := by
  refine ⟨⟨.object [("a", .int64 1), ("b", .int64 2)], .object _ (by decide) ?_⟩, rfl, ?_⟩
  · simp [Json.int64]
  intro fragment pins raw
  have hdistinct : (Json.object raw).Distinct := by
    simp [raw, Entries.names, Json.int64]
  let s : Shape :=
    ⟨.fill,
      [("kind", .string), ("tags", .list .string), ("rules", .map .integer), ("note", .string)],
      [("rules", .object [("a", .int64 1), ("b", .int64 2)]), ("tags", .strings ["x", "y", "y"])],
      pins, ["tags"]⟩
  have hb : build .fill [fragment] pins = .ok s := rfl
  have hcontents := instantiate_contents hb ⟨raw, hdistinct⟩ [4000000000, 1]
  obtain ⟨members, hmembers, hmerged⟩ :=
    hcontents.merged "rules" [("a", .int64 1), ("b", .int64 2)] [("c", .null), ("b", .int64 5)]
      (by decide) rfl rfl rfl
  have hother : ∀ base more,
      ¬ (s.defaults.get? "kind" = some (.object base) ∧ Json.string "free" = .object more) := by
    intro base more hobjects
    exact absurd hobjects.2 Json.noConfusion
  exact ⟨s, hb, hcontents.names, hcontents.supplied "kind" _ (by decide) rfl rfl hother,
    hcontents.pinned "tags" _ rfl, members, hmembers, hmerged.names⟩

end

section

variable {default supplied : Option Json}

theorem exists_of_resolveValue_object {base members : Entries Json}
    (h : resolveValue (some (.object base)) supplied = some (.object members)) :
    ∃ more, members = base.putAll more := by
  cases supplied with
  | none =>
    rw [resolveValue_none] at h
    cases h
    exact ⟨[], rfl⟩
  | some v =>
    by_cases hv : ∃ more, v = .object more
    · obtain ⟨more, rfl⟩ := hv
      cases h
      exact ⟨more, rfl⟩
    · rw [resolveValue_supplied fun base more hboth => hv ⟨more, hboth.2⟩] at h
      obtain rfl := Option.some.inj h
      exact absurd ⟨members, rfl⟩ hv

theorem resolveValue_again
    (hdefault : ∀ base, default = some (.object base) → (Entries.names base).Nodup)
    (h : resolveValue default supplied = some v) (hvw : v.Rearranged w) :
    resolveValue default (some w) = some w := by
  by_cases hobjects : ∃ base members, default = some (.object base) ∧ w = .object members
  · obtain ⟨base, members, rfl, rfl⟩ := hobjects
    have hv : v = .object members := by
      cases hvw with
      | same => rfl
    subst hv
    -- The members of the default stand in the object already, each in its place.
    obtain ⟨more, rfl⟩ := exists_of_resolveValue_object h
    have hagain := Entries.putAll_putAll (hdefault base rfl) more
    change some (Json.object (Entries.putAll base (Entries.putAll base more))) = _
    rw [hagain]
  · apply resolveValue_supplied
    intro base members hboth
    exact hobjects ⟨base, members, hboth⟩

theorem resolveValue_held {held : Option Json}
    (hdefault : ∀ base, default = some (.object base) → (Entries.names base).Nodup)
    (h : Option.Rel Json.Rearranged (resolveValue default supplied) held) :
    resolveValue default held = held := by
  cases hv : resolveValue default supplied with
  | none =>
    rw [hv] at h
    obtain ⟨rfl, -⟩ := resolveValue_eq_none_iff.mp hv
    obtain rfl := eq_none_of_optionRel h
    rfl
  | some v =>
    rw [hv] at h
    obtain ⟨w, rfl, hvw⟩ := exists_of_optionRel h
    exact resolveValue_again hdefault hv hvw

end

def PlainDefaults (s : Shape) : Prop :=
  ∀ name base, s.pins.get? name = none → s.defaults.get? name = some (.object base) →
    (Entries.names base).Nodup

theorem get?_pinned_again (hs : s.Distinct) (hplain : s.PlainDefaults) (raw : Entries Json)
    (ds : Draws) (name : String) :
    Option.Rel (s.Arranges name) ((s.instantiate raw ds).1.get? name)
      ((s.pinned (s.instantiate raw ds).1).get? name) := by
  have hrel := get?_instantiate_arranges s raw ds name
  cases hpin : s.pins.get? name with
  | some v =>
    -- The pin stands where the first record held it, perhaps in another order.
    rw [get?_pinned_of_pin hs hpin] at hrel ⊢
    obtain ⟨w, hw, harranges⟩ := exists_of_optionRel hrel
    rw [hw]
    exact .some ((arranges_equivalence s name).symm harranges)
  | none =>
    by_cases hname : name ∈ s.fields.names
    · have hheld := get?_instantiate_rel s raw ds name
      rw [get?_pinned_of_unpinned hs hname hpin] at hheld
      rw [get?_pinned_of_unpinned hs hname hpin,
        resolveValue_held (fun base => hplain name base hpin) hheld]
      exact optionRel_refl (arranges_equivalence s name).refl _
    · rw [get?_pinned_of_undeclared hs hname hpin] at hrel ⊢
      rw [eq_none_of_optionRel hrel]
      exact .none

theorem names_instantiate_again (hs : s.Distinct) (hp : s.Pinned) (raw : Entries Json)
    (ds ds' : Draws) :
    (s.instantiate (s.instantiate raw ds).1 ds').1.names = (s.instantiate raw ds).1.names := by
  rw [names_instantiate hs hp (s.instantiate raw ds).1 ds', names_instantiate hs hp raw ds]
  apply List.filter_congr
  intro name hname
  cases hdefault : (s.defaults.get? name).isSome with
  | true => rw [Bool.true_or, Bool.true_or]
  | false =>
    rw [Bool.false_or, Bool.false_or]
    apply Bool.eq_iff_iff.mpr
    rw [Entries.isSome_get?_iff, names_instantiate hs hp raw ds, List.mem_filter, hdefault,
      Bool.false_or]
    exact and_iff_right hname

section

variable {tag : QuestionType} {fragments : List Fragment} {pins : List (String × Json)}

theorem plainDefaults_build (h : build tag fragments pins = .ok s) : s.PlainDefaults := by
  intro name base hpin hbase
  rw [get?_pins_build h] at hpin
  rw [get?_defaults_build h, hpin, Option.none_or] at hbase
  obtain ⟨f, hf, hdefault⟩ := Option.bind_eq_some_iff.mp hbase
  rw [← Fragment.get?_defaults_reverse] at hdefault
  have hmem : (name, .object base) ∈ f.defaults :=
    List.mem_reverse.mp (Entries.mem_of_get? hdefault)
  exact (Json.distinct_object_iff.mp (Fragment.distinct_of_mem_defaults hmem)).1

theorem instantiate_again (h : build tag fragments pins = .ok s) (raw : Entries Json)
    (ds ds' : Draws) :
    List.Forall₂ (fun a b => a.1 = b.1 ∧ s.Arranges a.1 a.2 b.2) (s.instantiate raw ds).1
      (s.instantiate (s.instantiate raw ds).1 ds').1 := by
  have hs : s.Distinct := distinct_build h
  have hp : s.Pinned := pinned_build h
  have hplain : s.PlainDefaults := plainDefaults_build h
  apply Entries.forall₂_of_get? (names_instantiate_again hs hp raw ds ds').symm
    (nodup_instantiate ds)
  intro name
  have hfirst := get?_pinned_again hs hplain raw ds name
  have hsecond := get?_instantiate_arranges s (s.instantiate raw ds).1 ds' name
  exact optionRel_trans (R := s.Arranges name) (arranges_equivalence s name).trans hfirst hsecond

theorem instantiate_again_reordered :
    ∃ rules : Json.Plain, rules.value = .object [("a", .int64 1), ("b", .int64 2)] ∧
      let fragment : Fragment :=
        [.field "tags" (.list .string) none, .shuffled "tags",
          .field "rules" (.map .integer) (some rules)]
      let pins : List (String × Json) := [("tags", .strings ["x", "y"])]
      let once : Entries Json :=
        [("tags", .strings ["x", "y"]),
          ("rules", .object [("a", .int64 1), ("b", .int64 5), ("c", .null)])]
      let twice : Entries Json :=
        [("tags", .strings ["y", "x"]),
          ("rules", .object [("a", .int64 1), ("b", .int64 5), ("c", .null)])]
      ∃ s, build .fill [fragment] pins = .ok s ∧
        (s.instantiate [("rules", .object [("c", .null), ("b", .int64 5)])] [3000000000]).1 = once ∧
        (s.instantiate once [0]).1 = twice ∧
        List.Forall₂ (fun a b => a.1 = b.1 ∧ s.Arranges a.1 a.2 b.2) once twice := by
  refine ⟨⟨.object [("a", .int64 1), ("b", .int64 2)], .object _ (by decide) ?_⟩, rfl, ?_⟩
  · simp [Json.int64]
  intro fragment pins once twice
  let raw : Entries Json := [("rules", .object [("c", .null), ("b", .int64 5)])]
  let s : Shape :=
    ⟨.fill, [("tags", .list .string), ("rules", .map .integer)],
      [("rules", .object [("a", .int64 1), ("b", .int64 2)]), ("tags", .strings ["x", "y"])],
      pins, ["tags"]⟩
  have hb : build .fill [fragment] pins = .ok s := rfl
  have honce : (s.instantiate raw [3000000000]).1 = once := rfl
  have htwice : (s.instantiate once [0]).1 = twice := rfl
  have hagain := instantiate_again hb raw [3000000000] [0]
  rw [honce, htwice] at hagain
  exact ⟨s, hb, honce, htwice, hagain⟩

end

end QuizService.Shape
