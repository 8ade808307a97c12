import QuizService.Proofs.Json.Decode
import QuizService.Proofs.Json.Value
import QuizService.Proofs.Question.Arrangement
import QuizService.Proofs.Question.Catalogue

/-!
The two nested records of a question. Their defaults are filled in twice: a supplied object is put
over the default when the question is made, and missing members take their defaults when the
object is read. Main statement: the two agree on whatever is supplied.
-/

namespace QuizService

section

variable {α : Type} {ofText? : String → Option α} {json : α → Json} {default : α}
  {names : List String} {supplied : Option Json} {held : Json}

structure ReadsAsSupplied (ofText? : String → Option α) (json : α → Json) (default : α)
    (names : List String) (supplied : Option Json) (held : Json) : Prop where
  given : ∀ v, supplied = some v → ofText? held.text = ofText? v.text
  written : ∀ more r, supplied = some (.object more) → ofText? (Json.object more).text = some r →
    ∃ members, held = .object members ∧
      Entries.names (members.filter fun m => m.1 ∈ names) = names ∧
      json r = .object (members.filter fun m => m.1 ∈ names)
  missing : supplied = none → ofText? held.text = some default

/-- Whatever is missing from an object is read as the default has it: the record that is read is
written with the members of the default, each with the object's value where it has one. -/
structure ReadsOver (ofText? : String → Option α) (json : α → Json) (default : α)
    (names : List String) (base : Entries Json) : Prop where
  default : json default = .object base
  names : base.names = names
  distinct : base.names.Nodup
  read : ∀ members r, (Entries.names members).Nodup →
    (ofText? (Json.object members).text = some r ↔ json r = .object (base.updated members))

namespace ReadsOver

variable {base more : Entries Json}

theorem read_default (h : ReadsOver ofText? json default names base) :
    ofText? (Json.object base).text = some default := by
  rw [h.read base default h.distinct, Entries.updated_self h.distinct, h.default]

theorem read_putAll (h : ReadsOver ofText? json default names base) (hmore : more.names.Nodup) :
    ofText? (Json.object (base.putAll more)).text = ofText? (Json.object more).text := by
  apply Option.ext
  intro r
  rw [h.read _ r (Entries.nodup_putAll h.distinct), h.read _ r hmore,
    Entries.updated_putAll h.distinct hmore]

theorem readsAsSupplied (h : ReadsOver ofText? json default names base)
    (hmore : ∀ more, supplied = some (.object more) → (Entries.names more).Nodup)
    (hheld : Shape.resolveValue (some (json default)) supplied = some held) :
    ReadsAsSupplied ofText? json default names supplied held := by
  rw [h.default] at hheld
  constructor
  case given =>
    rintro v rfl
    -- Only an object is put over the default; anything else is held as it is supplied.
    by_cases hv : ∃ more, v = .object more
    · obtain ⟨more, rfl⟩ := hv
      cases hheld
      exact h.read_putAll (hmore more rfl)
    · rw [Shape.resolveValue_supplied fun _ more hboth => hv ⟨more, hboth.2⟩] at hheld
      rw [Option.some.inj hheld]
  case written =>
    rintro more r rfl hr
    cases hheld
    have hn : (Entries.names more).Nodup := hmore more rfl
    refine ⟨_, rfl, ?_⟩
    rw [← h.names, Entries.filter_putAll h.distinct hn]
    exact ⟨Entries.names_updated base more, (h.read more r hn).mp hr⟩
  case missing =>
    rintro rfl
    rw [Shape.resolveValue_none] at hheld
    rw [← Option.some.inj hheld]
    exact h.read_default

end ReadsOver

end

theorem ScoringRules.ofText?_text (v : Json) : ofText? v.text = ofTree? v.tree := by
  rw [ofText?, Json.ofText?_text]
  rfl

theorem Analytics.ofText?_text (v : Json) : ofText? v.text = ofTree? v.tree := by
  rw [ofText?, Json.ofText?_text]
  rfl

theorem ScoringRules.readsOver : ∃ base, ReadsOver ofText? json default names base := by
  refine ⟨_, rfl, rfl, by decide, ?_⟩
  intro members r h
  rw [ofText?_text, ofTree?, Json.fields?_object_of_nodup names h]
  simp only [names, List.map_cons, List.map_nil, Option.bind_eq_bind, Option.bind_some,
    Option.bind_eq_some_iff, Json.decodes_int64.orDefault?, Json.decodes_bool.orDefault?,
    json, Entries.updated, Json.object.injEq, List.cons.injEq, Prod.mk.injEq, true_and, and_true]
  constructor
  · rintro ⟨a, ha, b, hb, c, hc, d, hd, e, he, f, hf, ⟨⟩⟩
    exact ⟨ha.symm, hb.symm, hc.symm, hd.symm, he.symm, hf.symm⟩
  · rintro ⟨ha, hb, hc, hd, he, hf⟩
    exact ⟨_, ha.symm, _, hb.symm, _, hc.symm, _, hd.symm, _, he.symm, _, hf.symm, rfl⟩

theorem Analytics.readsOver : ∃ base, ReadsOver ofText? json default names base := by
  refine ⟨_, rfl, rfl, by decide, ?_⟩
  intro members r h
  rw [ofText?_text, ofTree?, Json.fields?_object_of_nodup names h]
  simp only [names, List.map_cons, List.map_nil, Option.bind_eq_bind, Option.bind_some,
    Option.bind_eq_some_iff, Json.decodes_uint32.orDefault?, json, Entries.updated,
    Json.object.injEq, List.cons.injEq, Prod.mk.injEq, true_and, and_true]
  constructor
  · rintro ⟨a, ha, b, hb, c, hc, ⟨⟩⟩
    exact ⟨ha.symm, hb.symm, hc.symm⟩
  · rintro ⟨ha, hb, hc⟩
    exact ⟨_, ha.symm, _, hb.symm, _, hc.symm, rfl⟩

namespace Catalogue

def nested : Entries Json :=
  [("scoring_rules", ScoringRules.default.json), ("analytics", Analytics.default.json)]

variable {q : QuestionType} {s : Shape} {raw : Entries Json}

theorem get?_instantiate_nested (h : shape q = .ok s) {name : String} {default : Json}
    (hnested : (name, default) ∈ nested) (raw : Entries Json) (ds : Draws) :
    (s.instantiate raw ds).1.get? name =
      Shape.resolveValue (some default) (raw.get? name) := by
  have hfield : name ∈ s.fields.names ∧ s.pins.get? name = none ∧ name ∉ s.shuffled ∧
      s.defaults.get? name = some default := by
    simp only [nested, List.mem_cons, Prod.mk.injEq, List.not_mem_nil, or_false] at hnested
    rcases hnested with ⟨rfl, rfl⟩ | ⟨rfl, rfl⟩
    all_goals cases q <;> (obtain rfl := Except.ok.inj h; exact ⟨by decide, rfl, by decide, rfl⟩)
  obtain ⟨hname, hpin, hmark, hdefault⟩ := hfield
  rw [Shape.get?_instantiate_of_unpinned (distinct_shape h) hname hpin hmark, hdefault]

theorem exists_readsAsSupplied {α : Type} {ofText? : String → Option α} {json : α → Json}
    {default : α} {names : List String} {name : String} (h : shape q = .ok s) (raw : Bag)
    (hnested : (name, json default) ∈ nested)
    (hreads : ∃ base, ReadsOver ofText? json default names base) (ds : Draws) :
    ∃ held, (s.instantiate raw ds).1.get? name = some held ∧
      ReadsAsSupplied ofText? json default names (raw.members.get? name) held := by
  obtain ⟨held, hheld⟩ : ∃ held,
      Shape.resolveValue (some (json default)) (raw.members.get? name) = some held := by
    rw [← Option.isSome_iff_exists, Shape.isSome_resolveValue]
    rfl
  obtain ⟨base, hbase⟩ := hreads
  refine ⟨held, ?_, hbase.readsAsSupplied (fun _ => raw.nodup_of_get?) hheld⟩
  rw [get?_instantiate_nested h hnested, hheld]

theorem nested_reads_as_supplied (q : QuestionType) (raw : Bag) (ds : Draws) :
    ∃ s, shape q = .ok s ∧
      (∃ rules, (s.instantiate raw ds).1.get? "scoring_rules" = some rules ∧
        ReadsAsSupplied ScoringRules.ofText? ScoringRules.json ScoringRules.default
          ScoringRules.names (raw.members.get? "scoring_rules") rules) ∧
      ∃ analytics, (s.instantiate raw ds).1.get? "analytics" = some analytics ∧
        ReadsAsSupplied Analytics.ofText? Analytics.json Analytics.default Analytics.names
          (raw.members.get? "analytics") analytics := by
  obtain ⟨s, hs, -⟩ := shape_eq_ok q
  exact ⟨s, hs, exists_readsAsSupplied hs raw List.mem_cons_self ScoringRules.readsOver ds,
    exists_readsAsSupplied hs raw (List.mem_cons_of_mem _ List.mem_cons_self)
      Analytics.readsOver ds⟩

theorem nested_reads_as_supplied_partial :
    let more : Entries Json :=
      [("skippable", .bool true), ("note", .null), ("points", .int64 5)]
    let raw : Entries Json :=
      [("scoring_rules", .object more), ("analytics", .array [.uint32 3])]
    ∃ s, shape .mcq = .ok s ∧
      (∃ members, (s.instantiate raw [7]).1.get? "scoring_rules" = some (.object members) ∧
        ScoringRules.json ⟨5, 0, 60, true, false, false⟩ =
          .object (members.filter fun m => m.1 ∈ ScoringRules.names)) ∧
      ∃ counters, (s.instantiate raw [7]).1.get? "analytics" = some counters ∧
        Analytics.ofText? counters.text = some ⟨3, 0, 0⟩ := by
  intro more raw
  have hdistinct : (Json.object raw).Distinct := by
    simp [raw, more, Entries.names, Json.int64, Json.uint32]
  have hrules : ScoringRules.ofText? (Json.object more).text =
      some ⟨5, 0, 60, true, false, false⟩ := by
    obtain ⟨base, hreads⟩ := ScoringRules.readsOver
    obtain rfl := Json.object.inj hreads.default
    exact (hreads.read more _ (by decide)).mpr rfl
  have hcounters : Analytics.ofText? (Json.array [.uint32 3]).text = some ⟨3, 0, 0⟩ := by
    rw [Analytics.ofText?_text, Json.uint32, Json.tree, Json.trees, Json.tree, Json.reread?_whole]
    rfl
  obtain ⟨s, hs, ⟨rules, hrulesAt, hrulesRead⟩, counters, hcountersAt, hcountersRead⟩ :=
    nested_reads_as_supplied .mcq ⟨raw, hdistinct⟩ [7]
  obtain ⟨members, rfl, -, hwritten⟩ := hrulesRead.written more _ rfl hrules
  exact ⟨s, hs, ⟨members, hrulesAt, hwritten⟩, counters, hcountersAt,
    (hcountersRead.given _ rfl).trans hcounters⟩

end Catalogue

end QuizService
