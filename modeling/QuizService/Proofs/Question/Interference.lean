import QuizService.Proofs.Question.Assembly
import QuizService.Proofs.Question.Catalogue

/-!
What a record depends on. Main statements: of a bag of supplied values only those of declared fields
without a pin have a part in the record and in the random words that are left; of the values in
marked fields only the lengths of arrays have a part in where their items land.
-/

namespace QuizService.Shape

variable {s : Shape} {raw raw' : Entries Json}

def Agree (s : Shape) (raw raw' : Entries Json) : Prop :=
  ∀ name ∈ s.fields.names, s.pins.get? name = none → raw.get? name = raw'.get? name

theorem get?_pinned_congr (hs : s.Distinct) (h : s.Agree raw raw') (name : String) :
    (s.pinned raw).get? name = (s.pinned raw').get? name := by
  cases hpin : s.pins.get? name with
  | some v => rw [get?_pinned_of_pin hs hpin, get?_pinned_of_pin hs hpin]
  | none =>
    by_cases hname : name ∈ s.fields.names
    · rw [get?_pinned_of_unpinned hs hname hpin, get?_pinned_of_unpinned hs hname hpin,
        h name hname hpin]
    · rw [get?_pinned_of_undeclared hs hname hpin, get?_pinned_of_undeclared hs hname hpin]

theorem names_pinned_congr (hs : s.Distinct) (hp : s.Pinned) (h : s.Agree raw raw') :
    (s.pinned raw).names = (s.pinned raw').names := by
  rw [names_pinned hs hp, names_pinned hs hp]
  apply List.filter_congr
  intro name hname
  cases hpin : s.pins.get? name with
  | some v =>
    -- A pin is a default too, so what is supplied does not bring the field in.
    obtain ⟨-, hdefault⟩ := hp name v hpin
    rw [hdefault]
    rfl
  | none => rw [h name hname hpin]

theorem pinned_congr (hs : s.Distinct) (hp : s.Pinned) (h : s.Agree raw raw') :
    s.pinned raw = s.pinned raw' :=
  Entries.ext_get? (names_pinned_congr hs hp h) (Entries.nodup_putAll nodup_filled)
    (get?_pinned_congr hs h)

theorem instantiate_noninterference :
    (∀ tag fragments pins s, build tag fragments pins = .ok s →
      ∀ raw raw', s.Agree raw raw' → ∀ ds, s.instantiate raw ds = s.instantiate raw' ds) ∧
    ∀ q s, Catalogue.shape q = .ok s → ∀ raw ds,
      (s.instantiate raw ds).1.get? "category" = some (.string q.tag) ∧
        (q = .mcq → (s.instantiate raw ds).1.get? "num_selectable" = some (.int64 1)) := by
  constructor
  · intro tag fragments pins s h raw raw' hagree ds
    rw [instantiate_eq, instantiate_eq, pinned_congr (distinct_build h) (pinned_build h) hagree]
  · intro q s h raw ds
    constructor
    · have hpin : Entries.get? (Catalogue.pins q).reverse "category" = some (.string q.tag) := by
        cases q <;> rfl
      exact Catalogue.get?_instantiate_of_pin h hpin (by decide) raw ds
    · rintro rfl
      exact Catalogue.get?_instantiate_of_pin h rfl (by decide) raw ds

theorem instantiate_noninterference_pinned :
    let fragment : Fragment :=
      [.field "kind" .string none, .field "tags" (.list .string) none, .shuffled "kind",
        .shuffled "tags"]
    let tags : Json := .strings ["x", "y", "z"]
    let raw : Entries Json :=
      [("kind", .strings ["p", "q", "r", "s"]), ("tags", tags), ("other", .null)]
    let raw' : Entries Json := [("more", .bool true), ("tags", tags), ("kind", .object [])]
    ∃ s, build .fill [fragment] [("kind", .string "fill")] = .ok s ∧ s.Agree raw raw' ∧
      s.instantiate raw [7, 3000000000, 11] = s.instantiate raw' [7, 3000000000, 11] := by
  intro fragment tags raw raw'
  -- The array supplied for the pinned text takes no words from the field that is marked after it.
  let s : Shape :=
    ⟨.fill, [("kind", .string), ("tags", .list .string)], [("kind", .string "fill")],
      [("kind", .string "fill")], ["kind", "tags"]⟩
  have hb : build .fill [fragment] [("kind", .string "fill")] = .ok s := rfl
  have hagree : s.Agree raw raw' := by
    simp [Agree, s, raw, raw', Entries.names, Entries.get?]
  obtain ⟨hgeneral, -⟩ := instantiate_noninterference
  exact ⟨s, hb, hagree, hgeneral _ _ _ s hb raw raw' hagree [7, 3000000000, 11]⟩

section

variable {record record' : Entries Json} {state state' : Entries Json × Draws} {name : String}
  {marks before later : List String} {count : Nat} {ds : Draws}

def countAt? (record : Entries Json) (name : String) : Option Nat :=
  match record.get? name with
  | some (.array items) => some items.length
  | _ => none

theorem countAt?_eq_some_iff :
    countAt? record name = some count ↔
      ∃ items, record.get? name = some (.array items) ∧ items.length = count := by
  unfold countAt?
  split
  · rename_i items hitems
    simp [hitems]
  · rename_i hother
    simp only [reduceCtorEq, false_iff, not_exists, not_and]
    intro items hitems
    exact absurd hitems (hother items)

theorem countAt?_of_rel
    (h : Option.Rel Json.Rearranged (record.get? name) (record'.get? name)) :
    countAt? record' name = countAt? record name := by
  unfold countAt?
  cases hv : record.get? name with
  | none =>
    rw [hv] at h
    rw [eq_none_of_optionRel h]
  | some v =>
    rw [hv] at h
    obtain ⟨w, hw, hvw⟩ := exists_of_optionRel h
    rw [hw]
    cases hvw with
    | same => rfl
    | array hperm => exact congrArg some hperm.length_eq

theorem countAt?_instantiate (s : Shape) (raw : Entries Json) (ds : Draws) (name : String) :
    countAt? (s.instantiate raw ds).1 name = countAt? (s.pinned raw) name :=
  countAt?_of_rel (get?_instantiate_rel s raw ds name)

theorem draws_shuffleField (state : Entries Json × Draws) (name : String) :
    (shuffleField state name).2 =
      match countAt? state.1 name with
      | some count => Shuffle.left count state.2
      | none => state.2 := by
  cases hcount : countAt? state.1 name with
  | some count =>
    obtain ⟨items, hitems, rfl⟩ := countAt?_eq_some_iff.mp hcount
    simp only [shuffleField, hitems, Shuffle.shuffle_eq]
  | none =>
    unfold shuffleField
    split
    · rename_i items hitems
      rw [countAt?_eq_some_iff.mpr ⟨items, hitems, rfl⟩] at hcount
      contradiction
    · rfl

theorem suffix_shuffleField (state : Entries Json × Draws) (name : String) :
    (shuffleField state name).2 <:+ state.2 := by
  unfold shuffleField
  split
  · exact Shuffle.shuffle_suffix _ _
  · exact List.suffix_rfl

theorem suffix_instantiate (s : Shape) (raw : Entries Json) (ds : Draws) :
    (s.instantiate raw ds).2 <:+ ds :=
  List.foldlRecOn (motive := fun state : Entries Json × Draws => state.2 <:+ ds) s.shuffled
    shuffleField List.suffix_rfl
    fun state h name _ => (suffix_shuffleField state name).trans h

structure Alike (marks : List String) (state state' : Entries Json × Draws) : Prop where
  draws : state.2 = state'.2
  counts : ∀ name ∈ marks, countAt? state.1 name = countAt? state'.1 name

theorem Alike.shuffleField (h : Alike marks state state') (hname : name ∈ marks) :
    Alike marks (shuffleField state name) (shuffleField state' name) where
  draws := by
    rw [draws_shuffleField, draws_shuffleField, h.counts name hname, h.draws]
  counts := by
    intro other hother
    rw [countAt?_of_rel (get?_shuffleField_rel state name other),
      countAt?_of_rel (get?_shuffleField_rel state' name other), h.counts other hother]

theorem Alike.foldl (h : Alike marks state state') (hbefore : ∀ name ∈ before, name ∈ marks) :
    Alike marks (before.foldl Shape.shuffleField state)
      (before.foldl Shape.shuffleField state') := by
  induction before generalizing state state' with
  | nil => exact h
  | cons name rest ih =>
    obtain ⟨hname, hrest⟩ := List.forall_mem_cons.mp hbefore
    exact ih (h.shuffleField hname) hrest

/-- The items of a marked field are those before shuffling, each at the place that a permutation of
the places gives. -/
def Moves (s : Shape) (raw : Entries Json) (ds : Draws) (name : String)
    (σ : Equiv.Perm (Fin count)) : Prop :=
  ∃ items moved, (s.pinned raw).get? name = some (.array items) ∧
    (s.instantiate raw ds).1.get? name = some (.array moved) ∧
    items.length = count ∧ moved.length = count ∧
    ∀ i : Fin count, moved[(i : Nat)]? = items[(σ i : Nat)]?

theorem get?_shuffleField_array {items : List Json}
    (h : state.1.get? name = some (.array items)) :
    (shuffleField state name).1.get? name =
      some (.array (Shuffle.shuffle items state.2).1) := by
  simp only [shuffleField, h, Entries.get?_put_self]

theorem moves_of_turn {s : Shape} (hmarks : s.shuffled = before ++ name :: later)
    (hbefore : name ∉ before) (hlater : name ∉ later) (raw : Entries Json)
    (hcount : countAt? (s.pinned raw) name = some count) :
    s.Moves raw ds name
      (Shuffle.order count (before.foldl shuffleField (s.pinned raw, ds)).2) := by
  obtain ⟨items, hitems, hlength⟩ := countAt?_eq_some_iff.mp hcount
  -- The marks before and after touch other fields, but those before take words.
  let turn := before.foldl shuffleField (s.pinned raw, ds)
  have hturn : turn.1.get? name = some (.array items) := by
    rw [get?_foldl_shuffleField_of_not_mem hbefore, hitems]
  have hmoved : (s.instantiate raw ds).1.get? name =
      some (.array (Shuffle.shuffle items turn.2).1) := by
    rw [instantiate_eq, hmarks, List.foldl_append, List.foldl_cons,
      get?_foldl_shuffleField_of_not_mem hlater, get?_shuffleField_array hturn]
  refine ⟨items, _, hitems, hmoved, hlength, ?_, Shuffle.getElem?_shuffle hlength turn.2⟩
  rw [(Shuffle.shuffle_perm items turn.2).length_eq, hlength]

theorem exists_turn (hn : marks.Nodup) (h : name ∈ marks) :
    ∃ before later, marks = before ++ name :: later ∧ name ∉ before ∧ name ∉ later := by
  obtain ⟨before, later, rfl⟩ := List.append_of_mem h
  obtain ⟨-, hcons, hdisjoint⟩ := List.nodup_append.mp hn
  refine ⟨before, later, rfl, ?_, (List.nodup_cons.mp hcons).1⟩
  intro hmem
  exact hdisjoint name hmem name List.mem_cons_self rfl

end

theorem instantiate_blind {tag : QuestionType} {fragments : List Fragment}
    {pins : List (String × Json)} (h : build tag fragments pins = .ok s) (ds : Draws)
    (hcounts : ∀ name ∈ s.shuffled,
      countAt? (s.instantiate raw ds).1 name = countAt? (s.instantiate raw' ds).1 name) :
    (∃ drawn, drawn ++ (s.instantiate raw ds).2 = ds ∧
      drawn ++ (s.instantiate raw' ds).2 = ds) ∧
    ∀ name ∈ s.shuffled, ∀ count, countAt? (s.instantiate raw ds).1 name = some count →
      ∃ σ : Equiv.Perm (Fin count), s.Moves raw ds name σ ∧ s.Moves raw' ds name σ := by
  have halike : Alike s.shuffled (s.pinned raw, ds) (s.pinned raw', ds) := by
    refine ⟨rfl, fun name hname => ?_⟩
    have hsame := hcounts name hname
    rwa [countAt?_instantiate, countAt?_instantiate] at hsame
  constructor
  · obtain ⟨drawn, hdrawn⟩ := suffix_instantiate s raw ds
    have hleft : (s.instantiate raw ds).2 = (s.instantiate raw' ds).2 :=
      (halike.foldl fun _ hname => hname).draws
    exact ⟨drawn, hdrawn, hleft ▸ hdrawn⟩
  · intro name hname count hcount
    rw [countAt?_instantiate] at hcount
    have hcount' : countAt? (s.pinned raw') name = some count :=
      (halike.counts name hname).symm.trans hcount
    obtain ⟨before, later, hmarks, hbefore, hlater⟩ :=
      exists_turn (assembled_build h).markedOnce hname
    have hearlier : ∀ mark ∈ before, mark ∈ s.shuffled := by
      intro mark hmark
      rw [hmarks]
      exact List.mem_append_left _ hmark
    -- Both runs come to the field with the same words.
    have hdraws := (halike.foldl hearlier).draws
    refine ⟨_, moves_of_turn hmarks hbefore hlater raw hcount, ?_⟩
    rw [hdraws]
    exact moves_of_turn hmarks hbefore hlater raw' hcount'

theorem instantiate_blind_redrawn :
    let fragment : Fragment :=
      [.field "a" (.list .string) none, .field "b" (.list .string) none,
        .field "c" (.list .string) none, .shuffled "b", .shuffled "c", .shuffled "a"]
    let raw : Entries Json :=
      [("a", .strings ["p", "q"]), ("b", .strings ["x", "y", "z"]), ("c", .bool true)]
    let raw' : Entries Json :=
      [("b", .array [.null, .int64 5, .null]), ("a", .array [.object [], .string "p"])]
    let ds : Draws := [1431655765, 3000000000, 7, 12, 11]
    ∃ s, build .fill [fragment] [] = .ok s ∧
      (s.instantiate raw ds).2 = [11] ∧ (s.instantiate raw' ds).2 = [11] ∧
      (∃ σ : Equiv.Perm (Fin 3), s.Moves raw ds "b" σ ∧ s.Moves raw' ds "b" σ) ∧
      ∃ σ : Equiv.Perm (Fin 2), s.Moves raw ds "a" σ ∧ s.Moves raw' ds "a" σ := by
  intro fragment raw raw' ds
  let s : Shape :=
    ⟨.fill, [("a", .list .string), ("b", .list .string), ("c", .list .string)], [], [],
      ["b", "c", "a"]⟩
  have hb : build .fill [fragment] [] = .ok s := rfl
  -- The first word is drawn again for three items; the text that is no array takes none.
  have hcounts : ∀ name ∈ s.shuffled,
      countAt? (s.instantiate raw ds).1 name = countAt? (s.instantiate raw' ds).1 name := by
    decide
  obtain ⟨-, hmoves⟩ := instantiate_blind hb ds hcounts
  exact ⟨s, hb, rfl, rfl, hmoves "b" (by decide) 3 rfl, hmoves "a" (by decide) 2 rfl⟩

end QuizService.Shape
