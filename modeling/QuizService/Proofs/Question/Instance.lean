import QuizService.Proofs.Entries
import QuizService.Proofs.Question.Shuffle
import QuizService.Question.Instance

namespace QuizService.Shape

variable {s : Shape} {raw record : Entries Json} {state : Entries Json × Draws}

def fillField (s : Shape) (raw record : Entries Json) (f : String × FieldType) : Entries Json :=
  match resolveValue (s.defaults.get? f.1) (raw.get? f.1) with
  | some v => record.put f.1 v
  | none => record

theorem filled_eq (s : Shape) (raw : Entries Json) :
    s.filled raw = s.fields.foldl (s.fillField raw) [] :=
  rfl

theorem get?_fillField (f : String × FieldType) (name : String) :
    (s.fillField raw record f).get? name =
      if f.1 = name then
        (resolveValue (s.defaults.get? name) (raw.get? name)).or (record.get? name)
      else record.get? name := by
  unfold fillField
  by_cases h : f.1 = name
  · subst h
    cases hv : resolveValue (s.defaults.get? f.1) (raw.get? f.1) <;> simp [Entries.get?_put]
  · cases hv : resolveValue (s.defaults.get? f.1) (raw.get? f.1) <;> simp [Entries.get?_put, h]

theorem get?_foldl_fillField (fields : Entries FieldType) (record : Entries Json) (name : String) :
    (fields.foldl (s.fillField raw) record).get? name =
      if name ∈ fields.names then
        (resolveValue (s.defaults.get? name) (raw.get? name)).or (record.get? name)
      else record.get? name := by
  induction fields generalizing record with
  | nil => rfl
  | cons f rest ih =>
    rw [List.foldl_cons, ih, get?_fillField, Entries.names_cons]
    by_cases hf : f.1 = name
    · -- A later field of the name would hold the same value.
      subst hf
      cases resolveValue (s.defaults.get? f.1) (raw.get? f.1) <;> simp
    · have hf' : name ≠ f.1 := fun h => hf h.symm
      simp only [if_neg hf, List.mem_cons, hf', false_or]

theorem get?_filled (name : String) :
    (s.filled raw).get? name =
      if name ∈ s.fields.names then resolveValue (s.defaults.get? name) (raw.get? name)
      else none := by
  rw [filled_eq, get?_foldl_fillField]
  simp [Entries.get?]

theorem nodup_filled : (s.filled raw).names.Nodup := by
  refine List.foldlRecOn (motive := fun record => (Entries.names record).Nodup) s.fields
    (s.fillField raw) List.nodup_nil fun record h f _ => ?_
  unfold fillField
  split
  · exact Entries.nodup_put h
  · exact h

theorem nodup_shuffleField (h : state.1.names.Nodup) (name : String) :
    (shuffleField state name).1.names.Nodup := by
  unfold shuffleField
  split
  · exact Entries.nodup_put h
  · exact h

theorem get?_shuffleField {name other : String} {v : Json}
    (h : (shuffleField state name).1.get? other = some v) :
    state.1.get? other = some v ∨
      ∃ items arranged, state.1.get? other = some (.array items) ∧ v = .array arranged ∧
        arranged.Perm items := by
  unfold shuffleField at h
  split at h
  · rename_i items hitems
    rw [Entries.get?_put] at h
    by_cases hn : name = other
    · subst hn
      rw [if_pos rfl] at h
      exact .inr ⟨items, _, hitems, (Option.some.inj h).symm, Shuffle.shuffle_perm items state.2⟩
    · rw [if_neg hn] at h
      exact .inl h
  · exact .inl h

theorem instantiate_preserves {P : Entries Json → Prop} (hpinned : P ((s.filled raw).putAll s.pins))
    (hshuffle : ∀ state name, P state.1 → P (shuffleField state name).1) (ds : Draws) :
    P (s.instantiate raw ds).1 :=
  List.foldlRecOn (motive := fun state => P state.1) s.shuffled shuffleField hpinned
    fun state h name _ => hshuffle state name h

theorem nodup_instantiate (ds : Draws) : (s.instantiate raw ds).1.names.Nodup :=
  instantiate_preserves (P := fun record => (Entries.names record).Nodup)
    (Entries.nodup_putAll nodup_filled) (fun _ name h => nodup_shuffleField h name) ds

end QuizService.Shape
