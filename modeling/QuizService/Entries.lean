/-!
Ordered name–value lists. A name that is put again keeps its place and takes the new value, so a
list built by `put` alone names each entry once, in the order of first mention.
-/

namespace QuizService

abbrev Entries (α : Type) := List (String × α)

namespace Entries

variable {α : Type}

def get? : Entries α → String → Option α
  | [], _ => none
  | (k, v) :: rest, name => if k = name then some v else get? rest name

def put : Entries α → String → α → Entries α
  | [], name, value => [(name, value)]
  | (k, v) :: rest, name, value =>
    if k = name then (k, value) :: rest else (k, v) :: put rest name value

def putAll (base more : Entries α) : Entries α :=
  more.foldl (fun acc e => put acc e.1 e.2) base

def erase (xs : Entries α) (name : String) : Entries α :=
  xs.filter fun e => e.1 ≠ name

def names (xs : Entries α) : List String :=
  xs.map Prod.fst

def has (xs : Entries α) (name : String) : Bool :=
  xs.any fun e => e.1 = name

theorem get?_put_self (xs : Entries α) (name : String) (value : α) :
    get? (put xs name value) name = some value := by
  induction xs with
  | nil => simp [put, get?]
  | cons e rest ih =>
    obtain ⟨k, v⟩ := e
    by_cases h : k = name <;> simp [put, get?, h, ih]

theorem get?_put_of_ne (xs : Entries α) {name other : String} (value : α) (h : name ≠ other) :
    get? (put xs name value) other = get? xs other := by
  induction xs with
  | nil => simp [put, get?, h]
  | cons e rest ih =>
    obtain ⟨k, v⟩ := e
    by_cases hk : k = name
    · simp [put, get?, hk, h]
    · by_cases ho : k = other
      · subst ho
        simp [put, get?, hk]
      · simp [put, get?, hk, ho, ih]

theorem mem_of_get? {xs : Entries α} {name : String} {value : α}
    (h : xs.get? name = some value) : (name, value) ∈ xs := by
  induction xs with
  | nil => simp [get?] at h
  | cons e rest ih =>
    obtain ⟨k, v⟩ := e
    rw [get?] at h
    split at h
    · rename_i hk
      rw [hk, Option.some.inj h]
      exact List.mem_cons_self
    · exact List.mem_cons_of_mem _ (ih h)

theorem names_put (xs : Entries α) (name : String) (value : α) :
    names (put xs name value) = if name ∈ names xs then names xs else names xs ++ [name] := by
  induction xs with
  | nil => simp [put, names]
  | cons e rest ih =>
    obtain ⟨k, v⟩ := e
    by_cases hk : k = name
    · simp [put, names, hk]
    · have hk' : name ≠ k := fun h => hk h.symm
      simp only [put, hk, if_false, names, List.map_cons, List.mem_cons, hk', false_or] at ih ⊢
      rw [ih]
      by_cases hm : name ∈ List.map Prod.fst rest <;> simp [hm]

theorem nodup_put {xs : Entries α} {name : String} {value : α} (h : xs.names.Nodup) :
    (xs.put name value).names.Nodup := by
  rw [names_put]
  split
  · exact h
  · rename_i hnew
    refine List.nodup_append.mpr ⟨h, by simp, ?_⟩
    rintro a ha b hb rfl
    exact hnew (List.mem_singleton.mp hb ▸ ha)

theorem nodup_putAll {base more : Entries α} (h : base.names.Nodup) :
    (base.putAll more).names.Nodup := by
  induction more generalizing base with
  | nil => exact h
  | cons e rest ih => exact ih (nodup_put h)

theorem mem_put {xs : Entries α} {name : String} {value : α} {e : String × α}
    (h : e ∈ xs.put name value) : e = (name, value) ∨ e ∈ xs := by
  induction xs with
  | nil => exact .inl (List.mem_singleton.mp h)
  | cons x rest ih =>
    obtain ⟨k, v⟩ := x
    by_cases hk : k = name
    · rw [put, if_pos hk, hk] at h
      exact (List.mem_cons.mp h).imp_right (List.mem_cons_of_mem _)
    · rw [put, if_neg hk] at h
      rcases List.mem_cons.mp h with rfl | h
      · exact .inr List.mem_cons_self
      · exact (ih h).imp_right (List.mem_cons_of_mem _)

theorem mem_putAll {base more : Entries α} {e : String × α} (h : e ∈ base.putAll more) :
    e ∈ base ∨ e ∈ more := by
  induction more generalizing base with
  | nil => exact .inl h
  | cons x rest ih =>
    rcases ih h with h | h
    · rcases mem_put h with rfl | h
      · exact .inr List.mem_cons_self
      · exact .inl h
    · exact .inr (List.mem_cons_of_mem _ h)

end Entries

end QuizService
