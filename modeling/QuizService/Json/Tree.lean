import QuizService.Json.Basic

/-!
The tree of a JSON text. A number too large for a double and a string with half a surrogate pair
are in the grammar but have no value: their leaves hold none, and only a reader that wants the
value fails on them. A value exists where every leaf has one and the nesting is not too deep.
-/

namespace QuizService.Json

inductive Tree where
  | null
  | bool (b : Bool)
  | number (n : Option Number)
  | string (s : Option String)
  | array (items : List Tree)
  | object (members : List (Option String × Tree))

def depthLimit : Nat := 127

namespace Tree

mutual

def value? : Nat → Tree → Option Json
  | _, .null => some .null
  | _, .bool b => some (.bool b)
  | _, .number n => n.map .number
  | _, .string s => s.map .string
  | 0, .array _ => none
  | room + 1, .array items => (values? room items).map .array
  | 0, .object _ => none
  | room + 1, .object members => (membersOf? room members).map .ofMembers

def values? : Nat → List Tree → Option (List Json)
  | _, [] => some []
  | room, t :: ts => do
    let v ← value? room t
    let vs ← values? room ts
    some (v :: vs)

def membersOf? : Nat → List (Option String × Tree) → Option (List (String × Json))
  | _, [] => some []
  | room, (k, t) :: ts => do
    let name ← k
    let v ← value? room t
    let vs ← membersOf? room ts
    some ((name, v) :: vs)

end

mutual

theorem distinct_of_value? {room : Nat} {v : Json} :
    ∀ {t : Tree}, value? room t = some v → v.Distinct
  | .null, h => by
    rw [value?] at h
    exact Option.some.inj h ▸ .null
  | .bool b, h => by
    rw [value?] at h
    exact Option.some.inj h ▸ .bool b
  | .number n, h => by
    rw [value?] at h
    obtain ⟨m, -, rfl⟩ := Option.map_eq_some_iff.mp h
    exact .number m
  | .string s, h => by
    rw [value?] at h
    obtain ⟨s, -, rfl⟩ := Option.map_eq_some_iff.mp h
    exact .string s
  | .array items, h => by
    cases room with
    | zero => simp [value?] at h
    | succ room =>
      rw [value?] at h
      obtain ⟨vs, hvs, rfl⟩ := Option.map_eq_some_iff.mp h
      exact .array vs (distinct_of_values? hvs)
  | .object members, h => by
    cases room with
    | zero => simp [value?] at h
    | succ room =>
      rw [value?] at h
      obtain ⟨vs, hvs, rfl⟩ := Option.map_eq_some_iff.mp h
      exact distinct_ofMembers (distinct_of_membersOf? hvs)

theorem distinct_of_values? {room : Nat} {vs : List Json} :
    ∀ {ts : List Tree}, values? room ts = some vs → ∀ v ∈ vs, v.Distinct
  | [], h => by
    rw [values?] at h
    simp [← Option.some.inj h]
  | t :: ts, h => by
    simp only [values?, Option.bind_eq_bind, Option.bind_eq_some_iff] at h
    obtain ⟨v, hv, rest, hrest, hvs⟩ := h
    rw [← Option.some.inj hvs]
    exact List.forall_mem_cons.mpr ⟨distinct_of_value? hv, distinct_of_values? hrest⟩

theorem distinct_of_membersOf? {room : Nat} {vs : List (String × Json)} :
    ∀ {ms : List (Option String × Tree)}, membersOf? room ms = some vs → ∀ m ∈ vs, m.2.Distinct
  | [], h => by
    rw [membersOf?] at h
    simp [← Option.some.inj h]
  | (k, t) :: ms, h => by
    simp only [membersOf?, Option.bind_eq_bind, Option.bind_eq_some_iff] at h
    obtain ⟨name, -, v, hv, rest, hrest, hvs⟩ := h
    rw [← Option.some.inj hvs]
    exact List.forall_mem_cons.mpr ⟨distinct_of_value? hv, distinct_of_membersOf? hrest⟩

end

def plain? (room : Nat) (t : Tree) : Option Plain :=
  (t.value? room).pmap Plain.mk fun _ => distinct_of_value?

theorem plain?_of_value? {room : Nat} {t : Tree} {v : Json} (h : t.value? room = some v) :
    t.plain? room = some ⟨v, distinct_of_value? h⟩ :=
  Option.pmap_eq_some_iff.mpr ⟨v, distinct_of_value? h, h, rfl⟩

end Tree

end QuizService.Json
