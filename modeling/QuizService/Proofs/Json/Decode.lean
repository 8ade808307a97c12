import Mathlib.Data.List.Forall2
import QuizService.Json.Decode
import QuizService.Proofs.Entries
import QuizService.Proofs.Json.ReadBack

namespace QuizService

theorem Whole.toInt64?_eq_some_iff {n : Whole} {k : Int64} :
    n.toInt64? = some k ↔ n = .ofInt64 k := by
  obtain ⟨val, least, greatest⟩ := n
  simp only [toInt64?, ofInt64, Whole.mk.injEq]
  constructor
  · intro h
    split at h
    · have hval : (Int64.ofInt val).toInt = val :=
        Int64.toInt_ofInt_of_le (by omega) (by omega)
      rw [← Option.some.inj h, hval]
    · contradiction
  · rintro rfl
    have hk := k.toInt_lt
    rw [if_pos (by omega), Int64.ofInt_toInt]

theorem Whole.toUInt32?_eq_some_iff {n : Whole} {k : UInt32} :
    n.toUInt32? = some k ↔ n = .ofUInt32 k := by
  obtain ⟨val, least, greatest⟩ := n
  simp only [toUInt32?, ofUInt32, Whole.mk.injEq]
  constructor
  · intro h
    split at h
    · rename_i hval
      have hsize : val.toNat < UInt32.size := by
        rw [UInt32.size]
        omega
      rw [← Option.some.inj h, UInt32.toNat_ofNat_of_lt' hsize, Int.toNat_of_nonneg hval.1]
    · contradiction
  · rintro rfl
    have hk := k.toNat_lt
    rw [if_pos (by omega), Int.toNat_natCast, UInt32.ofNat_toNat]

namespace Json

def valuesOf (members : List (String × Json)) (name : String) : List Json :=
  members.filterMap fun m => if m.1 = name then some m.2 else none

theorem named?_memberTrees (members : List (String × Json)) :
    Tree.named? (memberTrees members) = some (members.map fun m => (m.1, m.2.tree)) := by
  induction members with
  | nil => rfl
  | cons m ms ih => simp [memberTrees, Tree.named?, ih]

theorem occurrences_trees (members : List (String × Json)) (name : String) :
    Tree.occurrences (members.map fun m => (m.1, m.2.tree)) name =
      (valuesOf members name).map tree := by
  induction members with
  | nil => rfl
  | cons m ms ih =>
    simp only [Tree.occurrences, valuesOf, List.map_cons, List.filterMap_cons] at ih ⊢
    by_cases h : m.1 = name <;> simp [h, ih]

theorem fields?_object (names : List String) (members : List (String × Json)) :
    (Json.object members).tree.fields? names =
      names.mapM fun name => Tree.single? ((valuesOf members name).map tree) := by
  rw [tree, Tree.fields?, named?_memberTrees]
  simp only [Option.bind_eq_bind, Option.bind_some, occurrences_trees]

theorem valuesOf_of_nodup {members : Entries Json} (h : members.names.Nodup) (name : String) :
    valuesOf members name = (members.get? name).toList := by
  induction members with
  | nil => rfl
  | cons m ms ih =>
    obtain ⟨hm, hms⟩ := List.nodup_cons.mp h
    rw [valuesOf, List.filterMap_cons, Entries.get?_cons]
    by_cases hname : m.1 = name
    · -- No later member has the name of this one.
      have hnone : valuesOf ms name = [] := by
        rw [ih hms, Entries.get?_eq_none_iff.mpr (hname ▸ hm)]
        rfl
      rw [if_pos hname, if_pos hname.symm]
      exact congrArg (m.2 :: ·) hnone
    · rw [if_neg hname, if_neg (Ne.symm hname)]
      exact ih hms

theorem fields?_object_of_nodup (names : List String) {members : Entries Json}
    (h : members.names.Nodup) :
    (Json.object members).tree.fields? names =
      some (names.map fun name => (members.get? name).map tree) := by
  rw [fields?_object]
  induction names with
  | nil => rfl
  | cons name names ih =>
    have hfirst : Tree.single? ((valuesOf members name).map tree) =
        some ((members.get? name).map tree) := by
      rw [valuesOf_of_nodup h]
      cases members.get? name <;> rfl
    rw [List.mapM_cons, hfirst, ih]
    rfl

theorem single?_once {vs : List Json} {v : Json} (h : vs = [v]) :
    Tree.single? (vs.map tree) = some (some v.tree) := by
  rw [h]
  rfl

theorem single?_missing {vs : List Json} (h : vs = []) :
    Tree.single? (vs.map tree) = some none := by
  rw [h]
  rfl

theorem string?_string (s : String) : (Json.string s).tree.string? = some s :=
  rfl

/-- The decoder takes the values that are written for the type, and no others. -/
def Decodes {α : Type} (decode : Tree → Option α) (write : α → Json) : Prop :=
  ∀ (v : Json) (x : α), decode v.tree = some x ↔ v = write x

theorem Decodes.orDefault? {α : Type} {decode : Tree → Option α} {write : α → Json}
    (h : Decodes decode write) (default : α) (v : Option Json) (x : α) :
    Tree.orDefault? default decode (v.map tree) = some x ↔ v.getD (write default) = write x := by
  cases v with
  | some v => exact h v x
  | none =>
    have hdefault : decode (write default).tree = some default := (h _ _).mpr rfl
    rw [Option.getD_none, ← h, hdefault]
    rfl

theorem decodes_bool : Decodes Tree.bool? .bool := by
  intro v x
  cases v <;> simp [tree, Tree.bool?]

theorem decodes_whole {α : Type} {decode : Tree → Option α} {read : Whole → Option α}
    {write : α → Whole} (hread : ∀ n x, read n = some x ↔ n = write x)
    (hdecode : ∀ t, decode t =
      match t with
      | .number (some (.whole n)) => read n
      | _ => none) :
    Decodes decode fun x => .number (.whole (write x)) := by
  intro v x
  rw [hdecode]
  cases v with
  | number n =>
    rw [tree]
    constructor
    · intro h
      split at h
      · rename_i w hw
        rw [reread?_eq_whole_iff.mp (Tree.number.inj hw), (hread w x).mp h]
      · contradiction
    · intro h
      obtain rfl := Json.number.inj h
      rw [reread?_whole]
      exact (hread _ x).mpr rfl
  | _ => simp [tree]

theorem decodes_int64 : Decodes Tree.int64? int64 :=
  decodes_whole (fun _ _ => Whole.toInt64?_eq_some_iff) fun _ => rfl

theorem decodes_uint32 : Decodes Tree.uint32? uint32 :=
  decodes_whole (fun _ _ => Whole.toUInt32?_eq_some_iff) fun _ => rfl

theorem uint32?_uint32 (n : UInt32) : (Json.uint32 n).tree.uint32? = some n :=
  (decodes_uint32 _ n).mpr rfl

theorem list?_array {α : Type} {document : α → Json → Prop} {decode : Tree → Option α}
    (hdecode : ∀ x d, document x d → decode d.tree = some x) {xs : List α} {items : List Json}
    (h : List.Forall₂ document xs items) : (Json.array items).tree.list? decode = some xs := by
  rw [tree, Tree.list?]
  induction h with
  | nil => rfl
  | cons hx _ ih => simp [trees, hdecode _ _ hx, ih]

inductive IsNullable {α : Type} (document : α → Json → Prop) : Option α → List Json → Prop where
  | missing : IsNullable document none []
  | null : IsNullable document none [.null]
  | given {x : α} {d : Json} (h : document x d) : IsNullable document (some x) [d]

theorem nullable?_of_some {α : Type} {decode : Tree → Option α} {t : Tree} {x : α}
    (h : decode t = some x) (hnull : decode .null = none) :
    Tree.nullable? decode t = some (some x) := by
  cases t with
  | null => simp [hnull] at h
  | _ => simp [Tree.nullable?, h]

theorem single?_nullable {α : Type} {document : α → Json → Prop} {decode : Tree → Option α}
    (hdecode : ∀ x d, document x d → decode d.tree = some x) (hnull : decode .null = none)
    {x : Option α} {vs : List Json} (h : IsNullable document x vs) :
    ∃ field, Tree.single? (vs.map tree) = some field ∧
      Tree.orDefault? none (Tree.nullable? decode) field = some x := by
  cases h with
  | missing => exact ⟨none, rfl, rfl⟩
  | null => exact ⟨some .null, rfl, rfl⟩
  | given h => exact ⟨_, rfl, nullable?_of_some (hdecode _ _ h) hnull⟩

namespace Tree

variable {α : Type} {decode : Tree → Option α}

theorem string?_eq_some_iff {t : Tree} {s : String} :
    t.string? = some s ↔ t = .string (some s) := by
  cases t <;> simp [string?]

theorem uint32?_eq_some_iff {t : Tree} {n : UInt32} :
    t.uint32? = some n ↔ t = .number (some (.whole (.ofUInt32 n))) := by
  unfold uint32?
  split
  · rename_i w
    simp [Whole.toUInt32?_eq_some_iff]
  · rename_i hother
    exact ⟨nofun, fun h => absurd h (hother _)⟩

theorem required?_eq_some_iff {field : Option Tree} {x : α} :
    required? decode field = some x ↔ ∃ t, field = some t ∧ decode t = some x := by
  cases field <;> simp [required?]

def IsOptional (p : Tree → Prop) (field : Option Tree) : Prop :=
  ∀ t, field = some t → t = .null ∨ p t

theorem exists_nullable?_iff {field : Option Tree} :
    (∃ x, orDefault? none (nullable? decode) field = some x) ↔
      IsOptional (fun t => ∃ x, decode t = some x) field := by
  cases field with
  | none => simp [IsOptional, orDefault?]
  | some t => cases t <;> simp [IsOptional, orDefault?, nullable?]

theorem mapM_eq_some_iff {items : List Tree} {xs : List α} :
    items.mapM decode = some xs ↔ List.Forall₂ (fun x item => decode item = some x) xs items := by
  induction items generalizing xs with
  | nil => simp [eq_comm]
  | cons item items ih =>
    rw [List.mapM_cons, List.forall₂_cons_right_iff]
    simp only [Option.bind_eq_bind, Option.bind_eq_some_iff, ih, Option.pure_def,
      Option.some.injEq]
    constructor
    · rintro ⟨x, hx, ys, hys, rfl⟩
      exact ⟨x, ys, hx, hys, rfl⟩
    · rintro ⟨x, ys, hx, hys, rfl⟩
      exact ⟨x, hx, ys, hys, rfl⟩

theorem exists_forall₂_iff {p : α → Tree → Prop} {items : List Tree} :
    (∃ xs, List.Forall₂ p xs items) ↔ ∀ item ∈ items, ∃ x, p x item := by
  induction items with
  | nil => simp
  | cons item items ih =>
    simp only [List.forall₂_cons_right_iff, List.forall_mem_cons, ← ih]
    constructor
    · rintro ⟨_, x, xs, hx, hxs, -⟩
      exact ⟨⟨x, hx⟩, xs, hxs⟩
    · rintro ⟨⟨x, hx⟩, xs, hxs⟩
      exact ⟨_, x, xs, hx, hxs, rfl⟩

theorem list?_eq_some_iff {t : Tree} {xs : List α} :
    list? decode t = some xs ↔
      ∃ items, t = .array items ∧ List.Forall₂ (fun x item => decode item = some x) xs items := by
  cases t <;> simp [list?, mapM_eq_some_iff]

end Tree

end Json

end QuizService
