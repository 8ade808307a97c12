import QuizService.Decimal.Binary
import QuizService.Entries

namespace QuizService

structure Whole where
  val : Int
  least : -9223372036854775808 ≤ val
  greatest : val ≤ 18446744073709551615
deriving DecidableEq

namespace Whole

def ofInt? (n : Int) : Option Whole :=
  if h : -9223372036854775808 ≤ n ∧ n ≤ 18446744073709551615 then some ⟨n, h.1, h.2⟩ else none

def ofInt64 (n : Int64) : Whole :=
  ⟨n.toInt, Int64.le_toInt n, by have := Int64.toInt_lt n; omega⟩

def ofUInt32 (n : UInt32) : Whole :=
  ⟨(n.toNat : Int), by omega, by have := UInt32.toNat_lt n; omega⟩

def toInt64? (n : Whole) : Option Int64 :=
  if n.val ≤ 9223372036854775807 then some (Int64.ofInt n.val) else none

def toUInt32? (n : Whole) : Option UInt32 :=
  if 0 ≤ n.val ∧ n.val ≤ 4294967295 then some (UInt32.ofNat n.val.toNat) else none

end Whole

/-- A JSON number: an integer of 64 bits, or a finite floating-point number. Reading gives 64-bit
ones only; a 32-bit one is written with its own digits. -/
inductive Number where
  | whole (n : Whole)
  | double (x : Decimal.Binary Decimal.double)
  | single (x : Decimal.Binary Decimal.single)
deriving DecidableEq

inductive Json where
  | null
  | bool (b : Bool)
  | number (n : Number)
  | string (s : String)
  | array (items : List Json)
  | object (members : List (String × Json))

namespace Json

instance : Inhabited Json := ⟨.null⟩

def int64 (n : Int64) : Json :=
  .number (.whole (.ofInt64 n))

def uint32 (n : UInt32) : Json :=
  .number (.whole (.ofUInt32 n))

def strings (xs : List String) : Json :=
  .array (xs.map .string)

def asString? : Json → Option String
  | .string s => some s
  | _ => none

def ofMembers (members : List (String × Json)) : Json :=
  .object (Entries.putAll [] members)

inductive Distinct : Json → Prop where
  | null : Distinct .null
  | bool (b : Bool) : Distinct (.bool b)
  | number (n : Number) : Distinct (.number n)
  | string (s : String) : Distinct (.string s)
  | array (items : List Json) : (∀ x ∈ items, Distinct x) → Distinct (.array items)
  | object (members : List (String × Json)) : (Entries.names members).Nodup →
    (∀ m ∈ members, Distinct m.2) → Distinct (.object members)

attribute [simp] Distinct.null Distinct.bool Distinct.number Distinct.string

@[simp]
theorem distinct_array_iff {items : List Json} :
    (array items).Distinct ↔ ∀ x ∈ items, x.Distinct :=
  ⟨fun h => by cases h; assumption, .array items⟩

@[simp]
theorem distinct_object_iff {members : List (String × Json)} :
    (object members).Distinct ↔
      (Entries.names members).Nodup ∧ ∀ m ∈ members, m.2.Distinct :=
  ⟨fun h => by cases h; exact ⟨‹_›, ‹_›⟩, fun h => .object members h.1 h.2⟩

theorem distinct_ofMembers {members : List (String × Json)} (h : ∀ m ∈ members, m.2.Distinct) :
    (ofMembers members).Distinct := by
  refine .object _ (Entries.nodup_putAll List.nodup_nil) fun m hm => h m ?_
  exact (Entries.mem_putAll hm).resolve_left List.not_mem_nil

structure Plain where
  value : Json
  distinct : value.Distinct

namespace Plain

def int64 (n : Int64) : Plain :=
  ⟨.int64 n, .number _⟩

def string (s : String) : Plain :=
  ⟨.string s, .string s⟩

def strings (xs : List String) : Plain where
  value := .strings xs
  distinct := by simp [Json.strings]

@[simp]
theorem value_int64 (n : Int64) : (int64 n).value = .int64 n :=
  rfl

@[simp]
theorem value_string (s : String) : (string s).value = .string s :=
  rfl

@[simp]
theorem value_strings (xs : List String) : (strings xs).value = .strings xs :=
  rfl

end Plain

end Json

structure Bag where
  members : Entries Json
  distinct : (Json.object members).Distinct

namespace Bag

instance : Coe Bag (Entries Json) := ⟨members⟩

def ofTexts (pairs : List (String × String)) : Bag where
  members := Entries.putAll [] (pairs.map fun p => (p.1, .string p.2))
  distinct := Json.distinct_ofMembers fun m hm => by
    obtain ⟨p, -, rfl⟩ := List.mem_map.mp hm
    exact .string p.2

theorem names_nodup (bag : Bag) : bag.members.names.Nodup :=
  (Json.distinct_object_iff.mp bag.distinct).1

theorem nodup_of_get? (bag : Bag) {name : String} {inner : Entries Json}
    (h : bag.members.get? name = some (.object inner)) : inner.names.Nodup :=
  (Json.distinct_object_iff.mp
    ((Json.distinct_object_iff.mp bag.distinct).2 _ (Entries.mem_of_get? h))).1

end Bag

end QuizService
