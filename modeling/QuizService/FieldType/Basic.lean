import QuizService.Entries
import QuizService.Json.Basic

/-!
The types of record fields. An enumeration has at least one member and all of one kind; the
builder `FieldType.optional` never wraps an optional type again, while the constructor can.
-/

namespace QuizService

inductive Scalar where
  | string
  | integer
  | number
  | boolean
deriving DecidableEq, Repr

def Scalar.name : Scalar → String
  | .string => "string"
  | .integer => "integer"
  | .number => "number"
  | .boolean => "boolean"

inductive Literal where
  | text (s : String)
  | whole (n : Int64)
deriving DecidableEq

namespace Literal

def kind : Literal → Scalar
  | .text _ => .string
  | .whole _ => .integer

def json : Literal → Json
  | .text s => .string s
  | .whole n => .int64 n

end Literal

inductive EnumerationError where
  | empty (name : String)
  | mixed (name : String)
deriving DecidableEq, Repr

structure Enumeration where
  name : String
  kind : Scalar
  members : List Literal
  nonempty : members ≠ []
  uniform : ∀ m ∈ members, m.kind = kind
deriving DecidableEq

namespace Enumeration

def ofMembers (name : String) : List Literal → Except EnumerationError Enumeration
  | [] => .error (.empty name)
  | m :: ms =>
    if h : ∀ x ∈ m :: ms, x.kind = m.kind then .ok ⟨name, m.kind, m :: ms, by simp, h⟩
    else .error (.mixed name)

def ofTexts (name first : String) (others : List String) : Enumeration where
  name := name
  kind := .string
  members := (first :: others).map .text
  nonempty := by simp
  uniform := by simp [Literal.kind]

def hasText (e : Enumeration) (s : String) : Bool :=
  e.members.contains (.text s)

end Enumeration

inductive FieldType where
  | scalar (s : Scalar)
  | enumeration (e : Enumeration)
  | optionalOf (inner : FieldType)
  | list (item : FieldType)
  | map (value : FieldType)
  | record (name : String) (fields : List (String × FieldType))

namespace FieldType

def string : FieldType := .scalar .string

def integer : FieldType := .scalar .integer

def boolean : FieldType := .scalar .boolean

def isOptional : FieldType → Bool
  | .optionalOf _ => true
  | _ => false

def optional (t : FieldType) : FieldType :=
  if t.isOptional then t else .optionalOf t

mutual

def same : FieldType → FieldType → Bool
  | .scalar a, .scalar b => decide (a = b)
  | .enumeration a, .enumeration b => decide (a = b)
  | .optionalOf a, .optionalOf b => same a b
  | .list a, .list b => same a b
  | .map a, .map b => same a b
  | .record n fs, .record m gs => decide (n = m) && sameFields fs gs
  | _, _ => false

def sameFields : List (String × FieldType) → List (String × FieldType) → Bool
  | [], [] => true
  | (n, a) :: fs, (m, b) :: gs => decide (n = m) && same a b && sameFields fs gs
  | _, _ => false

end

end FieldType

structure RecordType where
  name : String
  fields : List (String × FieldType)

def RecordType.type (r : RecordType) : FieldType :=
  .record r.name r.fields

end QuizService

namespace QuizService.FieldType

inductive Built : FieldType → Prop where
  | scalar (s : Scalar) : Built (.scalar s)
  | enumeration (e : Enumeration) : Built (.enumeration e)
  | optional (t : FieldType) : Built t → Built (.optional t)
  | list (item : FieldType) : Built item → Built (.list item)
  | map (value : FieldType) : Built value → Built (.map value)
  | record (name : String) (fields : List (String × FieldType)) :
    (∀ f ∈ fields, Built f.2) → Built (.record name fields)

end QuizService.FieldType
