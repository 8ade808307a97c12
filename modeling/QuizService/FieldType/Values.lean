import QuizService.FieldType.Basic

/-!
Which JSON values belong to a type. A record asks nothing of the names that it does not declare,
and a declared name may be missing.
-/

namespace QuizService

def Scalar.IsValue : Scalar → Json → Prop
  | .string, .string _ => True
  | .integer, .number (.whole _) => True
  | .number, .number _ => True
  | .boolean, .bool _ => True
  | _, _ => False

namespace FieldType

mutual

def Admits : FieldType → Json → Prop
  | .scalar s, v => s.IsValue v
  | .enumeration e, v => ∃ m ∈ e.members, v = m.json
  | .optionalOf inner, v => Admits inner v
  | .list item, v => ∃ vs, v = .array vs ∧ ∀ x ∈ vs, Admits item x
  | .map value, v => ∃ ms, v = .object ms ∧ ∀ m ∈ ms, Admits value m.2
  | .record _ fields, v => ∃ ms, v = .object ms ∧ FieldsAdmit fields ms

def FieldsAdmit : List (String × FieldType) → List (String × Json) → Prop
  | [], _ => True
  | (name, t) :: rest, ms =>
    (∀ m ∈ ms, m.1 = name → Admits t m.2) ∧ FieldsAdmit rest ms

end

end FieldType

def Enumeration.unnamed (e : Enumeration) : Enumeration :=
  { e with name := "" }

namespace FieldType

mutual

def erased : FieldType → FieldType
  | .scalar s => .scalar s
  | .enumeration e => .enumeration e.unnamed
  | .optionalOf inner => erased inner
  | .list item => .list (erased item)
  | .map value => .map (erased value)
  | .record _ fields => .record "" (erasedFields fields)

def erasedFields : List (String × FieldType) → List (String × FieldType)
  | [] => []
  | (name, t) :: rest => (name, erased t) :: erasedFields rest

end

mutual

def IsMandatory : FieldType → Prop
  | .scalar _ => True
  | .enumeration _ => True
  | .optionalOf _ => False
  | .list item => IsMandatory item
  | .map value => IsMandatory value
  | .record _ fields => AreMandatory fields

def AreMandatory : List (String × FieldType) → Prop
  | [] => True
  | (_, t) :: rest => IsMandatory t ∧ AreMandatory rest

end

end FieldType

end QuizService
