import QuizService.FieldType.Schema
import QuizService.FieldType.Values
import QuizService.Json.Basic
import QuizService.Question.Error
import QuizService.Question.Kind

/-!
The shape of a question type, put together from reusable fragments and from pins. A fragment that
declares a field again replaces its type and drops its default; the defaults of a fragment are set
after all its fields. A pin fixes a field to a value.
-/

namespace QuizService

inductive FragmentItem where
  | field (name : String) (type : FieldType) (default : Option Json.Plain)
  | shuffled (name : String)

abbrev Fragment := List FragmentItem

namespace Fragment

def fields (f : Fragment) : List (String × FieldType) :=
  f.filterMap fun
    | .field name type _ => some (name, type)
    | .shuffled _ => none

def defaults (f : Fragment) : List (String × Json) :=
  f.filterMap fun
    | .field name _ (some default) => some (name, default.value)
    | _ => none

theorem distinct_of_mem_defaults {f : Fragment} {d : String × Json} (h : d ∈ f.defaults) :
    d.2.Distinct := by
  obtain ⟨item, -, hd⟩ := List.mem_filterMap.mp h
  split at hd
  · rename_i name type default
    obtain rfl := Option.some.inj hd
    exact default.distinct
  · contradiction

def marks (f : Fragment) : List String :=
  f.filterMap fun
    | .field _ _ _ => none
    | .shuffled name => some name

end Fragment

structure Shape where
  tag : QuestionType
  fields : Entries FieldType
  defaults : Entries Json
  pins : Entries Json
  shuffled : List String

namespace Shape

def recordType (s : Shape) : RecordType :=
  ⟨s.tag.tag, s.fields⟩

def schema (s : Shape) : Except SchemaError Json :=
  s.recordType.schema

def declare (s : Shape) (field : String × FieldType) : Shape :=
  { s with
    fields := s.fields.put field.1 field.2
    defaults := if s.fields.has field.1 then s.defaults.erase field.1 else s.defaults }

def mark (s : Shape) (name : String) : Shape :=
  if name ∈ s.shuffled then s else { s with shuffled := s.shuffled ++ [name] }

def compose (s : Shape) (f : Fragment) : Shape :=
  let declared := f.fields.foldl declare s
  -- The defaults come after all fields, so a later field of this fragment does not drop one.
  let defaulted := { declared with defaults := declared.defaults.putAll f.defaults }
  f.marks.foldl mark defaulted

def pin? (s : Shape) (name : String) (value : Json) : Except QuizError Shape :=
  if s.fields.has name then
    .ok { s with defaults := s.defaults.put name value, pins := s.pins.put name value }
  else .error (.undeclaredPin s.tag.tag name)

def settle (s : Shape) : Shape :=
  { s with shuffled := s.shuffled.filter fun name => s.fields.has name }

def empty (tag : QuestionType) : Shape :=
  ⟨tag, [], [], [], []⟩

def pinAll? (s : Shape) : List (String × Json) → Except QuizError Shape
  | [] => .ok s
  | (name, value) :: rest =>
    match s.pin? name value with
    | .ok t => pinAll? t rest
    | .error e => .error e

def build (tag : QuestionType) (fragments : List Fragment) (pins : List (String × Json)) :
    Except QuizError Shape :=
  ((fragments.foldl compose (empty tag)).pinAll? pins).map settle

end Shape

namespace FragmentItem

def declaration? (name : String) : FragmentItem → Option (FieldType × Option Json)
  | .field n type default => if n = name then some (type, default.map Json.Plain.value) else none
  | .shuffled _ => none

def IsFitting : FragmentItem → Prop
  | .field _ type (some v) => type.Admits v.value
  | _ => True

end FragmentItem

namespace Fragment

def declaration? (f : Fragment) (name : String) : Option (FieldType × Option Json) :=
  f.reverse.findSome? fun item => item.declaration? name

def default? (f : Fragment) (name : String) : Option Json :=
  f.reverse.findSome? fun item => (item.declaration? name).bind Prod.snd

def last? (fragments : List Fragment) (name : String) : Option Fragment :=
  fragments.reverse.find? fun f => (f.declaration? name).isSome

/-- A default that the last fragment declaring a name gives to it, before it declares the name
again without one. -/
def IsStale (fragments : List Fragment) (name : String) (v : Json) : Prop :=
  ∃ f t, last? fragments name = some f ∧ f.declaration? name = some (t, none) ∧
    f.default? name = some v

end Fragment

end QuizService
