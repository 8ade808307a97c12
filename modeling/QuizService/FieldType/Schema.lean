import QuizService.FieldType.Basic

/-!
Lowering a type to a JSON Schema document. Optional types leave no trace in the document; names of
records and enumerations neither. Two defects have no document: an optional type directly inside
another, and a record that declares a field twice.
-/

namespace QuizService

inductive Defect where
  | nestedOptional
  | repeatedField
deriving DecidableEq, Repr

def Defect.reason : Defect → String
  | .nestedOptional => "optional wrapping another optional"
  | .repeatedField => "duplicate field name"

structure SchemaError where
  path : List String
  defect : Defect
deriving DecidableEq, Repr

def SchemaError.location (e : SchemaError) : String :=
  match e.path with
  | [] => "<root>"
  | segments => String.intercalate "." segments

namespace FieldType

def listMark : String := "[]"

def mapMark : String := "\x7b\x7d"

def document (kind : String) (more : List (String × Json)) : Json :=
  .object (("type", .string kind) :: more)

/-- A step of lowering, which ends at the first defect. All steps share one way: a segment is
pushed before a part is lowered and popped after it. -/
abbrev Lowering (α : Type) : Type := StateT (List String) (Except SchemaError) α

namespace Lowering

def push (segment : String) : Lowering Unit :=
  modify fun way => way ++ [segment]

def pop : Lowering Unit :=
  modify List.dropLast

def refuse {α : Type} (defect : Defect) : Lowering α := do
  throw ⟨← get, defect⟩

end Lowering

open Lowering (push pop refuse)

mutual

def lower : FieldType → Lowering Json
  | .scalar s => return document s.name []
  | .enumeration e =>
    return document e.kind.name [("enum", .array (e.members.map Literal.json))]
  | .optionalOf inner =>
    if inner.isOptional then refuse .nestedOptional else lower inner
  | .list item => do
    push listMark
    let items ← lower item
    pop
    return document "array" [("items", items)]
  | .map value => do
    push mapMark
    let values ← lower value
    pop
    return document "object" [("additionalProperties", values)]
  | .record _ fields => do
    let properties ← lowerFields [] fields
    return document "object" [("properties", .object properties)]

def lowerFields (seen : List String) :
    List (String × FieldType) → Lowering (List (String × Json))
  | [] => return []
  | (name, t) :: rest => do
    push name
    if name ∈ seen then refuse .repeatedField
    let d ← lower t
    pop
    let ds ← lowerFields (name :: seen) rest
    return (name, d) :: ds

end

def schema (t : FieldType) : Except SchemaError Json :=
  (lower t).run' []

end FieldType

def RecordType.schema (r : RecordType) : Except SchemaError Json :=
  (FieldType.lower r.type).run' [r.name]

end QuizService

namespace QuizService.FieldType

mutual

def defectsAt (path : List String) : FieldType → List SchemaError
  | .scalar _ => []
  | .enumeration _ => []
  | .optionalOf inner =>
    (if inner.isOptional then [⟨path, .nestedOptional⟩] else []) ++ defectsAt path inner
  | .list item => defectsAt (path ++ [listMark]) item
  | .map value => defectsAt (path ++ [mapMark]) value
  | .record _ fields => fieldDefectsAt path [] fields

def fieldDefectsAt (path seen : List String) : List (String × FieldType) → List SchemaError
  | [] => []
  | (name, t) :: rest =>
    (if name ∈ seen then [⟨path ++ [name], .repeatedField⟩] else []) ++
      (defectsAt (path ++ [name]) t ++ fieldDefectsAt path (seen ++ [name]) rest)

end

def defects (t : FieldType) : List SchemaError :=
  defectsAt [] t

end QuizService.FieldType

namespace QuizService

structure Partition where
  mandatory : List String
  optional : List String
deriving DecidableEq, Repr

namespace RecordType

def firstDeclarations (seen : List String) : List (String × FieldType) → List (String × FieldType)
  | [] => []
  | (name, t) :: rest =>
    if name ∈ seen then firstDeclarations seen rest
    else (name, t) :: firstDeclarations (name :: seen) rest

def partition (r : RecordType) : Partition :=
  let fields := firstDeclarations [] r.fields
  { mandatory := (fields.filter fun f => !f.2.isOptional).map Prod.fst
    optional := (fields.filter fun f => f.2.isOptional).map Prod.fst }

end RecordType

namespace Partition

def json (p : Partition) : Json :=
  .object [("mandatory", .strings p.mandatory), ("optional", .strings p.optional)]

def discovery (p : Partition) : Json :=
  .object
    [("allowed_methods", .strings ["GET", "POST"]),
      ("parameters", .object [("GET", p.json), ("POST", p.json)])]

end Partition

end QuizService
