import QuizService.FieldType.Schema
import QuizService.Json.Basic

/-!
What a schema document asks of a value. Each keyword is a constraint of its own: one about arrays
or objects asks nothing of other values, and an unknown one nothing at all.
-/

namespace QuizService.Schema

def HasKind (v : Json) (kind : String) : Prop :=
  match v with
  | .null => kind = "null"
  | .bool _ => kind = "boolean"
  | .number (.whole _) => kind = "integer" ∨ kind = "number"
  | .number _ => kind = "number"
  | .string _ => kind = "string"
  | .array _ => kind = "array"
  | .object _ => kind = "object"

def items : Json → List Json
  | .array vs => vs
  | _ => []

def members : Json → List (String × Json)
  | .object ms => ms
  | _ => []

mutual

def Allows : Json → Json → Prop
  | .object keywords, v => AllKeywords keywords v
  | _, _ => False

def AllKeywords : List (String × Json) → Json → Prop
  | [], _ => True
  | (keyword, argument) :: rest, v =>
    (keyword = "type" → ∃ kind, argument = .string kind ∧ HasKind v kind) ∧
    (keyword = "enum" → v ∈ items argument) ∧
    (keyword = "items" → ∀ x ∈ items v, Allows argument x) ∧
    (keyword = "additionalProperties" → ∀ m ∈ members v, Allows argument m.2) ∧
    (keyword = "properties" → Properties argument v) ∧
    AllKeywords rest v

def Properties : Json → Json → Prop
  | .object declared, v => NamedMembers declared v
  | _, _ => False

def NamedMembers : List (String × Json) → Json → Prop
  | [], _ => True
  | (name, document) :: rest, v =>
    (∀ m ∈ members v, m.1 = name → Allows document m.2) ∧ NamedMembers rest v

end

open FieldType (document)

inductive Emitted : Json → Prop where
  | scalar (s : Scalar) : Emitted (document s.name [])
  | texts (first : String) (others : List String) :
    Emitted (document "string" [("enum", .strings (first :: others))])
  | wholes (first : Int64) (others : List Int64) :
    Emitted (document "integer" [("enum", .array ((first :: others).map .int64))])
  | list (items : Json) : Emitted items → Emitted (document "array" [("items", items)])
  | map (values : Json) :
    Emitted values → Emitted (document "object" [("additionalProperties", values)])
  | record (properties : List (String × Json)) :
    (properties.map Prod.fst).Nodup → (∀ p ∈ properties, Emitted p.2) →
      Emitted (document "object" [("properties", .object properties)])

end QuizService.Schema
