import QuizService.FieldType.Schema
import QuizService.Question.Catalogue

/-!
What a caller asks for. The input is checked field by field, and all failures are reported
together in the order of the fields; names that are no fields are passed over.
-/

namespace QuizService

inductive InputField where
  | category
  | difficulty
  | topic
  | instructions
deriving DecidableEq, Repr

def InputField.name : InputField → String
  | .category => "category"
  | .difficulty => "difficulty"
  | .topic => "topic"
  | .instructions => "instructions"

structure Input where
  category : QuestionType
  difficulty : Difficulty
  topic : String
  instructions : String
deriving DecidableEq, Repr

namespace Input

def recordType : RecordType where
  name := "UserInput"
  fields :=
    [("category", .enumeration QuestionType.enumeration),
      ("difficulty", .enumeration Difficulty.enumeration),
      ("topic", .string),
      ("instructions", .optional .string)]

def category? (tag : String) : Option QuestionType :=
  match Catalogue.resolve tag with
  | .ok s => if QuestionType.enumeration.hasText tag then some s.tag else none
  | .error _ => none

def difficulty? (raw : Entries Json) : Option Difficulty := do
  let s ← (← raw.get? "difficulty").asString?
  if Difficulty.enumeration.hasText s then Difficulty.ofTag? s else none

def topic? (raw : Entries Json) : Option String := do
  let s ← (← raw.get? "topic").asString?
  if s.isEmpty then none else some s

/-- Instructions may be missing or null, which leaves them empty. -/
def instructions? (raw : Entries Json) : Option String :=
  match raw.get? "instructions" with
  | none => some ""
  | some .null => some ""
  | some (.string s) => some s
  | some _ => none

def failures (tag : String) (raw : Entries Json) : List InputField :=
  (if (category? tag).isNone then [.category] else []) ++
  (if (difficulty? raw).isNone then [.difficulty] else []) ++
  (if (topic? raw).isNone then [.topic] else []) ++
  (if (instructions? raw).isNone then [.instructions] else [])

def check (tag : String) (raw : Entries Json) : Except (List InputField) Input :=
  match category? tag, difficulty? raw, topic? raw, instructions? raw with
  | some c, some d, some t, some i => .ok ⟨c, d, t, i⟩
  | _, _, _, _ => .error (failures tag raw)

def json (i : Input) : Json :=
  .object
    ([("category", .string i.category.encoded), ("difficulty", .string i.difficulty.encoded),
      ("topic", .string i.topic)] ++
      if i.instructions.isEmpty then [] else [("instructions", .string i.instructions)])

end Input

structure PromptContext where
  category : String
  difficulty : String
  topic : String
  instructions : String
deriving DecidableEq, Repr

namespace PromptContext

def ofInput (i : Input) : PromptContext :=
  ⟨i.category.tag, i.difficulty.tag, i.topic, i.instructions⟩

def json (c : PromptContext) : Json :=
  .object
    [("category", .string c.category), ("difficulty", .string c.difficulty),
      ("topic", .string c.topic)]

end PromptContext

end QuizService
