import QuizService.Question.Input
import QuizService.Question.Instance

/-!
From a bag to a question: check the input, lower the shape of its question type to a schema, and
ask the model; without a model a built-in question is served.
-/

namespace QuizService.Builtin

def content : QuestionType → List (String × Json)
  | .mcq =>
    [("statement", .string "Which planet is known as the Red Planet?"),
      ("solution", .strings ["Mars"]),
      ("choices", .strings ["Mars", "Venus", "Jupiter", "Mercury"])]
  | .multiSelect =>
    [("statement", .string "Which of these are primary colours of light?"),
      ("solution", .strings ["Red", "Green", "Blue"]),
      ("choices", .strings ["Red", "Green", "Blue", "Yellow", "Purple"]),
      ("num_selectable", .int64 3)]
  | .fill =>
    [("statement", .string "Water boils at ___ degrees Celsius at sea level."),
      ("solution", .string "100")]

def fields (i : Input) : Entries Json :=
  content i.category ++
    [("difficulty", .string i.difficulty.tag), ("topic", .string i.topic)]

end QuizService.Builtin

namespace QuizService

structure QuestionRequest where
  schema : Json
  input : Input

structure ModelCall where
  schema : Json
  context : PromptContext

abbrev Model := ModelCall → Except RequestError Json

inductive Origin where
  | model
  | seed
deriving DecidableEq, Repr

structure Generated where
  outcome : Except QuizError (Json × Origin)
  asked : List ModelCall

/-- A computation that keeps a list of the calls it makes, also where it fails. -/
abbrev Asking (α : Type) : Type := ExceptT QuizError (StateM (List ModelCall)) α

def Asking.call (ask : Model) (c : ModelCall) : Asking Json := do
  modify fun asked => asked ++ [c]
  (ask c).mapError QuizError.request

namespace QuestionRequest

def call (r : QuestionRequest) : ModelCall :=
  ⟨r.schema, .ofInput r.input⟩

def build (tag : String) (raw : Entries Json) : Except QuizError QuestionRequest := do
  let input ← (Input.check tag raw).mapError fun fs => .invalidInput (fs.map InputField.name)
  let shape ← Catalogue.resolve input.category.tag
  let schema ← shape.schema.mapError QuizError.ofSchema
  .ok ⟨schema, input⟩

end QuestionRequest

namespace Generated

def tagOf (raw : Entries Json) : String :=
  match raw.get? "category" with
  | some (.string s) => s
  | _ => ""

def fallback (i : Input) (ds : Draws) : Except QuizError Json := do
  let shape ← Catalogue.resolve i.category.tag
  .ok (.object [("question", .object (shape.instantiate (Builtin.fields i) ds).1)])

def question (model : Option Model) (ds : Draws) (r : QuestionRequest) :
    Asking (Json × Origin) := do
  match model with
  | some ask =>
    let v ← Asking.call ask r.call
    return (v, .model)
  | none =>
    let v ← fallback r.input ds
    return (v, .seed)

def ofAsking (x : Asking (Json × Origin)) : Generated :=
  let (outcome, asked) := x.run.run []
  ⟨outcome, asked⟩

def answer (model : Option Model) (ds : Draws) (r : QuestionRequest) : Generated :=
  ofAsking (question model ds r)

/-- The question for a bag. The random words are those of the built-in question. -/
def ofBag (model : Option Model) (ds : Draws) (raw : Entries Json) : Generated :=
  ofAsking do
    let r ← QuestionRequest.build (tagOf raw) raw
    question model ds r

end Generated

end QuizService
