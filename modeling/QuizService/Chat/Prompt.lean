import QuizService.Json.Printer
import QuizService.Question.Input
import QuizService.Text.Template

namespace QuizService

structure Prompts where
  system : String
  userTemplate : String
  functionName : String
  functionDescription : String
deriving DecidableEq, Repr

def Prompts.default : Prompts where
  system :=
    "You are a quiz master capable of generating different kinds of questions. " ++
    "You just need to know the type of question, difficulty and topic you need to ask. " ++
    "You need to keep asking different questions even if the inputs are the same."
  userTemplate :=
    "Get me a question from the inputs provided:\n\x7binputs\x7d\n\x7binstructions\x7d\n" ++
    "Question Number: \x7bnonce\x7d"
  functionName := "get_random_question"
  functionDescription := "Get a random question from the given inputs."

structure Sampling where
  temperature : Option (Decimal.Binary Decimal.single)
  topP : Option (Decimal.Binary Decimal.single)
  presencePenalty : Option (Decimal.Binary Decimal.single)
deriving DecidableEq, Repr

namespace Sampling

def nearest (significand : Nat) (exponent : Int) : Option (Decimal.Binary Decimal.single) :=
  (Decimal.single.ofDecimal? significand exponent).map fun m => ⟨false, m⟩

def default : Sampling where
  temperature := nearest 19 (-1)
  topP := nearest 25 (-2)
  presencePenalty := nearest 19 (-1)

def json (x : Option (Decimal.Binary Decimal.single)) : Json :=
  match x with
  | some v => .number (.single v)
  | none => .null

end Sampling

namespace Prompts

def slots (context : PromptContext) (nonce : Nat) : List (String × String) :=
  [("inputs", context.json.text), ("instructions", context.instructions),
    ("nonce", String.ofList (Decimal.digits nonce))]

def userMessage (p : Prompts) (context : PromptContext) (nonce : Nat) : String :=
  Template.fill p.userTemplate (slots context nonce)

def message (role content : String) : Json :=
  .object [("role", .string role), ("content", .string content)]

def tool (p : Prompts) (schema : Json) : Json :=
  .object
    [("type", .string "function"),
      ("function", .object
        [("name", .string p.functionName), ("description", .string p.functionDescription),
          ("parameters", .object
            [("type", .string "object"), ("properties", .object [("question", schema)]),
              ("required", .strings ["question"])])])]

def toolChoice (p : Prompts) : Json :=
  .object
    [("type", .string "function"), ("function", .object [("name", .string p.functionName)])]

def body (p : Prompts) (s : Sampling) (model : String) (schema : Json) (context : PromptContext)
    (nonce : Nat) : Json :=
  .object
    [("model", .string model),
      ("messages", .array
        [message "system" p.system, message "user" (p.userMessage context nonce)]),
      ("tools", .array [p.tool schema]),
      ("tool_choice", p.toolChoice),
      ("temperature", Sampling.json s.temperature),
      ("top_p", Sampling.json s.topP),
      ("presence_penalty", Sampling.json s.presencePenalty)]

end Prompts

end QuizService
