import QuizService.Chat.Client
import QuizService.Toml.Reader

namespace QuizService

inductive LogFormat where
  | pretty
  | json
deriving DecidableEq, Repr

def LogFormat.ofSetting : Option String → LogFormat
  | some s =>
    if (Blank.trim s.toList).map Char.toLower = ['j', 's', 'o', 'n'] then .json else .pretty
  | none => .pretty

structure AgentSettings where
  prompts : Prompts
  sampling : Sampling
deriving DecidableEq, Repr

def AgentSettings.default : AgentSettings :=
  ⟨.default, .default⟩

open Toml (Value)

/-- The values of a section in the order of its keys, none inside for a missing one. A date has no
key of any section. -/
def sectionValues? (keys : List String) : Value → Option (List (Option Value))
  | .table entries => some (keys.map fun k => Entries.get? entries k)
  | .datetime => some (keys.map fun _ => none)
  | .array items => some ((items.take keys.length).map some ++
      List.replicate (keys.length - items.length) none)
  | _ => none

def settingOr? {α : Type} (default : α) (decode : Value → Option α) : Option Value → Option α
  | none => some default
  | some v => decode v

def text? : Value → Option String
  | .string s => some s
  | _ => none

def single? : Value → Option (Option (Decimal.Binary Decimal.single))
  | .float x => some (x.bind Decimal.single.convert?)
  | .integer n =>
    some
      ((Decimal.single.nearest? ⟨n.toInt.natAbs, 1⟩).map fun m => ⟨decide (n.toInt < 0), m⟩)
  | _ => none

namespace AgentSettings

def prompts? (v : Value) : Option Prompts := do
  let d := Prompts.default
  match ← sectionValues? ["system", "user_template", "function_name", "function_description"] v with
  | [a, b, c, e] =>
    some
      { system := ← settingOr? d.system text? a
        userTemplate := ← settingOr? d.userTemplate text? b
        functionName := ← settingOr? d.functionName text? c
        functionDescription := ← settingOr? d.functionDescription text? e }
  | _ => none

def sampling? (v : Value) : Option Sampling := do
  let d := Sampling.default
  match ← sectionValues? ["temperature", "top_p", "presence_penalty"] v with
  | [a, b, c] =>
    some
      { temperature := ← settingOr? d.temperature single? a
        topP := ← settingOr? d.topP single? b
        presencePenalty := ← settingOr? d.presencePenalty single? c }
  | _ => none

def ofText? (s : String) : Option AgentSettings := do
  let entries ← Toml.ofText? s
  some
    { prompts := ← settingOr? Prompts.default prompts? (entries.get? "prompts")
      sampling := ← settingOr? Sampling.default sampling? (entries.get? "sampling") }

end AgentSettings

abbrev Environment := Entries String

abbrev FileReader := String → Option (List UInt8)

namespace Environment

def agentSettings? (env : Environment) (files : FileReader) : Option AgentSettings := do
  let cs ← Utf8.decode? (← files (← env.get? "AGENT_CONFIG_PATH"))
  AgentSettings.ofText? (String.ofList cs)

/-- The key of the model. A first variable that is set counts even where it is empty, and an empty
key is none. -/
def apiKey? (env : Environment) : Option String :=
  ((env.get? "OPENAI_API_KEY").or (env.get? "GPT_API_KEY")).filter fun k => !k.isEmpty

def chatClient? (env : Environment) (settings : AgentSettings) : Option ChatClient :=
  (apiKey? env).map fun key =>
    { apiKey := key
      baseUrl := (env.get? "OPENAI_BASE_URL").getD "https://api.openai.com/v1"
      model := ((env.get? "OPENAI_MODEL").or (env.get? "GPT_MODEL")).getD "gpt-3.5-turbo"
      prompts := settings.prompts
      sampling := settings.sampling }

def startingClient? (env : Environment) (files : FileReader) : Option ChatClient :=
  chatClient? env ((agentSettings? env files).getD .default)

end Environment

end QuizService
