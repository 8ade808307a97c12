import QuizService.Json.Decode
import QuizService.Json.Reader
import QuizService.Question.Error
import QuizService.Text.Excerpt

/-!
Replies of the chat model. A reply with a success status has to be a completion, every choice and
call of it included; the arguments of the first call of its first choice are the answer. Any other
reply is an error with the endpoint's own message, or with the start of its body.
-/

namespace QuizService

open Json (Tree)

structure ToolCall where
  arguments : String
deriving DecidableEq, Repr

structure Choice where
  calls : List ToolCall
deriving DecidableEq, Repr

structure Usage where
  promptTokens : Option UInt32
  completionTokens : Option UInt32
  totalTokens : Option UInt32
deriving DecidableEq

structure Completion where
  choices : List Choice
  usage : Option Usage

namespace ToolCall

def ofFunction? (t : Tree) : Option ToolCall := do
  match ← t.fields? ["arguments"] with
  | [a] => some ⟨← Tree.required? Tree.string? a⟩
  | _ => none

def ofTree? (t : Tree) : Option ToolCall := do
  match ← t.fields? ["function"] with
  | [f] => Tree.required? ofFunction? f
  | _ => none

end ToolCall

namespace Choice

/-- A message may have no calls, but not null for them. -/
def ofMessage? (t : Tree) : Option Choice := do
  match ← t.fields? ["tool_calls"] with
  | [c] => some ⟨← Tree.orDefault? [] (Tree.list? ToolCall.ofTree?) c⟩
  | _ => none

def ofTree? (t : Tree) : Option Choice := do
  match ← t.fields? ["message"] with
  | [m] => Tree.required? ofMessage? m
  | _ => none

end Choice

def Usage.ofTree? (t : Tree) : Option Usage := do
  match ← t.fields? ["prompt_tokens", "completion_tokens", "total_tokens"] with
  | [a, b, c] =>
    let count := Tree.orDefault? none (Tree.nullable? Tree.uint32?)
    some ⟨← count a, ← count b, ← count c⟩
  | _ => none

namespace Completion

def ofTree? (t : Tree) : Option Completion := do
  match ← t.fields? ["choices", "usage"] with
  | [c, u] =>
    some
      { choices := ← Tree.required? (Tree.list? Choice.ofTree?) c
        usage := ← Tree.orDefault? none (Tree.nullable? Usage.ofTree?) u }
  | _ => none

def ofText? (body : String) : Option Completion := do
  ofTree? (← Tree.ofText? body)

def firstCall? (c : Completion) : Option ToolCall :=
  c.choices.head?.bind fun choice => choice.calls.head?

def answer (c : Completion) : Except RequestError Json :=
  match c.firstCall? with
  | none => .error .missingToolCall
  | some call =>
    match Json.ofText? call.arguments with
    | none => .error .undecodable
    | some v => .ok v

end Completion

namespace Reply

def errorMessage? (body : String) : Option String := do
  match ← (← Tree.ofText? body).fields? ["error"] with
  | [some e] =>
    match ← e.fields? ["message"] with
    | [m] => Tree.required? Tree.string? m
    | _ => none
  | _ => none

def shownBytes : Nat := 200

def outcome (status : Nat) (body : String) : Except RequestError Json :=
  if 200 ≤ status ∧ status < 300 then
    match Completion.ofText? body with
    | none => .error .transport
    | some c => c.answer
  else .error (.status status ((errorMessage? body).getD (Excerpt.excerpt shownBytes body)))

end Reply

end QuizService
