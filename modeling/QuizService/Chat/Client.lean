import QuizService.Chat.Completion
import QuizService.Chat.Prompt
import QuizService.Http.Delivery
import QuizService.Question.Generate
import QuizService.Text.Basic

namespace QuizService

structure ChatClient where
  apiKey : String
  baseUrl : String
  model : String
  prompts : Prompts
  sampling : Sampling

structure ChatRequest where
  address : Url
  authorization : String
  userAgent : String
  contentType : String
  body : String
deriving DecidableEq, Repr

structure ChatReply where
  status : Nat
  body : String

namespace ChatReply

def octets (r : ChatReply) : List Char :=
  let body := Http.Delivery.octets r.body
  "HTTP/1.1 ".toList ++ Decimal.digits r.status ++
    " \r\ncontent-type: application/json\r\ncontent-length: ".toList ++
    Decimal.digits body.length ++ "\r\n\r\n".toList ++ body

/-- Only a reply that is delivered, and does not send on to another place, counts; a body that
broke off is empty in an error and no completion. -/
def outcome (r : ChatReply) (address : Url) : Except RequestError Json :=
  match Http.Delivery.ofOctets? r.octets with
  | none => .error .transport
  | some d =>
    let status := d.head.status
    if (d.movedTo? address).isSome then .error .transport
    else if 200 ≤ status ∧ status < 300 then
      match d.document? with
      | some body => Reply.outcome status body
      | none => .error .transport
    else Reply.outcome status d.text

end ChatReply

namespace ChatClient

def isHeaderText (s : String) : Bool :=
  s.toList.all Http.isFieldText

def headerValue (s : String) : String :=
  String.ofList (Blank.trim s.toList)

def describe (c : ChatClient) : String :=
  "openai:" ++ c.model

def requestText (c : ChatClient) (call : ModelCall) (nonce : Nat) : String :=
  (c.prompts.body c.sampling c.model call.schema call.context nonce).text

/-- Hosts are reached by their numbers; the only name that is known is the local one. -/
def isReachable : Host → Bool
  | .named name => name = "localhost".toList
  | .ipv4 _ => true
  | .ipv6 _ => true

def endpoint? (c : ChatClient) : Option Url := do
  let address ← Url.ofText? none (c.baseUrl ++ "/chat/completions").toList
  if address.scheme ∈ ["http", "https"] ∧ address.host.any isReachable then some address else none

def authorization (c : ChatClient) (address : Url) : String :=
  match address.credentials? with
  | some (user, password) =>
    let bytes := Utf8.encode (user ++ ":" ++ password.getD "")
    "Basic " ++ String.ofList (Base64.encode bytes)
  | none => headerValue ("Bearer " ++ c.apiKey)

def request? (c : ChatClient) (call : ModelCall) (nonce : Nat) : Option ChatRequest := do
  let endpoint ← c.endpoint?
  let address :=
    if endpoint.credentials?.isSome then endpoint.withoutCredentials else endpoint
  if isHeaderText c.apiKey ∧ Http.Target.isAddress address.text then
    some
      { address := address
        authorization := c.authorization endpoint
        userAgent := "quizmaster-backend/0.1"
        contentType := "application/json"
        body := c.requestText call nonce }
  else none

def outcome (c : ChatClient) (reply : Option ChatReply) (call : ModelCall) (nonce : Nat) :
    Except RequestError Json :=
  match c.request? call nonce, reply with
  | some request, some r => r.outcome request.address
  | _, _ => .error .transport

end ChatClient

end QuizService
