import QuizService.Http.Layer
import QuizService.Http.MediaType
import QuizService.Http.Message
import QuizService.Json.Printer
import QuizService.Json.Reader

/-!
The HTTP service. Two paths are known: the question, asked for by query or by JSON body and
described to a plain OPTIONS request, and the health check. Every response but that to a plain
OPTIONS request carries the headers that let any origin read it; a preflight request is answered
before it reaches a handler.
-/

namespace QuizService.Http

namespace Response

def json (status : Nat) (body : Json) : Response :=
  ⟨status, [("content-type", "application/json")], body.text⟩

def plain (status : Nat) (body : String) : Response :=
  ⟨status, [("content-type", "text/plain; charset=utf-8")], body⟩

/-- The caller learns which of the fields are wrong, and nothing of any other failure. -/
def ofError : QuizError → Response
  | .invalidInput fields =>
    json 400
      (.object
        [("error", .string ("invalid fields: " ++ String.intercalate ", " fields)),
          ("fields", .strings fields)])
  | _ => json 500 (.object [("error", .string "internal error")])

def malformedBody : Response :=
  plain 400 "Failed to parse the request body as JSON"

def notAnObject : Response :=
  plain 422 "Failed to deserialize the JSON body into the target type"

def wrongContentType : Response :=
  plain 415 "Expected request with `Content-Type: application/json`"

def bodyTooLong : Response :=
  plain 413 "Failed to buffer the request body: length limit exceeded"

def notFound : Response :=
  ⟨404, [], ""⟩

def notAllowed : Response :=
  ⟨405, [], ""⟩

end Response

def Served.ofGenerated (g : Generated) : Served :=
  match g.outcome with
  | .ok (v, _) => ⟨.json 200 v, g.asked⟩
  | .error e => ⟨.ofError e, g.asked⟩

def bodyLimit : Nat := 2097152

structure Service where
  model : Option Model
  draws : Draws

namespace Service

def byQuery (s : Service) (r : Request) : Served :=
  .ofGenerated (.ofBag s.model s.draws (Form.bag r.query))

/-- The content type is looked at before the length, and a body that is too long is not read. -/
def byBody (s : Service) (r : Request) : Served :=
  if ((r.header? "content-type").bind fun t => MediaType.ofText? t.toList).any
      MediaType.isJson then
    if r.body.length ≤ bodyLimit then
      match Json.Leading.read (Utf8.validPart r.body) with
      | .object bag => .ofGenerated (.ofBag s.model s.draws bag)
      | .otherValue => .fixed .notAnObject
      | .malformed => .fixed .malformedBody
    else .fixed .bodyTooLong
  else .fixed .wrongContentType

def discovery : Served :=
  .fixed (.json 200 Input.recordType.partition.discovery)

def health : Served :=
  .fixed (.json 200 (.object [("ok", .bool true)]))

def questionEndpoint (s : Service) : Endpoint where
  handlers := [("GET", s.byQuery), ("POST", s.byBody), ("OPTIONS", fun _ => discovery)]
  other := fun _ => .fixed .notAllowed

def healthEndpoint : Endpoint where
  handlers := [("GET", fun _ => health)]
  other := fun _ => .fixed .notAllowed

def api (s : Service) : Router where
  endpoints := [("/get_question", s.questionEndpoint), ("/api/v1/health", healthEndpoint)]
  other := fun _ => .fixed .notFound

def serve (s : Service) (r : Request) : Served :=
  s.api.serve r

end Service

end QuizService.Http
