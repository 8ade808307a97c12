import QuizService.Entries
import QuizService.Http.Message
import QuizService.Question.Generate

/-!
Handlers by path and method, and the layers around them. The outer layer hands a plain OPTIONS
request to the handlers as they are; every other request goes through the layer that answers
preflight requests and lets any origin read the responses.
-/

namespace QuizService.Http

structure Served where
  response : Response
  asked : List ModelCall

namespace Served

def fixed (r : Response) : Served :=
  ⟨r, []⟩

def forMethod (s : Served) (method : String) : Served :=
  if method = "HEAD" then { s with response := s.response.withoutBody } else s

def addHeaders (s : Served) (headers : List (String × String)) : Served :=
  { s with response := s.response.addHeaders headers }

end Served

abbrev Handler := Request → Served

structure Endpoint where
  handlers : Entries Handler
  other : Handler

namespace Endpoint

def handledAs (method : String) : String :=
  if method = "HEAD" then "GET" else method

def methods (e : Endpoint) : List String :=
  e.handlers.names.flatMap fun m => if m = "GET" then ["GET", "HEAD"] else [m]

def allow (e : Endpoint) : String × String :=
  ("allow", String.intercalate "," e.methods)

def handle (e : Endpoint) (r : Request) : Served :=
  match e.handlers.get? (handledAs r.method) with
  | some h => (h r).forMethod r.method
  | none => (e.other r).addHeaders [e.allow]

def layer (f : Handler → Handler) (e : Endpoint) : Endpoint where
  handlers := e.handlers.map fun h => (h.1, f h.2)
  other := f e.other

end Endpoint

def originHeaders : List (String × String) :=
  [("access-control-allow-origin", "*"),
    ("vary", "origin, access-control-request-method, access-control-request-headers")]

def preflightHeaders : List (String × String) :=
  [("access-control-allow-methods", "*"), ("access-control-allow-headers", "*")]

def crossOrigin (inner : Handler) : Handler := fun r =>
  if r.method = "OPTIONS" then .fixed ⟨200, originHeaders ++ preflightHeaders, ""⟩
  else (inner r).addHeaders originHeaders

def isPlainOptions (r : Request) : Bool :=
  r.method = "OPTIONS" && (r.header? "access-control-request-method").isNone

def bypass (plain next : Handler) : Handler := fun r =>
  if isPlainOptions r then plain r else next r

structure Router where
  endpoints : Entries Endpoint
  other : Handler

namespace Router

def handle (t : Router) (r : Request) : Served :=
  match t.endpoints.get? r.path with
  | some e => e.handle r
  | none => t.other r

def layer (f : Handler → Handler) (t : Router) : Router where
  endpoints := t.endpoints.map fun e => (e.1, e.2.layer f)
  other := f t.other

/-- The router stands twice: as it is for plain OPTIONS requests, and under its layer. -/
def serve (t : Router) : Handler :=
  bypass t.handle (t.layer crossOrigin).handle

end Router

end QuizService.Http
