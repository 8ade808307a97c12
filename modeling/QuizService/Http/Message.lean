import QuizService.Json.Basic
import QuizService.Text.Basic
import QuizService.Text.Utf8

namespace QuizService.Http

structure Request where
  method : String
  uri : String
  headers : List (String × String)
  body : List UInt8

structure Response where
  status : Nat
  headers : List (String × String)
  body : String
deriving DecidableEq, Repr

namespace Request

def header? (r : Request) (name : String) : Option String :=
  (r.headers.find? fun h => h.1.map Char.toLower = name).map Prod.snd

def origin (r : Request) : List Char :=
  let cs := r.uri.toList.takeWhile fun c => c ≠ '#'
  match cs with
  | '/' :: _ => cs
  | _ =>
    match cs.dropWhile fun c => c ≠ ':' with
    | ':' :: '/' :: '/' :: rest =>
      match rest.dropWhile fun c => c ≠ '/' ∧ c ≠ '?' with
      | '/' :: path => '/' :: path
      | other => '/' :: other
    | _ => cs

def path (r : Request) : String :=
  String.ofList (r.origin.takeWhile fun c => c ≠ '?')

def query (r : Request) : List Char :=
  (r.origin.dropWhile fun c => c ≠ '?').drop 1

end Request

namespace Response

def addHeaders (r : Response) (headers : List (String × String)) : Response :=
  { r with headers := r.headers ++ headers }

def withoutBody (r : Response) : Response :=
  { r with body := "" }

end Response

end QuizService.Http

namespace QuizService.Http.Form

def bytes : List Char → List UInt8
  | '%' :: a :: b :: rest =>
    match Radix.digit? a, Radix.digit? b with
    | some x, some y => UInt8.ofNat (x * 16 + y) :: bytes rest
    | _, _ => 37 :: bytes (a :: b :: rest)
  | '+' :: rest => 32 :: bytes rest
  | c :: rest => Utf8.encode (String.singleton c) ++ bytes rest
  | [] => []

def decode (cs : List Char) : String :=
  String.ofList (Utf8.lossy (bytes cs))

def pair (piece : List Char) : String × String :=
  (decode (piece.takeWhile fun c => c ≠ '='), decode ((piece.dropWhile fun c => c ≠ '=').drop 1))

def pairs (query : List Char) : List (String × String) :=
  ((Split.pieces (· = '&') query).filter fun piece => !piece.isEmpty).map pair

def bag (query : List Char) : Bag :=
  .ofTexts (pairs query)

def isBare (b : UInt8) : Bool :=
  (Char.ofNat b.toNat).isAlphanum || b.toNat ∈ [42, 45, 46, 95]

def writeByte (b : UInt8) : List Char :=
  if isBare b then [Char.ofNat b.toNat] else if b.toNat = 32 then ['+'] else Percent.encode b

def encode (s : String) : List Char :=
  (Utf8.encode s).flatMap writeByte

def query : List (String × String) → List Char
  | [] => []
  | [p] => encode p.1 ++ '=' :: encode p.2
  | p :: rest => encode p.1 ++ '=' :: encode p.2 ++ '&' :: query rest

end QuizService.Http.Form
