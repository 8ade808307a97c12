import QuizService.Text.Basic
import QuizService.Text.Utf8
import QuizService.Url.Host

namespace QuizService.Url

def lowered (cs : List Char) : String :=
  String.ofList (cs.map Char.toLower)

def isDot (segment : List Char) : Bool :=
  lowered segment ∈ [".", "%2e"]

def isDoubleDot (segment : List Char) : Bool :=
  lowered segment ∈ ["..", ".%2e", "%2e.", "%2e%2e"]

def isDrive : List Char → Bool
  | [c, mark] => c.isAlpha && (mark = ':' || mark = '|')
  | _ => false

def holdsDrive : List Char → Bool
  | c :: mark :: '\\' :: _ => isDrive [c, mark]
  | segment => isDrive segment

def parent : List (List Char) → List (List Char)
  | [] => []
  | segment :: others => if holdsDrive segment then segment :: others else others

def resolve (kept : List (List Char)) : List (List Char) → List (List Char)
  | [] => kept.reverse
  | s :: rest =>
    -- A dot segment at the end leaves an empty one.
    if isDoubleDot s then resolve (if rest.isEmpty then [] :: parent kept else parent kept) rest
    else if isDot s then resolve (if rest.isEmpty then [] :: kept else kept) rest
    else resolve (s :: kept) rest

def isListedInPath (c : Char) : Bool :=
  c.toNat ≤ 32 || 127 ≤ c.toNat || c ∈ ['"', '#', '<', '>', '?', '`', '{', '}']

def segmentsText (segments : List (List Char)) : List Char :=
  segments.flatMap fun s => '/' :: Percent.encodeText isListedInPath s

end QuizService.Url

namespace QuizService

inductive UrlPath where
  | segments (ss : List (List Char))
  | plain (text : List Char)
deriving DecidableEq, Repr

structure Url where
  scheme : String
  user : List Char
  password : List Char
  host : Option Host
  channel : Option Nat
  path : UrlPath
  query : Option (List Char)
  fragment : Option (List Char)
deriving DecidableEq, Repr

namespace Url

def impliedChannel? (scheme : String) : Option Nat :=
  match scheme with
  | "http" => some 80
  | "ws" => some 80
  | "https" => some 443
  | "wss" => some 443
  | "ftp" => some 21
  | _ => none

def isWebScheme (scheme : String) : Bool :=
  (impliedChannel? scheme).isSome

def isListedInFragment (c : Char) : Bool :=
  c.toNat ≤ 32 || 127 ≤ c.toNat || c ∈ ['"', '<', '>', '`']

def isListedInQuery (scheme : String) (c : Char) : Bool :=
  c.toNat ≤ 32 || 127 ≤ c.toNat || c ∈ ['"', '#', '<', '>'] ||
    ((isWebScheme scheme || scheme = "file") && c = '\'')

def isListedInUser (c : Char) : Bool :=
  isListedInPath c || c ∈ ['/', ':', ';', '=', '@', '[', '\\', ']', '^', '|']

def userText (u : Url) : List Char :=
  let password :=
    if u.password.isEmpty then [] else ':' :: Percent.encodeText isListedInUser u.password
  if u.user.isEmpty && u.password.isEmpty then []
  else Percent.encodeText isListedInUser u.user ++ password ++ ['@']

def authorityText (u : Url) : List Char :=
  match u.host with
  | none => []
  | some host =>
    '/' :: '/' :: u.userText ++ host.text ++
      match u.channel with
      | some n => ':' :: Decimal.digits n
      | none => []

/-- Without a host, an empty first segment must not look like the start of one. -/
def pathText (u : Url) : List Char :=
  match u.path with
  | .plain text => Percent.encodeText Host.isControl text
  | .segments ss =>
    let text := segmentsText ss
    match u.host, text with
    | none, '/' :: '/' :: _ => '/' :: '.' :: text
    | _, _ => text

def queryText (u : Url) : List Char :=
  match u.query with
  | none => []
  | some q => '?' :: Percent.encodeText (isListedInQuery u.scheme) q

def fragmentText (u : Url) : List Char :=
  match u.fragment with
  | none => []
  | some f => '#' :: Percent.encodeText isListedInFragment f

def text (u : Url) : List Char :=
  u.scheme.toList ++ ':' :: u.authorityText ++ u.pathText ++ u.queryText ++ u.fragmentText

def target (u : Url) : String :=
  String.ofList (u.pathText ++ u.queryText)

def credentials? (u : Url) : Option (String × Option String) := do
  let user ← Utf8.decode? (Percent.decode u.user)
  let password := if u.password.isEmpty then none else Utf8.decode? (Percent.decode u.password)
  if user.isEmpty ∧ password.isNone then none
  else some (String.ofList user, password.map String.ofList)

def withoutCredentials (u : Url) : Url :=
  { u with user := [], password := [] }

end Url

end QuizService
