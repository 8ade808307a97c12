import QuizService.Decimal.Digits
import QuizService.Domain.Ascii
import QuizService.Text.Basic
import QuizService.Text.Utf8

namespace QuizService.Ipv4

def number? : List Char → Option Nat
  | [] => none
  | '0' :: 'x' :: ds => Radix.value? 16 ds
  | '0' :: 'X' :: ds => Radix.value? 16 ds
  | '0' :: d :: ds => Radix.value? 8 (d :: ds)
  | ds => Radix.value? 10 ds

def parts (host : List Char) : List (List Char) :=
  let ps := Split.pieces (· = '.') host
  if ps.getLast? = some [] then ps.dropLast else ps

def endsInNumber (host : List Char) : Bool :=
  match (parts host).getLast? with
  | some part => (!part.isEmpty && part.all Char.isDigit) || (number? part).isSome
  | none => false

def ofHost? (host : List Char) : Option Nat := do
  let numbers ← (parts host).mapM number?
  let last ← numbers.getLast?
  let before := numbers.dropLast
  let room := Nat.pow 256 (4 - before.length)
  if numbers.length ≤ 4 ∧ (∀ n ∈ before, n < 256) ∧ last < room then
    some (before.foldl (fun acc n => acc * 256 + n) 0 * room + last)
  else none

def text (n : Nat) : List Char :=
  Decimal.digits (n / 16777216) ++ '.' :: Decimal.digits (n / 65536 % 256) ++
    '.' :: Decimal.digits (n / 256 % 256) ++ '.' :: Decimal.digits (n % 256)

end QuizService.Ipv4

namespace QuizService.Ipv6

def atGap? : List Char → Option (List Char × List Char)
  | ':' :: ':' :: rest => some ([], rest)
  | c :: rest => (atGap? rest).map fun p => (c :: p.1, p.2)
  | [] => none

def piece? (cs : List Char) : Option Nat :=
  if 1 ≤ cs.length ∧ cs.length ≤ 4 then Radix.value? 16 cs else none

def octet? (cs : List Char) : Option Nat :=
  match cs with
  | [] => none
  | '0' :: _ :: _ => none
  | _ =>
    match Radix.value? 10 cs with
    | some n => if n < 256 then some n else none
    | none => none

def lastPieces? (cs : List Char) : Option (List Nat) :=
  match Split.pieces (· = '.') cs with
  | [_] => (piece? cs).map fun n => [n]
  | [a, b, c, d] => do
    some [(← octet? a) * 256 + (← octet? b), (← octet? c) * 256 + (← octet? d)]
  | _ => none

def joined? : List (List Char) → Option (List Nat)
  | [] => some []
  | [last] => lastPieces? last
  | cs :: rest => do some ((← piece? cs) :: (← joined? rest))

def pieces? (cs : List Char) : Option (List Nat) :=
  if cs.isEmpty then some [] else joined? (Split.pieces (· = ':') cs)

def ofText? (cs : List Char) : Option (List Nat) := do
  match atGap? cs with
  | some (before, after) =>
    let front ← if before.isEmpty then some [] else (Split.pieces (· = ':') before).mapM piece?
    let back ← pieces? after
    let given := front.length + back.length
    if given ≤ 7 then some (front ++ List.replicate (8 - given) 0 ++ back) else none
  | none =>
    let pieces ← pieces? cs
    if pieces.length = 8 then some pieces else none

def hexChars (n : Nat) : List Char :=
  Nat.toDigits 16 n

def joinText : List Nat → List Char
  | [] => []
  | [n] => hexChars n
  | n :: rest => hexChars n ++ ':' :: joinText rest

def longestRun (pieces : List Nat) : Nat × Nat :=
  (List.range pieces.length).foldl
    (fun best i =>
      let run := ((pieces.drop i).takeWhile (· = 0)).length
      if best.2 < run then (i, run) else best)
    (0, 0)

def text (pieces : List Nat) : List Char :=
  let (start, run) := longestRun pieces
  if run < 2 then joinText pieces
  else joinText (pieces.take start) ++ ':' :: ':' :: joinText (pieces.drop (start + run))

end QuizService.Ipv6

namespace QuizService

inductive Host where
  | named (name : List Char)
  | ipv4 (n : Nat)
  | ipv6 (pieces : List Nat)
deriving DecidableEq, Repr

namespace Host

def text : Host → List Char
  | .named name => name
  | .ipv4 n => Ipv4.text n
  | .ipv6 pieces => '[' :: Ipv6.text pieces ++ [']']

def bracketed? (cs : List Char) : Option Host :=
  if cs.getLast? = some ']' then (Ipv6.ofText? cs.dropLast).map .ipv6 else none

def ofDomain? : List Char → Option Host
  | '[' :: rest => bracketed? rest
  | cs => do
    let domain ← Domain.toAscii? (← Utf8.decode? (Percent.decode cs))
    if domain.isEmpty then none
    else if Ipv4.endsInNumber domain then (Ipv4.ofHost? domain).map .ipv4
    else some (.named domain)

def isForbidden (c : Char) : Bool :=
  c ∈ ['\x00', '\t', '\n', '\r', ' ', '#', '/', ':', '<', '>', '?', '@', '[', '\\', ']', '^', '|']

def isControl (c : Char) : Bool :=
  c.toNat < 32 || 127 ≤ c.toNat

def ofName? : List Char → Option Host
  | '[' :: rest => bracketed? rest
  | cs => if cs.any isForbidden then none else some (.named (Percent.encodeText isControl cs))

end Host

end QuizService
