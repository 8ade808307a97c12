import QuizService.Http.Head
import QuizService.Text.Basic

namespace QuizService.Http

inductive Framing where
  | sized (length : Nat)
  | chunked
  | untilEnd
deriving DecidableEq, Repr

namespace Framing

def parts (value : List Char) : List (List Char) :=
  (Split.pieces (· = ',') value).map trimField

def number? (cs : List Char) : Option Nat :=
  if !cs.isEmpty && cs.all Char.isDigit then some (Decimal.value cs) else none

def lengthLimit : Nat := 18446744073709551613

def ofLengths? (values : List (List Char)) : Option Framing :=
  match values with
  | [] => some .untilEnd
  | _ =>
    match (values.flatMap parts).map number? with
    | some n :: others =>
      if others.all (fun m => m = some n) ∧ n ≤ lengthLimit then some (.sized n) else none
    | _ => none

def isChunked (value : List Char) : Bool :=
  value.all (fun c => c.toNat < 128) &&
    MediaType.lowered ((parts value).getLast?.getD []) = "chunked"

def ofHead? (h : ReplyHead) : Option Framing :=
  match (h.values "transfer-encoding").getLast? with
  | some value =>
    if h.isFirstVersion then none
    else if isChunked value then some .chunked
    else some .untilEnd
  | none => ofLengths? (h.values "content-length")

def afterSize? (cs : List Char) : Option (List Char) :=
  let rest :=
    match cs.dropWhile isFieldBlank with
    | ';' :: extension => extension.dropWhile fun c => c ≠ '\r' ∧ c ≠ '\n'
    | other => other
  match rest with
  | '\r' :: '\n' :: after => some after
  | _ => none

def endsTrailer (atLineStart : Bool) : List Char → Bool
  | [] => false
  | '\r' :: '\n' :: rest => if atLineStart then true else endsTrailer true rest
  | c :: rest => if c = '\r' then false else endsTrailer false rest

def sizeLimit : Nat := 18446744073709551616

def joinChunks? : Nat → List Char → Option (List Char)
  | 0, _ => none
  | fuel + 1, cs => do
    let ds := cs.takeWhile (Radix.isDigit 16)
    let size := Radix.value 16 ds
    let rest ← afterSize? (cs.dropWhile (Radix.isDigit 16))
    if ds.isEmpty ∨ sizeLimit ≤ size then none
    else if size = 0 then if endsTrailer true rest then some [] else none
    else
      match rest.drop size with
      | '\r' :: '\n' :: more => (joinChunks? fuel more).map (rest.take size ++ ·)
      | _ => none

def body? (cs : List Char) : Framing → Option (List Char)
  | .sized n => if n ≤ cs.length then some (cs.take n) else none
  | .chunked => joinChunks? (cs.length + 1) cs
  | .untilEnd => some cs

end Framing

end QuizService.Http
