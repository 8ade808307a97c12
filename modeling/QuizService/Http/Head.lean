import QuizService.Decimal.Digits
import QuizService.Http.MediaType
import QuizService.Text.Basic

namespace QuizService.Http

def isFieldText (c : Char) : Bool :=
  c = '\t' || (32 ≤ c.toNat && c.toNat != 127)

def isFieldBlank (c : Char) : Bool :=
  c = ' ' || c = '\t'

def trimField (cs : List Char) : List Char :=
  ((cs.dropWhile isFieldBlank).reverse.dropWhile isFieldBlank).reverse

structure ReplyHead where
  isFirstVersion : Bool
  status : Nat
  fields : List (String × List Char)

namespace ReplyHead

def skipEmptyLines : List Char → List Char
  | '\n' :: rest => skipEmptyLines rest
  | '\r' :: '\n' :: rest => skipEmptyLines rest
  | cs => cs

def version? : List Char → Option (Bool × List Char)
  | 'H' :: 'T' :: 'T' :: 'P' :: '/' :: '1' :: '.' :: '0' :: ' ' :: rest => some (true, rest)
  | 'H' :: 'T' :: 'T' :: 'P' :: '/' :: '1' :: '.' :: '1' :: ' ' :: rest => some (false, rest)
  | _ => none

def status? : List Char → Option (Nat × List Char)
  | a :: b :: c :: rest =>
    let n := Decimal.value [a, b, c]
    if [a, b, c].all Char.isDigit ∧ 100 ≤ n then some (n, rest) else none
  | _ => none

def afterReason? : List Char → Option (List Char)
  | ' ' :: rest => Line.ending? (rest.dropWhile isFieldText)
  | rest => Line.ending? rest

def fieldLimit : Nat := 100

def fields? : Nat → List Char → Option (List (String × List Char) × List Char)
  | 0, _ => none
  | room + 1, cs =>
    match Line.ending? cs with
    | some rest => some ([], rest)
    | none =>
      let name := cs.takeWhile MediaType.isTokenChar
      match cs.dropWhile MediaType.isTokenChar with
      | ':' :: rest =>
        if name.isEmpty then none
        else do
          let value := trimField (rest.takeWhile isFieldText)
          let (later, after) ← fields? room (← Line.ending? (rest.dropWhile isFieldText))
          some ((MediaType.lowered name, value) :: later, after)
      | _ => none

def read? (cs : List Char) : Option (ReplyHead × List Char) := do
  let (isFirstVersion, rest) ← version? (skipEmptyLines cs)
  let (status, rest) ← status? rest
  let (fields, rest) ← fields? (fieldLimit + 1) (← afterReason? rest)
  some (⟨isFirstVersion, status, fields⟩, rest)

def values (h : ReplyHead) (name : String) : List (List Char) :=
  h.fields.filterMap fun f => if f.1 = name then some f.2 else none

end ReplyHead

end QuizService.Http
