import QuizService.Json.Numeral
import QuizService.Json.Tree
import QuizService.Text.Basic

namespace QuizService.Json

inductive Piece where
  | char (c : Char)
  | half (n : Nat)

namespace Piece

def join? : List Piece → Option (List Char)
  | [] => some []
  | .char c :: rest => (join? rest).map (c :: ·)
  | .half hi :: .half lo :: rest =>
    if hi < 0xDC00 ∧ 0xDC00 ≤ lo then
      (join? rest).map (Char.ofNat (0x10000 + (hi - 0xD800) * 0x400 + (lo - 0xDC00)) :: ·)
    else none
  | .half _ :: _ => none

def ofCode (n : Nat) : Piece :=
  if 0xD800 ≤ n ∧ n < 0xE000 then .half n else .char (Char.ofNat n)

end Piece

def hexCode? (a b c d : Char) : Option Nat :=
  Radix.value? 16 [a, b, c, d]

def unescape? : Char → Option Char
  | '"' => some '"'
  | '\\' => some '\\'
  | '/' => some '/'
  | 'b' => some '\x08'
  | 'f' => some '\x0c'
  | 'n' => some '\n'
  | 'r' => some '\r'
  | 't' => some '\t'
  | _ => none

def readPieces? : List Char → Option (List Piece × List Char)
  | [] => none
  | '"' :: rest => some ([], rest)
  | '\\' :: 'u' :: a :: b :: c :: d :: rest => do
    let n ← hexCode? a b c d
    let (ps, after) ← readPieces? rest
    some (.ofCode n :: ps, after)
  | '\\' :: e :: rest => do
    let c ← unescape? e
    let (ps, after) ← readPieces? rest
    some (.char c :: ps, after)
  | c :: rest =>
    if c.toNat < 32 ∨ c = '\\' then none
    else do
      let (ps, after) ← readPieces? rest
      some (.char c :: ps, after)

def readString? (cs : List Char) : Option (Option String × List Char) := do
  let (ps, after) ← readPieces? cs
  some ((Piece.join? ps).map String.ofList, after)

def isBlank (c : Char) : Bool :=
  c = ' ' || c = '\n' || c = '\t' || c = '\r'

def skipBlanks (cs : List Char) : List Char :=
  cs.dropWhile isBlank

def readColon? (cs : List Char) : Option (List Char) :=
  match skipBlanks cs with
  | ':' :: rest => some rest
  | _ => none

namespace Tree

mutual

/-- Reads a value and gives what follows it. The fuel bounds the calls; twice the text's length
is enough. -/
def read? : Nat → List Char → Option (Tree × List Char)
  | 0, _ => none
  | fuel + 1, cs =>
    match skipBlanks cs with
    | 'n' :: 'u' :: 'l' :: 'l' :: rest => some (.null, rest)
    | 't' :: 'r' :: 'u' :: 'e' :: rest => some (.bool true, rest)
    | 'f' :: 'a' :: 'l' :: 's' :: 'e' :: rest => some (.bool false, rest)
    | '"' :: rest => do
      let (s, after) ← readString? rest
      some (.string s, after)
    | '[' :: rest =>
      match skipBlanks rest with
      | ']' :: after => some (.array [], after)
      | _ => do
        let (items, after) ← readItems? fuel rest
        some (.array items, after)
    | '{' :: rest =>
      match skipBlanks rest with
      | '}' :: after => some (.object [], after)
      | _ => do
        let (members, after) ← readMembers? fuel rest
        some (.object members, after)
    | cs' => do
      let (n, after) ← Numeral.read? cs'
      some (.number n.value?, after)

def readItems? : Nat → List Char → Option (List Tree × List Char)
  | 0, _ => none
  | fuel + 1, cs => do
    let (item, rest) ← read? fuel cs
    match skipBlanks rest with
    | ']' :: after => some ([item], after)
    | ',' :: more => do
      let (items, after) ← readItems? fuel more
      some (item :: items, after)
    | _ => none

def readMembers? : Nat → List Char → Option (List (Option String × Tree) × List Char)
  | 0, _ => none
  | fuel + 1, cs =>
    match skipBlanks cs with
    | '"' :: rest => do
      let (name, rest) ← readString? rest
      let rest ← readColon? rest
      let (v, rest) ← read? fuel rest
      match skipBlanks rest with
      | '}' :: after => some ([(name, v)], after)
      | ',' :: more => do
        let (members, after) ← readMembers? fuel more
        some ((name, v) :: members, after)
      | _ => none
    | _ => none

end

def ofStart? (cs : List Char) : Option (Tree × List Char) :=
  read? (2 * cs.length + 2) cs

def ofText? (s : String) : Option Tree := do
  let (t, rest) ← ofStart? s.toList
  if (skipBlanks rest).isEmpty then some t else none

end Tree

def ofText? (s : String) : Option Json := do
  (← Tree.ofText? s).value? depthLimit

inductive Leading where
  | object (bag : Bag)
  | otherValue
  | malformed

/-- An opening bracket alone shows that the value is no object. -/
def Leading.read (cs : List Char) : Leading :=
  match skipBlanks cs with
  | '{' :: _ =>
    match (Tree.ofStart? cs).bind fun p => p.1.plain? depthLimit with
    | some ⟨.object members, h⟩ => .object ⟨members, h⟩
    | _ => .malformed
  | '[' :: _ => .otherValue
  | _ =>
    match Tree.ofStart? cs with
    | some (.number none, _) => .malformed
    | some (.string none, _) => .malformed
    | some _ => .otherValue
    | none => .malformed

end QuizService.Json
