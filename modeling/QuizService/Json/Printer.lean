import QuizService.Decimal.Shortest
import QuizService.Json.Basic

namespace QuizService.Json

def doubleLayout : Decimal.Layout := ⟨-5, 15⟩

def singleLayout : Decimal.Layout := ⟨-6, 12⟩

def numberChars : Number → List Char
  | .whole n => Decimal.signed n.val
  | .double x => doubleLayout.render x
  | .single x => singleLayout.render x

def hexDigit (n : Nat) : Char :=
  if n < 10 then Char.ofNat (48 + n) else Char.ofNat (87 + n)

def escape (c : Char) : List Char :=
  if c = '"' then ['\\', '"']
  else if c = '\\' then ['\\', '\\']
  else if 32 ≤ c.toNat then [c]
  else
    match c.toNat with
    | 8 => ['\\', 'b']
    | 9 => ['\\', 't']
    | 10 => ['\\', 'n']
    | 12 => ['\\', 'f']
    | 13 => ['\\', 'r']
    | n => ['\\', 'u', '0', '0', hexDigit (n / 16), hexDigit (n % 16)]

def stringChars (s : String) : List Char :=
  '"' :: s.toList.flatMap escape ++ ['"']

mutual

def chars : Json → List Char
  | .null => ['n', 'u', 'l', 'l']
  | .bool true => ['t', 'r', 'u', 'e']
  | .bool false => ['f', 'a', 'l', 's', 'e']
  | .number n => numberChars n
  | .string s => stringChars s
  | .array [] => ['[', ']']
  | .array (x :: xs) => '[' :: chars x ++ laterItems xs
  | .object [] => ['{', '}']
  | .object ((k, v) :: ms) => '{' :: stringChars k ++ ':' :: chars v ++ laterMembers ms

def laterItems : List Json → List Char
  | [] => [']']
  | x :: xs => ',' :: chars x ++ laterItems xs

def laterMembers : List (String × Json) → List Char
  | [] => ['}']
  | (k, v) :: ms => ',' :: stringChars k ++ ':' :: chars v ++ laterMembers ms

end

def text (j : Json) : String :=
  String.ofList j.chars

end QuizService.Json
