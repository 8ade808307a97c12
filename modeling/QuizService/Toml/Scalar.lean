import QuizService.Decimal.Binary
import QuizService.Text.Basic
import QuizService.Toml.Document

namespace QuizService.Toml

def isDigit (c : Char) : Bool :=
  decide ('0' ≤ c ∧ c ≤ '9')

def isPlain (c : Char) : Bool :=
  c = '\t' || (32 ≤ c.toNat && c.toNat != 127)

def skipSpaces (cs : List Char) : List Char :=
  cs.dropWhile fun c => c = ' ' || c = '\t'

namespace Number

def moreDigits? (digit : Char → Bool) : List Char → Option (List Char × List Char)
  | [] => some ([], [])
  | '_' :: c :: rest =>
    if digit c then (moreDigits? digit rest).map fun p => (c :: p.1, p.2) else none
  | '_' :: [] => none
  | c :: rest =>
    if digit c then (moreDigits? digit rest).map fun p => (c :: p.1, p.2)
    else some ([], c :: rest)

def digits? (digit : Char → Bool) : List Char → Option (List Char × List Char)
  | [] => none
  | c :: rest =>
    if digit c then (moreDigits? digit rest).map fun p => (c :: p.1, p.2) else none

def wholeDigits? : List Char → Option (List Char × List Char)
  | '0' :: rest => some (['0'], rest)
  | cs => digits? isDigit cs

def sign (cs : List Char) : Bool × List Char :=
  match cs with
  | '-' :: rest => (true, rest)
  | '+' :: rest => (false, rest)
  | _ => (false, cs)

def exponent? : List Char → Option (Option Int × List Char)
  | 'e' :: rest | 'E' :: rest => do
    let (minus, rest) := sign rest
    let (ds, rest) ← digits? isDigit rest
    some (some (if minus then -(Decimal.value ds : Int) else (Decimal.value ds : Int)), rest)
  | rest => some (none, rest)

def fraction? : List Char → Option (Option (List Char) × List Char)
  | '.' :: rest => do
    let (ds, rest) ← digits? isDigit rest
    some (some ds, rest)
  | rest => some (none, rest)

def finish? (minus : Bool) (whole fraction : List Char) (e : Int) : Option Value :=
  match Decimal.double.ofDecimal? (Decimal.value (whole ++ fraction))
      (e - (fraction.length : Int)) with
  | some m => some (.float (some ⟨minus, m⟩))
  -- A number too large is refused, but one too small on the negative side is an infinity.
  | none => if minus then some (.float none) else none

def float? (cs : List Char) : Option (Value × List Char) := do
  let (minus, rest) := sign cs
  match rest with
  | 'i' :: 'n' :: 'f' :: after => some (.float none, after)
  | 'n' :: 'a' :: 'n' :: after => some (.float none, after)
  | _ =>
    let (whole, rest) ← wholeDigits? rest
    let (fraction, rest) ← fraction? rest
    let (e, rest) ← exponent? rest
    match fraction, e with
    | none, none => none
    | _, _ =>
      let v ← finish? minus whole (fraction.getD []) (e.getD 0)
      some (v, rest)

def int64? (n : Int) : Option Value :=
  if -9223372036854775808 ≤ n ∧ n ≤ 9223372036854775807 then some (.integer (Int64.ofInt n))
  else none

def baseInteger? (base : Nat) (digit : Char → Bool) (cs : List Char) :
    Option (Value × List Char) := do
  let (ds, rest) ← digits? digit cs
  some (← int64? (Radix.value base ds : Int), rest)

def integer? (cs : List Char) : Option (Value × List Char) :=
  match cs with
  | '0' :: 'x' :: rest => baseInteger? 16 (Radix.isDigit 16) rest
  | '0' :: 'o' :: rest => baseInteger? 8 (Radix.isDigit 8) rest
  | '0' :: 'b' :: rest => baseInteger? 2 (Radix.isDigit 2) rest
  | _ => do
    let (minus, rest) := sign cs
    let (ds, rest) ← wholeDigits? rest
    let n : Int := (Decimal.value ds : Int)
    some (← int64? (if minus then -n else n), rest)

end Number

namespace Time

def two? (least greatest : Nat) : List Char → Option (Nat × List Char)
  | a :: b :: rest =>
    let n := Decimal.value [a, b]
    if isDigit a ∧ isDigit b ∧ least ≤ n ∧ n ≤ greatest then some (n, rest) else none
  | _ => none

def char? (c : Char) : List Char → Option (List Char)
  | d :: rest => if c = d then some rest else none
  | [] => none

def lastDay (year month : Nat) : Nat :=
  if month = 2 then
    if year % 4 = 0 ∧ (year % 100 ≠ 0 ∨ year % 400 = 0) then 29 else 28
  else if month ∈ [4, 6, 9, 11] then 30
  else 31

def date? : List Char → Option (List Char)
  | a :: b :: rest => do
    let (century, _) ← two? 0 99 [a, b]
    let (later, rest) ← two? 0 99 rest
    let (month, rest) ← two? 1 12 (← char? '-' rest)
    let (day, rest) ← two? 1 31 (← char? '-' rest)
    if day ≤ lastDay (century * 100 + later) month then some rest else none
  | _ => none

def clock? (cs : List Char) : Option (List Char) := do
  let (_, rest) ← two? 0 23 cs
  let (_, rest) ← two? 0 59 (← char? ':' rest)
  let (_, rest) ← two? 0 60 (← char? ':' rest)
  match rest with
  | '.' :: c :: more => if isDigit c then some (more.dropWhile isDigit) else some rest
  | _ => some rest

def offset? : List Char → Option (List Char)
  | 'Z' :: rest | 'z' :: rest => some rest
  | '+' :: rest | '-' :: rest => do
    let (_, rest) ← two? 0 23 rest
    let (_, rest) ← two? 0 59 (← char? ':' rest)
    some rest
  | rest => some rest

def read? (cs : List Char) : Option (List Char) :=
  match date? cs with
  | some (c :: rest) =>
    if c = 'T' ∨ c = 't' ∨ c = ' ' then
      match clock? rest with
      | some after => offset? after
      | none => some (c :: rest)
    else some (c :: rest)
  | some [] => some []
  | none => clock? cs

end Time

namespace Text

def coded? (ds : List Char) : Option Char := do
  let n ← Radix.value? 16 ds
  if n < 0xD800 ∨ (0xE000 ≤ n ∧ n < 0x110000) then some (Char.ofNat n) else none

def escape? : List Char → Option (Char × List Char)
  | 'b' :: rest => some ('\x08', rest)
  | 't' :: rest => some ('\t', rest)
  | 'n' :: rest => some ('\n', rest)
  | 'f' :: rest => some ('\x0c', rest)
  | 'r' :: rest => some ('\r', rest)
  | '"' :: rest => some ('"', rest)
  | '\\' :: rest => some ('\\', rest)
  | 'u' :: rest =>
    if rest.length < 4 then none else (coded? (rest.take 4)).map fun c => (c, rest.drop 4)
  | 'U' :: rest =>
    if rest.length < 8 then none else (coded? (rest.take 8)).map fun c => (c, rest.drop 8)
  | _ => none

def basic? : Nat → List Char → Option (List Char × List Char)
  | 0, _ => none
  | fuel + 1, cs =>
    match cs with
    | [] => none
    | '"' :: rest => some ([], rest)
    | '\\' :: rest => do
      let (c, rest) ← escape? rest
      let (s, after) ← basic? fuel rest
      some (c :: s, after)
    | c :: rest =>
      if isPlain c then (basic? fuel rest).map fun p => (c :: p.1, p.2) else none

def literal? : List Char → Option (List Char × List Char)
  | [] => none
  | '\'' :: rest => some ([], rest)
  | c :: rest => if isPlain c then (literal? rest).map fun p => (c :: p.1, p.2) else none

def closing? (quote : Char) (cs : List Char) : Option (List Char × List Char) :=
  let run := (cs.takeWhile fun c => c = quote).length
  if run < 3 then none
  else
    let extra := if 5 ≤ run then 2 else run - 3
    some (List.replicate extra quote, cs.drop (extra + 3))

def skipLines : Nat → List Char → List Char
  | 0, cs => cs
  | fuel + 1, cs =>
    match Line.ending? (skipSpaces cs) with
    | some rest => skipLines fuel rest
    | none => skipSpaces cs

def multiline? (quote : Char) (escapes : Bool) : Nat → List Char → Option (List Char × List Char)
  | 0, _ => none
  | fuel + 1, cs =>
    match closing? quote cs with
    | some ending => some ending
    | none =>
      match Line.ending? cs with
      | some rest => (multiline? quote escapes fuel rest).map fun p => ('\n' :: p.1, p.2)
      | none =>
        match cs with
        | [] => none
        | c :: rest =>
          if escapes ∧ c = '\\' then
            match Line.ending? (skipSpaces rest) with
            | some next => multiline? quote escapes fuel (skipLines fuel next)
            | none => do
              let (d, rest) ← escape? rest
              let (s, after) ← multiline? quote escapes fuel rest
              some (d :: s, after)
          else if isPlain c then
            (multiline? quote escapes fuel rest).map fun p => (c :: p.1, p.2)
          else none

def afterOpening (cs : List Char) : List Char :=
  (Line.ending? cs).getD cs

def oneLine? (cs : List Char) : Option (List Char × List Char) :=
  match cs with
  | '"' :: rest => basic? cs.length rest
  | '\'' :: rest => literal? rest
  | _ => none

def read? (cs : List Char) : Option (List Char × List Char) :=
  match cs with
  | '"' :: '"' :: '"' :: rest => multiline? '"' true cs.length (afterOpening rest)
  | '\'' :: '\'' :: '\'' :: rest => multiline? '\'' false cs.length (afterOpening rest)
  | _ => oneLine? cs

end Text

end QuizService.Toml
