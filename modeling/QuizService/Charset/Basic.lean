namespace QuizService.Charset

def gap : Char := '\ufffd'

def gaps (n : Nat) : String :=
  String.ofList (List.replicate n gap)

def run (first n : Nat) : String :=
  String.ofList ((List.range n).map fun i => Char.ofNat (first + i))

structure Table where
  cells : Thunk (Array Char)

namespace Table

def ofPieces (pieces : List String) : Table :=
  ⟨Thunk.mk fun _ => (String.join pieces).toList.toArray⟩

def get? (t : Table) (pointer : Nat) : Option Char :=
  match t.cells.get[pointer]? with
  | some c => if c = gap then none else some c
  | none => none

end Table

end QuizService.Charset

namespace QuizService

/-- A charset of one byte is given by its characters from the byte 128 on. -/
inductive Charset where
  | utf8
  | utf16 (isBigEndian : Bool)
  | oneByte (upper : String)
  | gb18030
  | big5
  | eucJp
  | iso2022Jp
  | shiftJis
  | eucKr
  | userDefined
  | refused
deriving DecidableEq, Repr

namespace Charset

abbrev Step := Nat → List Nat → List Char × Nat

def read (step : Step) : List Nat → List Char
  | [] => []
  | b :: rest => (step b rest).1 ++ read step (rest.drop (step b rest).2)
termination_by bs => bs.length
decreasing_by simp only [List.length_cons, List.length_drop]; omega

def isIn (low high b : Nat) : Bool :=
  decide (low ≤ b ∧ b ≤ high)

def one (n : Nat) : List Char × Nat :=
  ([Char.ofNat n], 0)

def lone : List Char × Nat :=
  ([gap], 0)

def broken (trail : Nat) : List Char × Nat :=
  -- An ASCII byte is no part of a broken pair and is read again.
  ([gap], if trail < 128 then 0 else 1)

def pair (trail : Nat) (c : Option Char) : List Char × Nat :=
  match c with
  | some c => ([c], 1)
  | none => broken trail

def oneByteStep (upper : Array Char) : Step := fun b _ =>
  if b < 128 then one b else ([upper[b - 128]?.getD gap], 0)

def userDefinedStep : Step := fun b _ =>
  if b < 128 then one b else one (0xF700 + b)

end Charset

end QuizService

namespace QuizService.Charset.Utf16

def unit (isBigEndian : Bool) (a b : Nat) : Nat :=
  if isBigEndian then a * 256 + b else b * 256 + a

def isHigh (u : Nat) : Bool :=
  isIn 0xD800 0xDBFF u

def isLow (u : Nat) : Bool :=
  isIn 0xDC00 0xDFFF u

def joined (high low : Nat) : Char :=
  Char.ofNat (0x10000 + (high - 0xD800) * 0x400 + (low - 0xDC00))

def read (isBigEndian : Bool) : List Nat → List Char
  | a :: b :: c :: d :: rest =>
    let u := unit isBigEndian a b
    let v := unit isBigEndian c d
    if isHigh u then
      if isLow v then joined u v :: read isBigEndian rest
      else gap :: read isBigEndian (c :: d :: rest)
    else (if isLow u then gap else Char.ofNat u) :: read isBigEndian (c :: d :: rest)
  | [a, b, c] =>
    -- A high surrogate at the end counts once, together with the byte after it.
    let u := unit isBigEndian a b
    if isHigh u then [gap] else (if isLow u then gap else Char.ofNat u) :: read isBigEndian [c]
  | [a, b] =>
    let u := unit isBigEndian a b
    [if isHigh u || isLow u then gap else Char.ofNat u]
  | [_] => [gap]
  | [] => []

end QuizService.Charset.Utf16
