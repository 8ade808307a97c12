import QuizService.Json.Basic

/-!
Number literals. A literal without fraction and exponent that fits 64 bits is that integer; every
other literal is a 64-bit floating-point number: its leading digits are gathered while they fit
64 bits, the result is rounded to a double, and one rounded multiplication or division by a power
of ten places the point.
-/

namespace QuizService.Json

structure Numeral where
  negative : Bool
  whole : List Char
  fraction : List Char
  exponent : Option (Bool × List Char)

namespace Numeral

def isDigit (c : Char) : Bool :=
  decide ('0' ≤ c ∧ c ≤ '9')

def readWhole? (cs : List Char) : Option (List Char × List Char) :=
  let ds := cs.takeWhile isDigit
  match ds with
  | [] => none
  | '0' :: _ :: _ => none
  | _ => some (ds, cs.dropWhile isDigit)

def readDigits? (cs : List Char) : Option (List Char × List Char) :=
  match cs.takeWhile isDigit with
  | [] => none
  | ds => some (ds, cs.dropWhile isDigit)

def readFraction? : List Char → Option (List Char × List Char)
  | '.' :: rest => readDigits? rest
  | rest => some ([], rest)

def readExponent? : List Char → Option (Option (Bool × List Char) × List Char)
  | 'e' :: rest | 'E' :: rest => do
    let (minus, rest) := match rest with
      | '-' :: r => (true, r)
      | '+' :: r => (false, r)
      | r => (false, r)
    let (ds, rest) ← readDigits? rest
    some (some (minus, ds), rest)
  | rest => some (none, rest)

def read? (cs : List Char) : Option (Numeral × List Char) := do
  let (negative, rest) := match cs with
    | '-' :: r => (true, r)
    | r => (false, r)
  let (whole, rest) ← readWhole? rest
  let (fraction, rest) ← readFraction? rest
  let (exponent, rest) ← readExponent? rest
  some (⟨negative, whole, fraction, exponent⟩, rest)

def wordLimit : Nat := 18446744073709551616

def gatherWhole (acc : Nat) (skipped : Nat) : List Char → Nat × Nat
  | [] => (acc, skipped)
  | c :: cs =>
    if skipped = 0 ∧ acc * 10 + Decimal.digitValue c < wordLimit then
      gatherWhole (acc * 10 + Decimal.digitValue c) 0 cs
    else gatherWhole acc (skipped + 1) cs

def gatherFraction (acc : Nat) (taken : Nat) : List Char → Nat × Nat
  | [] => (acc, taken)
  | c :: cs =>
    if acc * 10 + Decimal.digitValue c < wordLimit then
      gatherFraction (acc * 10 + Decimal.digitValue c) (taken + 1) cs
    else (acc, taken)

def power : Option (Bool × List Char) → Int
  | none => 0
  | some (minus, ds) => if minus then -(Decimal.value ds : Int) else (Decimal.value ds : Int)

def tenPower? (k : Nat) : Option (Decimal.Rounded Decimal.double) :=
  Decimal.double.nearest? ⟨Decimal.tenTo k, 1⟩

/-- Places the point: one multiplication or division by a power of ten up to 308. Above that a
number other than zero is too large; below it, it is divided by 1e308 first. -/
def scale? (m : Decimal.Rounded Decimal.double) (e : Int) :
    Option (Decimal.Rounded Decimal.double) :=
  if m.significand = 0 then some Decimal.double.zero
  else if 308 < e then none
  else if 0 ≤ e then do Decimal.double.mul? m (← tenPower? e.toNat)
  else if h : e < -308 then do scale? (← Decimal.double.div? m (← tenPower? 308)) (e + 308)
  else do Decimal.double.div? m (← tenPower? e.natAbs)
termination_by e.natAbs
decreasing_by omega

def double? (n : Numeral) : Option Number := do
  let (acc, skipped) := gatherWhole 0 0 n.whole
  let (acc, taken) := gatherFraction acc 0 n.fraction
  let m ← scale? (← Decimal.double.nearest? ⟨acc, 1⟩)
    ((skipped : Int) - (taken : Int) + power n.exponent)
  some (.double ⟨n.negative, m⟩)

def value? (n : Numeral) : Option Number :=
  match n.fraction, n.exponent with
  | [], none =>
    let v := Decimal.value n.whole
    -- Minus zero is no integer, since it has a sign.
    if n.negative ∧ v = 0 then n.double?
    else
      match Whole.ofInt? (if n.negative then -(v : Int) else (v : Int)) with
      | some w => some (.whole w)
      | none => n.double?
  | _, _ => n.double?

end Numeral

end QuizService.Json
