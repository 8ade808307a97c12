import QuizService.Decimal.Digits

/-!
Binary floating point in exact arithmetic. A finite magnitude is a significand times a power of
two; a format says how many bits a significand has and which exponents it may have, and every
operation computes the exact quotient of two natural numbers and then rounds it once.
-/

namespace QuizService.Decimal

structure Format where
  precision : Nat
  lowest : Int
  highest : Int
  precise : 0 < precision
  least : lowest ≤ 0
  greatest : 0 ≤ highest

def double : Format := ⟨53, -1074, 971, by decide, by decide, by decide⟩

def single : Format := ⟨24, -149, 104, by decide, by decide, by decide⟩

structure Magnitude where
  significand : Nat
  exponent : Int
deriving DecidableEq, Repr

structure Rounded (f : Format) extends Magnitude where
  fits : significand < Nat.pow 2 f.precision
  least : f.lowest ≤ exponent
  greatest : exponent ≤ f.highest
deriving DecidableEq, Repr

structure Binary (f : Format) where
  negative : Bool
  magnitude : Rounded f
deriving DecidableEq, Repr

structure Ratio where
  num : Nat
  den : Nat

namespace Ratio

def shift (r : Ratio) : Int → Ratio
  | .ofNat k => ⟨r.num, r.den * Nat.pow 2 k⟩
  | .negSucc k => ⟨r.num * Nat.pow 2 (k + 1), r.den⟩

def shiftTen (r : Ratio) : Int → Ratio
  | .ofNat k => ⟨r.num, r.den * tenTo k⟩
  | .negSucc k => ⟨r.num * tenTo (k + 1), r.den⟩

def nearestNat (r : Ratio) : Nat :=
  let q := r.num / r.den
  let rest := r.num % r.den
  if 2 * rest < r.den then q
  else if r.den < 2 * rest then q + 1
  else if q % 2 = 0 then q else q + 1

end Ratio

def Magnitude.ratio (m : Magnitude) : Ratio :=
  Ratio.shift ⟨m.significand, 1⟩ (-m.exponent)

namespace Format

def zero (f : Format) : Rounded f where
  significand := 0
  exponent := 0
  fits := Nat.pow_pos (by decide)
  least := f.least
  greatest := f.greatest

def unit (f : Format) (r : Ratio) : Int :=
  let guess : Int := (Nat.log2 r.num : Int) - (Nat.log2 r.den : Int) - (f.precision : Int)
  let s := r.shift guess
  let exact := if Nat.pow 2 f.precision ≤ s.num / s.den then guess + 1 else guess
  if exact < f.lowest then f.lowest else exact

theorem lowest_le_unit (f : Format) (r : Ratio) : f.lowest ≤ f.unit r := by
  simp only [unit]
  split <;> omega

/-- The magnitude of the format nearest to a ratio, a half going to the even neighbour; none
where that lies beyond the largest finite one. A significand that is rounded up to one bit more
is the next power of two. -/
def nearest? (f : Format) (r : Ratio) : Option (Rounded f) :=
  let e := f.unit r
  let q := (r.shift e).nearestNat
  have hleast : f.lowest ≤ e := f.lowest_le_unit r
  if q = 0 then some f.zero
  else if hq : q < Nat.pow 2 f.precision then
    if he : e ≤ f.highest then some ⟨⟨q, e⟩, hq, hleast, he⟩ else none
  else if he : e + 1 ≤ f.highest then
    have hcarry : Nat.pow 2 (f.precision - 1) < Nat.pow 2 f.precision :=
      Nat.pow_lt_pow_right (by decide) (Nat.sub_lt f.precise Nat.one_pos)
    have hnext : f.lowest ≤ e + 1 := by omega
    some ⟨⟨Nat.pow 2 (f.precision - 1), e + 1⟩, hcarry, hnext, he⟩
  else none

/-- The magnitude of the format nearest to `significand · 10 ^ exponent`. The exponents outside
the guard are beyond every format here: above, the number is too large unless it is zero; below,
it rounds to zero. -/
def ofDecimal? (f : Format) (significand : Nat) (exponent : Int) : Option (Rounded f) :=
  let length : Int := ((digits significand).length : Int)
  if significand = 0 then some f.zero
  else if 400 < exponent + length then none
  else if exponent + length < -400 then some f.zero
  else f.nearest? (Ratio.shiftTen ⟨significand, 1⟩ (-exponent))

def mul? (f : Format) (a b : Rounded f) : Option (Rounded f) :=
  f.nearest? ⟨a.ratio.num * b.ratio.num, a.ratio.den * b.ratio.den⟩

def div? (f : Format) (a b : Rounded f) : Option (Rounded f) :=
  f.nearest? ⟨a.ratio.num * b.ratio.den, a.ratio.den * b.ratio.num⟩

def convert? (f : Format) {g : Format} (x : Binary g) : Option (Binary f) :=
  (f.nearest? x.magnitude.ratio).map fun m => ⟨x.negative, m⟩

end Format

end QuizService.Decimal
