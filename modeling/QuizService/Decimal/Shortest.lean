import QuizService.Decimal.Binary

/-!
The shortest decimal that reads back as a given magnitude. The reals that round to a magnitude
form an interval; for one digit, two digits and so on, the two neighbours of the magnitude on the
decimal grid of that many digits are tested, and the first grid with one inside the interval
wins.
-/

namespace QuizService.Decimal

structure Scientific where
  coefficient : Nat
  scale : Int
deriving DecidableEq, Repr

structure Neighbourhood where
  low : Nat
  exact : Nat
  high : Nat
  den : Nat
  closed : Bool

/-- The gap below a power of two is half the gap above it, except at the lowest exponent; a
significand that is even wins both ties, so the ends are its own. -/
def Format.neighbourhood (f : Format) (m : Magnitude) : Neighbourhood :=
  let below :=
    if m.significand = Nat.pow 2 (f.precision - 1) ∧ f.lowest < m.exponent then 1 else 2
  let quarter := Magnitude.ratio ⟨1, m.exponent - 2⟩
  { low := (4 * m.significand - below) * quarter.num
    exact := 4 * m.significand * quarter.num
    high := (4 * m.significand + 2) * quarter.num
    den := quarter.den
    closed := m.significand % 2 = 0 }

namespace Neighbourhood

def leading (n : Neighbourhood) : Int :=
  if n.den ≤ n.exact then ((digits (n.exact / n.den)).length : Int) - 1
  else
    let inverse := (n.den + n.exact - 1) / n.exact
    Int.negOfNat (digits (inverse - 1)).length

def measured (n : Neighbourhood) : Int → Neighbourhood
  | .ofNat k => { n with den := n.den * tenTo k }
  | .negSucc k =>
    { n with
      low := n.low * tenTo (k + 1)
      exact := n.exact * tenTo (k + 1)
      high := n.high * tenTo (k + 1) }

def inside (n : Neighbourhood) (c : Nat) : Bool :=
  if n.closed then decide (n.low ≤ c * n.den ∧ c * n.den ≤ n.high)
  else decide (n.low < c * n.den ∧ c * n.den < n.high)

def onGrid? (n : Neighbourhood) : Option Nat :=
  let c := n.exact / n.den
  match n.inside c, n.inside (c + 1) with
  | false, false => none
  | true, false => some c
  | false, true => some (c + 1)
  | true, true =>
    let before := n.exact - c * n.den
    let after := (c + 1) * n.den - n.exact
    if before < after then some c
    else if after < before then some (c + 1)
    else if c % 2 = 0 then some c else some (c + 1)

def search (n : Neighbourhood) (count : Nat) : Nat → Option Scientific
  | 0 => none
  | budget + 1 =>
    let scale := n.leading - (count : Int) + 1
    match (n.measured scale).onGrid? with
    | some c => some ⟨c, scale⟩
    | none => search n (count + 1) budget

end Neighbourhood

def Scientific.trim (coefficient : Nat) (scale : Int) : Scientific :=
  if h : coefficient ≠ 0 ∧ coefficient % 10 = 0 then
    trim (coefficient / 10) (scale + 1)
  else ⟨coefficient, scale⟩
termination_by coefficient
decreasing_by omega

/-- The shortest decimal that reads back, the nearest of those. Seventeen digits always do for
the formats here. -/
def Format.shortest (f : Format) (m : Magnitude) : Scientific :=
  if m.significand = 0 then ⟨0, 0⟩
  else
    match (f.neighbourhood m).search 1 17 with
    | some s => Scientific.trim s.coefficient s.scale
    | none => ⟨m.significand, 0⟩

namespace Scientific

def lead (s : Scientific) : Int :=
  s.scale + (digits s.coefficient).length - 1

def size (s : Scientific) : Nat :=
  (digits s.coefficient).length + s.lead.natAbs

end Scientific

structure Layout where
  least : Int
  greatest : Int

namespace Layout

def exponentText (e : Int) : List Char :=
  'e' :: (if e < 0 then '-' else '+') :: digits e.natAbs

def scientificText (ds : List Char) (e : Int) : List Char :=
  match ds with
  | [] => []
  | [d] => d :: exponentText e
  | d :: rest => d :: '.' :: rest ++ exponentText e

def positionalText (ds : List Char) (e : Int) : List Char :=
  match e with
  | .ofNat k =>
    if ds.length ≤ k + 1 then ds ++ List.replicate (k + 1 - ds.length) '0' ++ ['.', '0']
    else ds.take (k + 1) ++ '.' :: ds.drop (k + 1)
  | .negSucc k => '0' :: '.' :: List.replicate k '0' ++ ds

def unsigned (l : Layout) (s : Scientific) : List Char :=
  if s.coefficient = 0 then ['0', '.', '0']
  else
    let ds := digits s.coefficient
    let e := s.scale + (ds.length : Int) - 1
    if l.least ≤ e ∧ e ≤ l.greatest then positionalText ds e else scientificText ds e

def render (l : Layout) {f : Format} (x : Binary f) : List Char :=
  let body := l.unsigned (f.shortest x.magnitude.toMagnitude)
  if x.negative then '-' :: body else body

end Layout

end QuizService.Decimal
