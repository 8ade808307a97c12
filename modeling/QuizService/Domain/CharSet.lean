import QuizService.Text.Basic

namespace QuizService.Domain

def tokens (pieces : List String) : List (List Char) :=
  pieces.flatMap fun p => Split.pieces (· = ' ') p.toList

def rangeOf (token : List Char) : Nat × Nat :=
  let (first, rest) := Split.atFirst (· = '-') token
  let last := if rest.isEmpty then first else rest.drop 1
  (Radix.value 16 first, Radix.value 16 last)

structure CharSet where
  ranges : Thunk (List (Nat × Nat))

namespace CharSet

def ofPieces (pieces : List String) : CharSet :=
  ⟨Thunk.mk fun _ => (tokens pieces).map rangeOf⟩

def contains (s : CharSet) (c : Char) : Bool :=
  s.ranges.get.any fun r => decide (r.1 ≤ c.toNat ∧ c.toNat ≤ r.2)

end CharSet

structure Rule where
  first : Nat
  last : Nat
  distance : Nat
  target : List Nat

namespace Rule

def ofToken (token : List Char) : Rule :=
  -- 100-12e/2>101 stands for every second character from 100 on, the first of which goes to 101.
  let (source, target) := Split.atFirst (· = '>') token
  let (span, distance) := Split.atFirst (· = '/') source
  let (first, last) := rangeOf span
  ⟨first, last, if distance.isEmpty then 1 else Radix.value 16 (distance.drop 1),
    (Split.pieces (· = '.') (target.drop 1)).map (Radix.value 16)⟩

def image? (r : Rule) (c : Char) : Option (List Char) :=
  let n := c.toNat
  if r.first ≤ n ∧ n ≤ r.last ∧ (n - r.first) % r.distance = 0 then
    some (r.target.map fun t => Char.ofNat (t + (n - r.first)))
  else none

end Rule

structure Rules where
  all : Thunk (List Rule)

namespace Rules

def ofPieces (pieces : List String) : Rules :=
  ⟨Thunk.mk fun _ => (tokens pieces).map Rule.ofToken⟩

def image? (rs : Rules) (c : Char) : Option (List Char) :=
  rs.all.get.findSome? fun r => r.image? c

def source? (rs : Rules) (a b : Char) : Option Char :=
  (rs.all.get.find? fun r => r.target = [a.toNat, b.toNat]).map fun r => Char.ofNat r.first

end Rules

end QuizService.Domain
