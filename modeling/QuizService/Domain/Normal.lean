import QuizService.Domain.Table.CombiningClass
import QuizService.Domain.Table.Composite

namespace QuizService.Domain

def combiningClass (c : Char) : Nat :=
  ((combiningClasses.find? fun p => p.2.contains c).map Prod.fst).getD 0

namespace Syllable

def first : Nat := 0xAC00

def count : Nat := 11172

def isOne (n : Nat) : Bool :=
  decide (first ≤ n ∧ n < first + count)

def letters (n : Nat) : List Char :=
  let i := n - first
  let head := [Char.ofNat (0x1100 + i / 588), Char.ofNat (0x1161 + i % 588 / 28)]
  if i % 28 = 0 then head else head ++ [Char.ofNat (0x11A7 + i % 28)]

def join? (a b : Nat) : Option Char :=
  if 0x1100 ≤ a ∧ a < 0x1113 ∧ 0x1161 ≤ b ∧ b < 0x1176 then
    some (Char.ofNat (first + ((a - 0x1100) * 21 + (b - 0x1161)) * 28))
  else if isOne a ∧ (a - first) % 28 = 0 ∧ 0x11A8 ≤ b ∧ b < 0x11C3 then
    some (Char.ofNat (a + (b - 0x11A7)))
  else none

end Syllable

/-- No character is composed of another more often than this in turn. -/
def depthLimit : Nat := 4

def decompose : Nat → Char → List Char
  | 0, c => [c]
  | depth + 1, c =>
    if Syllable.isOne c.toNat then Syllable.letters c.toNat
    else
      match composites.image? c with
      | some cs => cs.flatMap (decompose depth)
      | none => [c]

def putBefore (c : Char) : List Char → List Char
  | [] => [c]
  | d :: rest =>
    if 0 < combiningClass d ∧ combiningClass d < combiningClass c then d :: putBefore c rest
    else c :: d :: rest

def join? (a b : Char) : Option Char :=
  match Syllable.join? a.toNat b.toNat with
  | some c => some c
  | none => composites.source? a b

def composeFrom (c : Char) (marks : List Char) : List Char → List Char
  | [] => c :: marks
  | d :: rest =>
    -- A mark of the same class or of a higher one stands in the way.
    let isNear := marks.getLast?.all fun m => decide (combiningClass m < combiningClass d)
    match if isNear then join? c d else none with
    | some joined => composeFrom joined marks rest
    | none =>
      if combiningClass d = 0 then c :: marks ++ composeFrom d [] rest
      else composeFrom c (marks ++ [d]) rest

def compose : List Char → List Char
  | [] => []
  | c :: rest => if combiningClass c = 0 then composeFrom c [] rest else c :: compose rest

def normal (cs : List Char) : List Char :=
  compose ((cs.flatMap (decompose depthLimit)).foldr putBefore [])

end QuizService.Domain
