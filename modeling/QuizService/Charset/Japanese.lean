import QuizService.Charset.Basic
import QuizService.Charset.Table.Jis0208
import QuizService.Charset.Table.Jis0212

namespace QuizService.Charset

def katakana (n : Nat) : Char :=
  Char.ofNat (0xFF61 + n)

namespace EucJp

def isPart (b : Nat) : Bool :=
  isIn 0xA1 0xFE b

def pointer (lead trail : Nat) : Nat :=
  (lead - 0xA1) * 94 + (trail - 0xA1)

def step : Step := fun lead rest =>
  if lead < 0x80 then one lead
  else if lead = 0x8E then
    match rest with
    | [] => lone
    | trail :: _ =>
      pair trail (if isIn 0xA1 0xDF trail then some (katakana (trail - 0xA1)) else none)
  else if lead = 0x8F then
    match rest with
    | [] => lone
    | [trail] => if isPart trail then ([gap], 1) else broken trail
    | trail :: last :: _ =>
      if isPart trail then
        if isPart last then ([(jis0212.get? (pointer trail last)).getD gap], 2)
        else ([gap], if last < 128 then 1 else 2)
      else broken trail
  else if isPart lead then
    match rest with
    | [] => lone
    | trail :: _ =>
      pair trail (if isPart trail then jis0208.get? (pointer lead trail) else none)
  else lone

end EucJp

namespace ShiftJis

def char? (pointer : Nat) : Option Char :=
  if pointer < 8836 then jis0208.get? pointer
  else if pointer < 10716 then some (Char.ofNat (0xE000 + (pointer - 8836)))
  else jis0208.get? (pointer - 1880)

def pointer? (lead trail : Nat) : Option Nat :=
  let row := (lead - if lead < 0xA0 then 0x81 else 0xC1) * 188
  if isIn 0x40 0x7E trail then some (row + (trail - 0x40))
  else if isIn 0x80 0xFC trail then some (row + (trail - 0x41))
  else none

def step : Step := fun lead rest =>
  if lead ≤ 0x80 then one lead
  else if isIn 0xA1 0xDF lead then ([katakana (lead - 0xA1)], 0)
  else if isIn 0x81 0x9F lead || isIn 0xE0 0xFC lead then
    match rest with
    | [] => lone
    | trail :: _ => pair trail ((pointer? lead trail).bind char?)
  else lone

end ShiftJis

namespace Iso2022Jp

inductive Mode where
  | ascii
  | roman
  | katakana
  | pairs
deriving DecidableEq

def escape? : List Nat → Option Mode
  | 0x28 :: 0x42 :: _ => some .ascii
  | 0x28 :: 0x4A :: _ => some .roman
  | 0x28 :: 0x49 :: _ => some .katakana
  | 0x24 :: 0x40 :: _ => some .pairs
  | 0x24 :: 0x42 :: _ => some .pairs
  | _ => none

def isPlain (b : Nat) : Bool :=
  decide (b < 0x80) && b != 0x0E && b != 0x0F

def isPart (b : Nat) : Bool :=
  isIn 0x21 0x7E b

def char? (mode : Mode) (b : Nat) : Option Char :=
  match mode with
  | .roman =>
    if b = 0x5C then some '¥'
    else if b = 0x7E then some '‾'
    else if isPlain b then some (Char.ofNat b)
    else none
  | .katakana => if isIn 0x21 0x5F b then some (Charset.katakana (b - 0x21)) else none
  | _ => if isPlain b then some (Char.ofNat b) else none

def pair? (lead trail : Nat) : Option Char :=
  if isPart trail then jis0208.get? ((lead - 0x21) * 94 + (trail - 0x21)) else none

/-- An escape right after another is a fault, since the first one changes nothing. -/
def read (mode : Mode) (afterEscape : Bool) : List Nat → List Char
  | [] => []
  | b :: rest =>
    if b = 0x1B then
      match escape? rest with
      | some next => (if afterEscape then [gap] else []) ++ read next true (rest.drop 2)
      | none => gap :: read mode false rest
    else if mode = .pairs then
      let trail := rest.head?.getD 0x1B
      if isPart b = false ∨ trail = 0x1B then gap :: read mode false rest
      else (pair? b trail).getD gap :: read mode false (rest.drop 1)
    else (char? mode b).getD gap :: read mode false rest
termination_by bs => bs.length
decreasing_by all_goals simp only [List.length_cons, List.length_drop]; omega

end Iso2022Jp

end QuizService.Charset
