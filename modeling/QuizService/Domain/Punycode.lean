import QuizService.Text.Basic

/-!
Any text in letters, digits and hyphens: the ASCII characters come first, and then numbers in base
36 that say which characters are put in and where, in the order of the characters.
-/

namespace QuizService.Punycode

def digitChar (d : Nat) : Char :=
  if d < 26 then Char.ofNat (97 + d) else Char.ofNat (22 + d)

def digit? (c : Char) : Option Nat :=
  if 'a' ≤ c ∧ c ≤ 'z' then some (c.toNat - 97)
  else if 'A' ≤ c ∧ c ≤ 'Z' then some (c.toNat - 65)
  else if '0' ≤ c ∧ c ≤ '9' then some (c.toNat - 22)
  else none

def threshold (place bias : Nat) : Nat :=
  if place ≤ bias then 1 else if bias + 26 ≤ place then 26 else place - bias

theorem threshold_pos (place bias : Nat) : 1 ≤ threshold place bias := by
  unfold threshold
  split
  · omega
  · split <;> omega

def scale (place delta : Nat) : Nat :=
  if delta ≤ 455 then place + 36 * delta / (delta + 38) else scale (place + 36) (delta / 35)
termination_by delta
decreasing_by omega

def adapt (delta count : Nat) (isFirst : Bool) : Nat :=
  let d := if isFirst then delta / 700 else delta / 2
  scale 0 (d + d / count)

def digits (bias place n : Nat) : List Char :=
  let t := threshold place bias
  if n < t then [digitChar n]
  else digitChar (t + (n - t) % (36 - t)) :: digits bias (place + 36) ((n - t) / (36 - t))
termination_by n
decreasing_by
  have h := threshold_pos place bias
  have h' := Nat.div_le_self (n - threshold place bias) (36 - threshold place bias)
  omega

def isBasic (c : Char) : Bool :=
  decide (c.toNat < 128)

structure Writer where
  delta : Nat
  bias : Nat
  count : Nat
  out : List Char

namespace Writer

def pass (basics n : Nat) (w : Writer) (c : Char) : Writer :=
  if c.toNat < n then { w with delta := w.delta + 1 }
  else if c.toNat = n then
    ⟨0, adapt w.delta (w.count + 1) (w.count = basics), w.count + 1,
      w.out ++ digits w.bias 36 w.delta⟩
  else w

def putIn (text : List Char) (basics least : Nat) (w : Writer) : List Nat → Writer
  | [] => w
  | n :: rest =>
    let w := text.foldl (pass basics n)
      { w with delta := w.delta + (n - least) * (w.count + 1) }
    putIn text basics (n + 1) { w with delta := w.delta + 1 } rest

end Writer

def encode (text : List Char) : List Char :=
  let basic := text.filter isBasic
  let others := ((text.filter fun c => !isBasic c).map Char.toNat).mergeSort.eraseDups
  let start := if basic.isEmpty then [] else basic ++ ['-']
  (Writer.putIn text basic.length 128 ⟨0, 72, basic.length, start⟩ others).out

def number? (bias place weight acc : Nat) : List Char → Option (Nat × List Char)
  | [] => none
  | c :: rest => do
    let d ← digit? c
    let t := threshold place bias
    if d < t then some (acc + d * weight, rest)
    else number? bias (place + 36) (weight * (36 - t)) (acc + d * weight) rest

def isCodePoint (n : Nat) : Bool :=
  decide (n < 0xD800 ∨ (0xE000 ≤ n ∧ n < 0x110000))

def putIn? : Nat → Nat → Nat → Nat → List Char → List Char → Option (List Char)
  | _, _, _, _, out, [] => some out
  | 0, _, _, _, _, _ => none
  | fuel + 1, bias, least, place, out, cs => do
    let (sum, rest) ← number? bias 36 1 place cs
    let count := out.length + 1
    let n := least + sum / count
    let i := sum % count
    if isCodePoint n then
      putIn? fuel (adapt (sum - place) count (place = 0)) n (i + 1)
        (out.take i ++ Char.ofNat n :: out.drop i) rest
    else none

def decode? (cs : List Char) : Option (List Char) :=
  let (basic, rest) :=
    match Split.atLast? (· = '-') cs with
    | some (before, after) => if before.isEmpty then ([], cs) else (before, after)
    | none => ([], cs)
  if basic.all isBasic then putIn? rest.length 72 128 0 basic rest else none

end QuizService.Punycode
