import QuizService.Text.Basic

namespace QuizService.Utf8

structure Lead where
  bits : Nat
  low : Nat
  high : Nat
  following : Nat

def lead? (b : Nat) : Option Lead :=
  if b < 0x80 then some ⟨b, 0x80, 0xBF, 0⟩
  else if b < 0xC2 then none
  else if b < 0xE0 then some ⟨b - 0xC0, 0x80, 0xBF, 1⟩
  else if b = 0xE0 then some ⟨0, 0xA0, 0xBF, 2⟩
  else if b = 0xED then some ⟨0xD, 0x80, 0x9F, 2⟩
  else if b < 0xF0 then some ⟨b - 0xE0, 0x80, 0xBF, 2⟩
  else if b = 0xF0 then some ⟨0, 0x90, 0xBF, 3⟩
  else if b < 0xF4 then some ⟨b - 0xF0, 0x80, 0xBF, 3⟩
  else if b = 0xF4 then some ⟨4, 0x80, 0x8F, 3⟩
  else none

def follow (bits low high : Nat) : Nat → List UInt8 → Option Char × List UInt8
  | 0, rest => (some (Char.ofNat bits), rest)
  | _ + 1, [] => (none, [])
  | n + 1, b :: rest =>
    if low ≤ b.toNat ∧ b.toNat ≤ high then
      follow (bits * 64 + b.toNat % 64) 0x80 0xBF n rest
    else (none, b :: rest)

def step (b : UInt8) (rest : List UInt8) : Option Char × List UInt8 :=
  match lead? b.toNat with
  | some l => follow l.bits l.low l.high l.following rest
  | none => (none, rest)

theorem follow_length (n : Nat) :
    ∀ (bits low high : Nat) (bs : List UInt8),
      (follow bits low high n bs).2.length ≤ bs.length := by
  induction n with
  | zero =>
    intro bits low high bs
    simp [follow]
  | succ n ih =>
    intro bits low high bs
    cases bs with
    | nil => simp [follow]
    | cons b rest =>
      simp only [follow]
      split
      · have := ih (bits * 64 + b.toNat % 64) 0x80 0xBF rest
        simp only [List.length_cons]
        omega
      · simp

theorem step_length (b : UInt8) (rest : List UInt8) : (step b rest).2.length ≤ rest.length := by
  unfold step
  split
  · exact follow_length _ _ _ _ _
  · simp

def lossy : List UInt8 → List Char
  | [] => []
  | b :: rest =>
    have := step_length b rest
    (step b rest).1.getD (Char.ofNat 0xFFFD) :: lossy (step b rest).2
termination_by bs => bs.length
decreasing_by simp only [List.length_cons]; omega

def validPart : List UInt8 → List Char
  | [] => []
  | b :: rest =>
    have := step_length b rest
    match (step b rest).1 with
    | some c => c :: validPart (step b rest).2
    | none => []
termination_by bs => bs.length
decreasing_by simp only [List.length_cons]; omega

def decode? : List UInt8 → Option (List Char)
  | [] => some []
  | b :: rest =>
    have := step_length b rest
    match (step b rest).1 with
    | some c => (decode? (step b rest).2).map (c :: ·)
    | none => none
termination_by bs => bs.length
decreasing_by simp only [List.length_cons]; omega

def encode (s : String) : List UInt8 :=
  s.toUTF8.data.toList

end QuizService.Utf8

namespace QuizService.Percent

def hexDigit (n : Nat) : Char :=
  if n < 10 then Char.ofNat (48 + n) else Char.ofNat (55 + n)

def encode (b : UInt8) : List Char :=
  ['%', hexDigit (b.toNat / 16), hexDigit (b.toNat % 16)]

def encodeText (listed : Char → Bool) (cs : List Char) : List Char :=
  cs.flatMap fun c =>
    if listed c then (Utf8.encode (String.singleton c)).flatMap encode else [c]

def decode : List Char → List UInt8
  | '%' :: a :: b :: rest =>
    match Radix.digit? a, Radix.digit? b with
    | some x, some y => UInt8.ofNat (x * 16 + y) :: decode rest
    | _, _ => 37 :: decode (a :: b :: rest)
  | c :: rest => Utf8.encode (String.singleton c) ++ decode rest
  | [] => []

end QuizService.Percent
