import QuizService.Text.Utf8

namespace QuizService.Utf8

theorem encode_eq (s : String) : encode s = s.toList.flatMap String.utf8EncodeChar := by
  have hbytes : s.toUTF8 = s.toList.utf8Encode := String.utf8Encode_toList.symm
  rw [encode, hbytes, List.utf8Encode, List.toList_data_toByteArray]

theorem follow_cons {b : UInt8} {bits low high : Nat} (n : Nat) (rest : List UInt8)
    (hlow : low ≤ b.toNat) (hhigh : b.toNat ≤ high) :
    follow bits low high (n + 1) (b :: rest) =
      follow (bits * 64 + b.toNat % 64) 0x80 0xBF n rest := by
  rw [follow, if_pos ⟨hlow, hhigh⟩]

theorem toNat_byte {n : Nat} (h : n < 256) : (UInt8.ofNat n).toNat = n := by
  simpa using Nat.mod_eq_of_lt h

theorem lead?_eq {b : Nat} :
    (b < 0x80 → lead? b = some ⟨b, 0x80, 0xBF, 0⟩) ∧
      (0xC2 ≤ b → b < 0xE0 → lead? b = some ⟨b - 0xC0, 0x80, 0xBF, 1⟩) ∧
      (0xE0 ≤ b → b < 0xF0 →
        lead? b = some ⟨b - 0xE0, if b = 0xE0 then 0xA0 else 0x80,
          if b = 0xED then 0x9F else 0xBF, 2⟩) ∧
      (0xF0 ≤ b → b < 0xF5 →
        lead? b = some ⟨b - 0xF0, if b = 0xF0 then 0x90 else 0x80,
          if b = 0xF4 then 0x8F else 0xBF, 3⟩) := by
  refine ⟨fun h => by rw [lead?, if_pos h], fun _ _ => ?_, fun _ _ => ?_, fun _ _ => ?_⟩
  all_goals
    unfold lead?
    grind

theorem step_lead {b : Nat} {l : Lead} (hb : b < 256) (hl : lead? b = some l)
    (rest : List UInt8) :
    step (UInt8.ofNat b) rest = follow l.bits l.low l.high l.following rest := by
  rw [step, toNat_byte hb, hl]

theorem follow_tail {n bits low high : Nat} (k : Nat) (rest : List UInt8)
    (hlow : low ≤ n % 64 + 128) (hhigh : n % 64 + 128 ≤ high) (hbits : bits = n / 64) :
    follow bits low high (k + 1) (UInt8.ofNat (n % 64 + 128) :: rest) =
      follow n 0x80 0xBF k rest := by
  have hbyte : (UInt8.ofNat (n % 64 + 128)).toNat = n % 64 + 128 := toNat_byte (by omega)
  rw [follow_cons k rest (by omega) (by omega), hbyte]
  congr 1
  omega

/-- The bytes of a character are its first byte and, from the highest bits down, one byte for
each further six bits. -/
theorem step_char (c : Char) (rest : List UInt8) :
    ∃ b bs, String.utf8EncodeChar c = b :: bs ∧ step b (bs ++ rest) = (some c, rest) := by
  have hchar : (some (Char.ofNat c.toNat), rest) = (some c, rest) := by rw [Char.ofNat_toNat]
  have hvalid : c.toNat < 0xD800 ∨ 0xDFFF < c.toNat ∧ c.toNat < 0x110000 := c.valid
  have hn : c.val.toNat = c.toNat := rfl
  rw [String.utf8EncodeChar, hn, ← hchar]
  generalize c.toNat = n at hvalid
  split
  · refine ⟨_, _, rfl, ?_⟩
    rw [step_lead (by omega) (lead?_eq.1 (by omega))]
    rfl
  split
  · refine ⟨_, _, rfl, ?_⟩
    rw [step_lead (by omega) (lead?_eq.2.1 (by omega) (by omega))]
    dsimp only [List.cons_append, List.nil_append]
    exact follow_tail 0 rest (by omega) (by omega) (by omega)
  split
  · refine ⟨_, _, rfl, ?_⟩
    rw [step_lead (by omega) (lead?_eq.2.2.1 (by omega) (by omega))]
    dsimp only [List.cons_append, List.nil_append]
    rw [follow_tail (n := n / 64) 1 _ (by split <;> omega) (by split <;> omega) (by omega)]
    exact follow_tail 0 rest (by omega) (by omega) rfl
  · refine ⟨_, _, rfl, ?_⟩
    rw [step_lead (by omega) (lead?_eq.2.2.2 (by omega) (by omega))]
    dsimp only [List.cons_append, List.nil_append]
    rw [follow_tail (n := n / 4096) 2 _ (by split <;> omega) (by split <;> omega) (by omega),
      follow_tail (n := n / 64) 1 _ (by omega) (by omega) (by omega)]
    exact follow_tail 0 rest (by omega) (by omega) rfl

theorem length_le_encode (s : String) : s.toList.length ≤ (encode s).length := by
  rw [encode_eq]
  induction s.toList with
  | nil => exact Nat.le_refl 0
  | cons c cs ih =>
    obtain ⟨b, bs, hbytes, -⟩ := step_char c []
    rw [List.flatMap_cons, hbytes]
    simp only [List.length_append, List.length_cons]
    omega

theorem lossy_chars (cs : List Char) : lossy (cs.flatMap String.utf8EncodeChar) = cs := by
  induction cs with
  | nil => simp [lossy]
  | cons c cs ih =>
    obtain ⟨b, bs, hbytes, hstep⟩ := step_char c (cs.flatMap String.utf8EncodeChar)
    rw [List.flatMap_cons, hbytes, List.cons_append, lossy, hstep, ih]
    rfl

theorem lossy_encode (s : String) : lossy (encode s) = s.toList := by
  rw [encode_eq, lossy_chars]

theorem validPart_chars (cs : List Char) : validPart (cs.flatMap String.utf8EncodeChar) = cs := by
  induction cs with
  | nil => simp [validPart]
  | cons c cs ih =>
    obtain ⟨b, bs, hbytes, hstep⟩ := step_char c (cs.flatMap String.utf8EncodeChar)
    rw [List.flatMap_cons, hbytes, List.cons_append, validPart, hstep]
    simp [ih]

theorem validPart_encode (s : String) : validPart (encode s) = s.toList := by
  rw [encode_eq, validPart_chars]

end QuizService.Utf8
