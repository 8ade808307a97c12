import QuizService.Json.Printer
import QuizService.Json.Reader

namespace QuizService.Json

theorem hexCode?_control :
    ∀ n < 32, hexCode? '0' '0' (hexDigit (n / 16)) (hexDigit (n % 16)) = some n := by
  decide

theorem eq_of_toNat {c : Char} {n : Nat} (h : c.toNat = n) : c = Char.ofNat n := by
  rw [← h, Char.ofNat_toNat]

theorem escape_control {c : Char} (h : c.toNat < 32) :
    (∃ e, e ≠ 'u' ∧ unescape? e = some c ∧ escape c = ['\\', e]) ∨
      escape c = ['\\', 'u', '0', '0', hexDigit (c.toNat / 16), hexDigit (c.toNat % 16)] := by
  have hq : c ≠ '"' := by rintro rfl; exact absurd h (by decide)
  have hb : c ≠ '\\' := by rintro rfl; exact absurd h (by decide)
  rw [escape, if_neg hq, if_neg hb, if_neg (by omega)]
  split
  · rename_i hn; exact .inl ⟨'b', by decide, by rw [eq_of_toNat hn]; rfl, rfl⟩
  · rename_i hn; exact .inl ⟨'t', by decide, by rw [eq_of_toNat hn]; rfl, rfl⟩
  · rename_i hn; exact .inl ⟨'n', by decide, by rw [eq_of_toNat hn]; rfl, rfl⟩
  · rename_i hn; exact .inl ⟨'f', by decide, by rw [eq_of_toNat hn]; rfl, rfl⟩
  · rename_i hn; exact .inl ⟨'r', by decide, by rw [eq_of_toNat hn]; rfl, rfl⟩
  · exact .inr rfl

theorem readPieces?_escape {rest after : List Char} {ps : List Piece}
    (h : readPieces? rest = some (ps, after)) (c : Char) :
    readPieces? (escape c ++ rest) = some (.char c :: ps, after) := by
  by_cases hq : c = '"'
  · subst hq; simp [escape, readPieces?, unescape?, h]
  by_cases hb : c = '\\'
  · subst hb; simp [escape, readPieces?, unescape?, h]
  by_cases hc : c.toNat < 32
  · rcases escape_control hc with ⟨e, hu, he, hw⟩ | hw
    · rw [hw]
      simp [readPieces?, hu, he, h]
    · have hn : ¬(0xD800 ≤ c.toNat ∧ c.toNat < 0xE000) := by omega
      rw [hw]
      simp [readPieces?, hexCode?_control c.toNat hc, h, Piece.ofCode, hn]
  · rw [escape, if_neg hq, if_neg hb, if_pos (by omega), List.singleton_append]
    simp [readPieces?, hb, hc, h]

theorem readPieces?_string (cs rest : List Char) :
    readPieces? (cs.flatMap escape ++ '"' :: rest) = some (cs.map .char, rest) := by
  induction cs with
  | nil => rfl
  | cons c cs ih =>
    rw [List.flatMap_cons, List.append_assoc, readPieces?_escape ih, List.map_cons]

theorem join?_chars (cs : List Char) : Piece.join? (cs.map .char) = some cs := by
  induction cs with
  | nil => rfl
  | cons c cs ih => simp [Piece.join?, ih]

theorem readString?_string (s : String) (rest : List Char) :
    readString? (s.toList.flatMap escape ++ '"' :: rest) = some (some s, rest) := by
  simp [readString?, readPieces?_string, join?_chars]

end QuizService.Json
