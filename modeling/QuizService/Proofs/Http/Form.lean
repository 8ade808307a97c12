import QuizService.Http.Message
import QuizService.Proofs.Text.Utf8

namespace QuizService.Http.Form

theorem bare_ascii : ∀ n < 256, isBare (UInt8.ofNat n) = true →
    (Char.ofNat n).toNat = n ∧ n < 128 ∧ Char.ofNat n ∉ ['%', '+', '&', '=', '#'] := by
  decide +kernel

theorem digit?_hexDigit : ∀ n < 16, Radix.digit? (Percent.hexDigit n) = some n := by
  decide

theorem hexDigit_ne : ∀ n < 16, Percent.hexDigit n ∉ ['&', '=', '#'] := by
  decide

theorem encode_ascii {c : Char} (h : c.toNat < 128) :
    Utf8.encode (String.singleton c) = [UInt8.ofNat c.toNat] := by
  have hval : c.val.toNat = c.toNat := rfl
  rw [Utf8.encode_eq, String.toList_singleton, List.flatMap_singleton, String.utf8EncodeChar, hval]
  rw [if_pos (by omega)]

theorem bytes_char {c : Char} (hp : c ≠ '%') (hplus : c ≠ '+') (rest : List Char) :
    bytes (c :: rest) = Utf8.encode (String.singleton c) ++ bytes rest := by
  rw [bytes.eq_def]
  split
  · rename_i heq
    exact absurd (List.cons.inj heq).1 hp
  · rename_i heq
    exact absurd (List.cons.inj heq).1 hplus
  · rename_i heq
    obtain ⟨rfl, rfl⟩ := List.cons.inj heq
    rfl
  · contradiction

theorem bytes_writeByte (b : UInt8) (rest : List Char) :
    bytes (writeByte b ++ rest) = b :: bytes rest := by
  unfold writeByte
  split
  · rename_i hbare
    obtain ⟨hchar, hascii, hne⟩ := bare_ascii b.toNat b.toNat_lt (by rwa [UInt8.ofNat_toNat])
    simp only [List.mem_cons, not_or] at hne
    rw [List.singleton_append, bytes_char hne.1 hne.2.1,
      encode_ascii (by omega), hchar, UInt8.ofNat_toNat]
    rfl
  split
  · rename_i hblank
    have hb : b = 32 := UInt8.toNat_inj.mp hblank
    rw [hb]
    rfl
  · have hb : b.toNat < 256 := b.toNat_lt
    have hhigh := digit?_hexDigit (b.toNat / 16) (by omega)
    have hlow := digit?_hexDigit (b.toNat % 16) (by omega)
    have hvalue : b.toNat / 16 * 16 + b.toNat % 16 = b.toNat := by omega
    simp [Percent.encode, bytes, hhigh, hlow, hvalue]

theorem bytes_flatMap (bs : List UInt8) : bytes (bs.flatMap writeByte) = bs := by
  induction bs with
  | nil => rfl
  | cons b bs ih => rw [List.flatMap_cons, bytes_writeByte, ih]

theorem decode_encode (s : String) : decode (encode s) = s := by
  rw [decode, encode, bytes_flatMap, Utf8.lossy_encode, String.ofList_toList]

theorem ne_of_mem_writeByte {b : UInt8} {c d : Char} (hc : c ∈ writeByte b)
    (hd : d ∈ ['&', '=', '#']) : c ≠ d := by
  have hb : b.toNat < 256 := b.toNat_lt
  have hd' : d ∈ ['%', '+', '&', '=', '#'] := List.mem_cons_of_mem _ (List.mem_cons_of_mem _ hd)
  unfold writeByte at hc
  split at hc
  · rename_i hbare
    obtain ⟨-, -, hne⟩ := bare_ascii b.toNat hb (by rwa [UInt8.ofNat_toNat])
    rw [List.mem_singleton.mp hc]
    rintro rfl
    exact hne hd'
  split at hc
  · rw [List.mem_singleton.mp hc]
    rintro rfl
    simp at hd
  · simp only [Percent.encode, List.mem_cons, List.not_mem_nil, or_false] at hc
    rcases hc with rfl | rfl | rfl
    · rintro rfl
      simp at hd
    · rintro rfl
      exact hexDigit_ne _ (by omega) hd
    · rintro rfl
      exact hexDigit_ne _ (by omega) hd

theorem ne_of_mem_encode {s : String} {c d : Char} (hc : c ∈ encode s)
    (hd : d ∈ ['&', '=', '#']) : c ≠ d := by
  obtain ⟨b, -, hb⟩ := List.mem_flatMap.mp hc
  exact ne_of_mem_writeByte hb hd

def written (p : String × String) : List Char :=
  encode p.1 ++ '=' :: encode p.2

theorem ne_of_mem_written {p : String × String} {c d : Char} (hc : c ∈ written p)
    (hd : d ∈ ['&', '#']) : c ≠ d := by
  have hd' : d ∈ ['&', '=', '#'] ∧ '=' ≠ d := by
    rcases List.mem_cons.mp hd with rfl | hd
    · decide
    · rw [List.mem_singleton.mp hd]
      decide
  rcases List.mem_append.mp hc with hc | hc
  · exact ne_of_mem_encode hc hd'.1
  rcases List.mem_cons.mp hc with rfl | hc
  · exact hd'.2
  · exact ne_of_mem_encode hc hd'.1

theorem pair_written (p : String × String) : pair (written p) = p := by
  have hname : ∀ c ∈ encode p.1, decide (c ≠ '=') = true := by
    intro c hc
    exact decide_eq_true (ne_of_mem_encode hc (by decide))
  have htake : (written p).takeWhile (fun c => decide (c ≠ '=')) = encode p.1 := by
    rw [written, List.takeWhile_append_of_pos hname]
    simp
  have hdrop : (written p).dropWhile (fun c => decide (c ≠ '=')) = '=' :: encode p.2 := by
    rw [written, List.dropWhile_append_of_pos hname]
    rfl
  rw [pair, htake, hdrop, List.drop_one, List.tail_cons, decode_encode, decode_encode]

theorem query_cons (p : String × String) (ps : List (String × String)) :
    query (p :: ps) = if ps.isEmpty then written p else written p ++ '&' :: query ps := by
  cases ps with
  | nil => rfl
  | cons q qs => simp [query, written]

theorem pieces_of_not_mem {sep : Char → Bool} {cs : List Char} (h : ∀ c ∈ cs, sep c = false) :
    Split.pieces sep cs = [cs] := by
  induction cs with
  | nil => rfl
  | cons c cs ih =>
    obtain ⟨hc, hcs⟩ := List.forall_mem_cons.mp h
    simp [Split.pieces, hc, ih hcs]

theorem pieces_append {sep : Char → Bool} {cs : List Char} (h : ∀ c ∈ cs, sep c = false)
    {d : Char} (hd : sep d = true) (rest : List Char) :
    Split.pieces sep (cs ++ d :: rest) = cs :: Split.pieces sep rest := by
  induction cs with
  | nil => simp [Split.pieces, hd]
  | cons c cs ih =>
    obtain ⟨hc, hcs⟩ := List.forall_mem_cons.mp h
    simp [Split.pieces, hc, ih hcs]

theorem pieces_query (p : String × String) (ps : List (String × String)) :
    Split.pieces (· = '&') (query (p :: ps)) = (p :: ps).map written := by
  have hsep (q : String × String) : ∀ c ∈ written q, decide (c = '&') = false := by
    intro c hc
    exact decide_eq_false (ne_of_mem_written hc (by decide))
  induction ps generalizing p with
  | nil => exact pieces_of_not_mem (hsep p)
  | cons q qs ih =>
    rw [query_cons, if_neg (by simp), pieces_append (hsep p) (by decide), ih]
    rfl

theorem pairs_query (ps : List (String × String)) : pairs (query ps) = ps := by
  have hfilled : ∀ piece ∈ ps.map written, (!piece.isEmpty) = true := by
    intro piece hpiece
    obtain ⟨p, -, rfl⟩ := List.mem_map.mp hpiece
    simp [written]
  cases ps with
  | nil => rfl
  | cons p ps =>
    have hid : pair ∘ written = id := funext pair_written
    rw [pairs, pieces_query, List.filter_eq_self.mpr hfilled, List.map_map, hid, List.map_id]

theorem ne_of_mem_query {ps : List (String × String)} {c : Char} (hc : c ∈ query ps) : c ≠ '#' := by
  induction ps with
  | nil => simp [query] at hc
  | cons p ps ih =>
    rw [query_cons] at hc
    split at hc
    · exact ne_of_mem_written hc (by decide)
    rcases List.mem_append.mp hc with hc | hc
    · exact ne_of_mem_written hc (by decide)
    rcases List.mem_cons.mp hc with rfl | hc
    · decide
    · exact ih hc

end QuizService.Http.Form
