import QuizService.Proofs.Json.ReadBack

namespace QuizService.Json

def IsPlain (cs : List Char) : Prop :=
  ∀ c ∈ cs, 32 ≤ c.toNat

instance (cs : List Char) : Decidable (IsPlain cs) :=
  List.decidableBAll _ cs

theorem isPlain_nil : IsPlain [] :=
  nofun

theorem isPlain_cons {c : Char} {cs : List Char} :
    IsPlain (c :: cs) ↔ 32 ≤ c.toNat ∧ IsPlain cs :=
  List.forall_mem_cons

theorem isPlain_append {cs ds : List Char} : IsPlain (cs ++ ds) ↔ IsPlain cs ∧ IsPlain ds :=
  List.forall_mem_append

theorem isPlain_digits {ds : List Char} (h : ∀ c ∈ ds, Numeral.isDigit c = true) : IsPlain ds := by
  intro c hc
  have hdigit : '0' ≤ c ∧ c ≤ '9' := of_decide_eq_true (h c hc)
  have hzero : '0'.toNat ≤ c.toNat := hdigit.1
  exact Nat.le_trans (by decide) hzero

theorem isPlain_fractionText {ds : List Char} (h : ∀ c ∈ ds, Numeral.isDigit c = true) :
    IsPlain (Numeral.fractionText ds) := by
  cases ds with
  | nil => exact isPlain_nil
  | cons d ds => exact isPlain_cons.mpr ⟨by decide, isPlain_digits h⟩

theorem isPlain_exponentText {e : Option (Bool × List Char)}
    (h : ∀ x ∈ e, x.2 ≠ [] ∧ ∀ c ∈ x.2, Numeral.isDigit c = true) :
    IsPlain (Numeral.exponentText e) := by
  cases e with
  | none => exact isPlain_nil
  | some x =>
    obtain ⟨minus, ds⟩ := x
    have hds : IsPlain ds := isPlain_digits (h _ rfl).2
    cases minus <;> simp [Numeral.exponentText, isPlain_cons, hds]

theorem isPlain_numeral {n : Numeral} (h : n.Valid) : IsPlain n.text := by
  have hsign : IsPlain (if n.negative then ['-'] else []) := by
    cases n.negative <;> simp [isPlain_cons, isPlain_nil]
  have hwhole : IsPlain n.whole := isPlain_digits h.whole.isDigit
  exact isPlain_append.mpr ⟨hsign, isPlain_append.mpr ⟨hwhole, isPlain_append.mpr
    ⟨isPlain_fractionText h.fraction, isPlain_exponentText h.exponent⟩⟩⟩

theorem isPlain_escape_control : ∀ n < 32, IsPlain (escape (Char.ofNat n)) := by
  decide

theorem isPlain_escape (c : Char) : IsPlain (escape c) := by
  by_cases hc : c.toNat < 32
  · have h := isPlain_escape_control c.toNat hc
    rwa [Char.ofNat_toNat] at h
  · by_cases hq : c = '"'
    · rw [escape, if_pos hq]
      decide
    · by_cases hb : c = '\\'
      · rw [escape, if_neg hq, if_pos hb]
        decide
      · rw [escape, if_neg hq, if_neg hb, if_pos (by omega)]
        exact isPlain_cons.mpr ⟨by omega, isPlain_nil⟩

theorem isPlain_stringChars (s : String) : IsPlain (stringChars s) := by
  have htext : IsPlain (s.toList.flatMap escape) := by
    intro c hc
    obtain ⟨d, -, hd⟩ := List.mem_flatMap.mp hc
    exact isPlain_escape d c hd
  exact isPlain_append.mpr ⟨isPlain_cons.mpr ⟨by decide, htext⟩, by decide⟩

theorem isPlain_laterItems {xs : List Json} (h : ∀ x ∈ xs, IsPlain x.chars) :
    IsPlain (laterItems xs) := by
  induction xs with
  | nil => decide
  | cons x xs ih =>
    obtain ⟨hx, hxs⟩ := List.forall_mem_cons.mp h
    rw [laterItems]
    exact isPlain_append.mpr ⟨isPlain_cons.mpr ⟨by decide, hx⟩, ih hxs⟩

theorem isPlain_member {k : String} {v : Json} (h : IsPlain v.chars) :
    IsPlain (stringChars k ++ ':' :: v.chars) :=
  isPlain_append.mpr ⟨isPlain_stringChars k, isPlain_cons.mpr ⟨by decide, h⟩⟩

theorem isPlain_laterMembers {ms : List (String × Json)} (h : ∀ m ∈ ms, IsPlain m.2.chars) :
    IsPlain (laterMembers ms) := by
  induction ms with
  | nil => decide
  | cons m ms ih =>
    obtain ⟨k, v⟩ := m
    obtain ⟨hv, hms⟩ := List.forall_mem_cons.mp h
    rw [laterMembers]
    exact isPlain_append.mpr ⟨isPlain_cons.mpr ⟨by decide, isPlain_member hv⟩, ih hms⟩

theorem isPlain_chars (v : Json) : IsPlain v.chars := by
  induction v with
  | null => decide
  | bool b => cases b <;> decide
  | number n =>
    obtain ⟨m, hm, hchars⟩ := Numeral.exists_numberChars n
    rw [chars, hchars]
    exact isPlain_numeral hm
  | string s => exact isPlain_stringChars s
  | array items ih =>
    cases items with
    | nil => decide
    | cons x xs =>
      obtain ⟨hx, hxs⟩ := List.forall_mem_cons.mp ih
      rw [chars]
      exact isPlain_append.mpr ⟨isPlain_cons.mpr ⟨by decide, hx⟩, isPlain_laterItems hxs⟩
  | object members ih =>
    cases members with
    | nil => decide
    | cons m ms =>
      obtain ⟨k, v⟩ := m
      obtain ⟨hv, hms⟩ := List.forall_mem_cons.mp ih
      rw [chars]
      exact isPlain_append.mpr
        ⟨isPlain_cons.mpr ⟨by decide, isPlain_member hv⟩, isPlain_laterMembers hms⟩

end QuizService.Json
