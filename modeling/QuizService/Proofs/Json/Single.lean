import QuizService.Proofs.Decimal.Shortest
import QuizService.Proofs.Json.ReadBack

namespace QuizService.Json.Numeral

open Decimal (Rounded double)

variable {n : Numeral} {m : Rounded double}

theorem gatherWhole_bounds {acc skipped : ℕ} (h : acc < wordLimit) (ds : List Char) :
    (gatherWhole acc skipped ds).1 < wordLimit ∧
      (gatherWhole acc skipped ds).2 ≤ skipped + ds.length := by
  induction ds generalizing acc skipped with
  | nil => exact ⟨h, le_rfl⟩
  | cons d ds ih =>
    rw [gatherWhole, List.length_cons]
    split
    · rename_i hfits
      have := @ih _ 0 hfits.2
      omega
    · have := @ih _ (skipped + 1) h
      omega

theorem gatherFraction_bounds {acc taken : ℕ} (h : acc < wordLimit) (ds : List Char) :
    (gatherFraction acc taken ds).1 < wordLimit ∧
      (gatherFraction acc taken ds).2 ≤ taken + ds.length := by
  induction ds generalizing acc taken with
  | nil => exact ⟨h, le_rfl⟩
  | cons d ds ih =>
    rw [gatherFraction, List.length_cons]
    split
    · rename_i hfits
      have := @ih _ (taken + 1) hfits
      omega
    · exact ⟨h, Nat.le_add_right _ _⟩

theorem ratio_tenPower? : ∀ k ≤ 270, ∃ b ∈ tenPower? k,
    b.ratio.den ≤ b.ratio.num ∧ b.ratio.num < 2 ^ 900 * b.ratio.den := by
  decide +kernel

theorem value_tenPower? {k : ℕ} (hk : k ≤ 270) :
    ∃ b, tenPower? k = some b ∧ 1 ≤ b.value ∧ b.value < 2 ^ 900 := by
  obtain ⟨b, hb, hleast, hgreatest⟩ := ratio_tenPower? k hk
  have hden : (0 : ℚ) < b.ratio.den := mod_cast Nat.pos_of_ne_zero b.den_ratio
  refine ⟨b, hb, ?_, ?_⟩
  · rw [← b.value_ratio, Decimal.Ratio.value, le_div_iff₀ hden, one_mul]
    exact_mod_cast hleast
  · rw [← b.value_ratio, Decimal.Ratio.value, div_lt_iff₀ hden]
    exact_mod_cast hgreatest

theorem scale?_of_lt (hm : m.value < 2 ^ 65) {e : ℤ} (he : e.natAbs ≤ 270) :
    ∃ v, scale? m e = some v := by
  rw [scale?]
  split_ifs with hzero hlarge hsign hsmall
  · exact ⟨_, rfl⟩
  · omega
  · obtain ⟨b, hb, -, hgreatest⟩ := value_tenPower? (k := e.toNat) (by omega)
    obtain ⟨v, hv⟩ := Decimal.mul?_of_lt hm hgreatest (by decide)
    exact ⟨v, by simp [hb, hv]⟩
  · omega
  · obtain ⟨b, hb, hleast, -⟩ := value_tenPower? he
    obtain ⟨v, hv⟩ := Decimal.div?_of_lt hm hleast (by decide)
    exact ⟨v, by simp [hb, hv]⟩

theorem double?_of_size_le (h : n.size ≤ 243) : ∃ x, n.double? = some x := by
  obtain ⟨hacc, hskipped⟩ := @gatherWhole_bounds 0 0 (by decide) n.whole
  obtain ⟨hacc', htaken⟩ := @gatherFraction_bounds _ 0 hacc n.fraction
  have hvalue :
      (Decimal.Ratio.mk (gatherFraction (gatherWhole 0 0 n.whole).1 0 n.fraction).1 1).value <
        2 ^ 64 := by
    have hword : (gatherFraction (gatherWhole 0 0 n.whole).1 0 n.fraction).1 < 2 ^ 64 := hacc'
    rw [Decimal.Ratio.value, Nat.cast_one, div_one]
    exact_mod_cast hword
  obtain ⟨m, hm, hmagnitude⟩ := Decimal.nearest?_of_lt hvalue one_ne_zero (by decide)
  have hexponent : (((gatherWhole 0 0 n.whole).2 : ℤ) -
      (gatherFraction (gatherWhole 0 0 n.whole).1 0 n.fraction).2 + power n.exponent).natAbs ≤
        270 := by
    unfold size at h
    omega
  obtain ⟨v, hv⟩ := scale?_of_lt hmagnitude hexponent
  exact ⟨.double ⟨n.negative, v⟩, by simp [double?, hm, hv]⟩

theorem value?_of_size_le (h : n.size ≤ 243) : ∃ x, n.value? = some x := by
  unfold value?
  split
  · dsimp only
    split
    · exact double?_of_size_le h
    · split
      · exact ⟨_, rfl⟩
      · exact double?_of_size_le h
  · exact double?_of_size_le h

theorem reread?_single (x : Decimal.Binary Decimal.single) :
    ∃ y, reread? (.single x) = some y := by
  obtain ⟨n, hn, htext, hsize⟩ := exists_render singleLayout x
  have hshort := Decimal.size_shortest x.magnitude
  obtain ⟨y, hy⟩ := value?_of_size_le (n := n) (by omega)
  refine ⟨y, ?_⟩
  rw [reread?, numberChars, htext, read?_text_alone hn]
  exact hy

end QuizService.Json.Numeral
