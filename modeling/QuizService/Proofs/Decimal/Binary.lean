import Mathlib.Algebra.Order.Field.Power
import Mathlib.Algebra.Order.Field.Rat
import Mathlib.Data.Nat.Cast.Order.Field
import Mathlib.Tactic.Linarith
import Mathlib.Tactic.Positivity
import Mathlib.Tactic.Ring
import QuizService.Decimal.Binary

namespace QuizService.Decimal

def Ratio.value (r : Ratio) : ℚ :=
  r.num / r.den

def Magnitude.value (m : Magnitude) : ℚ :=
  m.significand * 2 ^ m.exponent

variable {f : Format} {r : Ratio} {a b : Rounded double} {j k : ℕ}

theorem Ratio.value_shift (r : Ratio) (e : ℤ) : (r.shift e).value = r.value / 2 ^ e := by
  cases e with
  | ofNat k => simp [shift, value, div_div]
  | negSucc k => simp [shift, value, zpow_negSucc, div_eq_mul_inv, mul_right_comm]

theorem Ratio.den_shift (r : Ratio) (e : ℤ) (h : r.den ≠ 0) : (r.shift e).den ≠ 0 := by
  cases e with
  | ofNat k => simp [shift, h]
  | negSucc k => exact h

theorem Magnitude.value_ratio (m : Magnitude) : m.ratio.value = m.value := by
  rw [ratio, Ratio.value_shift]
  simp [Ratio.value, value]

theorem Magnitude.den_ratio (m : Magnitude) : m.ratio.den ≠ 0 :=
  Ratio.den_shift _ _ one_ne_zero

theorem Magnitude.value_nonneg (m : Magnitude) : 0 ≤ m.value := by
  unfold value
  positivity

theorem Ratio.nearestNat_le (r : Ratio) : r.nearestNat ≤ r.num / r.den + 1 := by
  simp only [nearestNat]
  split_ifs <;> omega

theorem Ratio.nearestNat_le_value (r : Ratio) : (r.nearestNat : ℚ) ≤ r.value + 1 := by
  have hnat : (r.nearestNat : ℚ) ≤ (r.num / r.den : ℕ) + 1 := mod_cast r.nearestNat_le
  have hdiv : ((r.num / r.den : ℕ) : ℚ) ≤ r.value := Nat.cast_div_le
  linarith

theorem Ratio.num_lt_of_value_lt (h : r.value < 2 ^ k) (hden : r.den ≠ 0) :
    r.num < 2 ^ k * r.den := by
  have hpos : (0 : ℚ) < r.den := mod_cast Nat.pos_of_ne_zero hden
  rw [value, div_lt_iff₀ hpos] at h
  exact_mod_cast h

theorem Ratio.log2_num_le (h : r.num < 2 ^ k * r.den) : r.num.log2 ≤ k + r.den.log2 := by
  by_cases hnum : r.num = 0
  · simp [hnum]
  · have hden : r.den < 2 ^ (r.den.log2 + 1) := Nat.lt_log2_self
    have hlt : r.num < 2 ^ (k + (r.den.log2 + 1)) := by
      rw [pow_add]
      exact h.trans (Nat.mul_lt_mul_of_pos_left hden (by positivity))
    have := (Nat.log2_lt hnum).mpr hlt
    omega

theorem Format.unit_le (f : Format) (h : r.num < 2 ^ k * r.den) :
    f.unit r ≤ max f.lowest (k - f.precision + 1) := by
  have hlog := Ratio.log2_num_le h
  simp only [unit]
  split_ifs <;> omega

theorem value_carry (p : ℕ) (e : ℤ) (hp : 0 < p) :
    (Magnitude.mk (Nat.pow 2 (p - 1)) (e + 1)).value = (Magnitude.mk (Nat.pow 2 p) e).value := by
  obtain ⟨p, rfl⟩ : ∃ q, p = q + 1 := ⟨p - 1, by omega⟩
  simp only [Magnitude.value, Nat.pow_eq, Nat.add_sub_cancel, Nat.cast_pow, Nat.cast_ofNat]
  rw [zpow_add_one₀ two_ne_zero, pow_succ]
  ring

theorem Ratio.value_rounded_le (r : Ratio) (e : ℤ) :
    (Magnitude.mk (r.shift e).nearestNat e).value ≤ r.value + 2 ^ e := by
  have hpos : (0 : ℚ) < 2 ^ e := by positivity
  have hround := (r.shift e).nearestNat_le_value
  rw [value_shift] at hround
  calc ((r.shift e).nearestNat : ℚ) * 2 ^ e
      ≤ (r.value / 2 ^ e + 1) * 2 ^ e := by gcongr
    _ = r.value + 2 ^ e := by rw [add_mul, div_mul_cancel₀ _ hpos.ne', one_mul]

theorem Ratio.value_lt_log2 (hden : r.den ≠ 0) :
    r.value < 2 ^ ((r.num.log2 : ℤ) - r.den.log2 + 1) := by
  have hnum : (r.num : ℚ) < 2 ^ (r.num.log2 + 1) := mod_cast Nat.lt_log2_self
  have hle : (2 : ℚ) ^ r.den.log2 ≤ r.den := mod_cast Nat.log2_self_le hden
  have hpow : (2 : ℚ) ^ ((r.num.log2 : ℤ) - r.den.log2 + 1) =
      2 ^ (r.num.log2 + 1) / 2 ^ r.den.log2 := by
    rw [sub_add_eq_add_sub, zpow_sub₀ two_ne_zero, zpow_natCast]
    norm_cast
  rw [hpow, value]
  exact div_lt_div₀ hnum hle (by positivity) (by positivity)

theorem Ratio.value_lt_of_div_lt {n : ℕ} (h : r.num / r.den < n) (hden : r.den ≠ 0) :
    r.value < n := by
  have hpos : (0 : ℚ) < r.den := mod_cast Nat.pos_of_ne_zero hden
  rw [value, div_lt_iff₀ hpos]
  exact_mod_cast (Nat.div_lt_iff_lt_mul (Nat.pos_of_ne_zero hden)).mp h

theorem Format.value_shift_unit (f : Format) (hden : r.den ≠ 0) :
    (r.shift (f.unit r)).value < 2 ^ f.precision := by
  have hmono {e : ℤ} (h : (r.shift e).value < 2 ^ f.precision) (he : e ≤ f.unit r) :
      (r.shift (f.unit r)).value < 2 ^ f.precision := by
    have hpow : (2 : ℚ) ^ e ≤ 2 ^ f.unit r := zpow_le_zpow_right₀ one_le_two he
    have hnonneg : 0 ≤ r.value := by
      unfold Ratio.value
      positivity
    rw [Ratio.value_shift] at h ⊢
    exact (div_le_div_of_nonneg_left hnonneg (by positivity) hpow).trans_lt h
  generalize hg : (r.num.log2 : ℤ) - r.den.log2 - f.precision = g
  by_cases hfull : Nat.pow 2 f.precision ≤ (r.shift g).num / (r.shift g).den
  · have hunit : g + 1 ≤ f.unit r := by
      simp only [unit, hg, if_pos hfull]
      split_ifs <;> omega
    refine hmono ?_ hunit
    have hexponent : (r.num.log2 : ℤ) - r.den.log2 + 1 = f.precision + (g + 1) := by omega
    have hvalue := Ratio.value_lt_log2 hden
    rw [hexponent, zpow_add₀ two_ne_zero, zpow_natCast] at hvalue
    rwa [Ratio.value_shift, div_lt_iff₀ (by positivity)]
  · have hunit : g ≤ f.unit r := by
      simp only [unit, hg, if_neg hfull]
      split_ifs <;> omega
    refine hmono ?_ hunit
    have hvalue := Ratio.value_lt_of_div_lt (not_le.mp hfull) (r.den_shift g hden)
    exact_mod_cast hvalue

theorem Ratio.nearestNat_le_of_lt {n : ℕ} (h : r.value < n) : r.nearestNat ≤ n := by
  have hdiv : ((r.num / r.den : ℕ) : ℚ) ≤ r.value := Nat.cast_div_le
  have hlt : r.num / r.den < n := mod_cast hdiv.trans_lt h
  exact r.nearestNat_le.trans hlt

theorem nearest?_of_lt (h : r.value < 2 ^ k) (hden : r.den ≠ 0) (hk : k ≤ 1000) :
    ∃ m, double.nearest? r = some m ∧ m.value < 2 ^ (k + 1) := by
  have hunit : double.unit r ≤ max (-1074 : ℤ) (k - 53 + 1) :=
    double.unit_le (Ratio.num_lt_of_value_lt h hden)
  have hhighest : double.unit r + 1 ≤ double.highest := by
    dsimp only [double] at hunit ⊢
    omega
  have hpow : (2 : ℚ) ^ double.unit r ≤ 2 ^ k := by
    rw [← zpow_natCast]
    exact zpow_le_zpow_right₀ one_le_two (by omega)
  have hvalue : (Magnitude.mk (r.shift (double.unit r)).nearestNat (double.unit r)).value <
      2 ^ (k + 1) := by
    have hround := r.value_rounded_le (double.unit r)
    rw [pow_succ]
    linarith
  have hbits : (r.shift (double.unit r)).nearestNat ≤ Nat.pow 2 double.precision :=
    Ratio.nearestNat_le_of_lt (mod_cast double.value_shift_unit hden)
  simp only [Format.nearest?]
  by_cases hzero : (r.shift (double.unit r)).nearestNat = 0
  · refine ⟨double.zero, if_pos hzero, ?_⟩
    simp [Magnitude.value, Format.zero]
  · rw [if_neg hzero]
    by_cases hfits : (r.shift (double.unit r)).nearestNat < Nat.pow 2 double.precision
    · rw [dif_pos hfits, dif_pos (by omega)]
      exact ⟨_, rfl, hvalue⟩
    · have hcarry := le_antisymm hbits (not_lt.mp hfits)
      rw [dif_neg hfits, dif_pos hhighest]
      refine ⟨_, rfl, ?_⟩
      rw [value_carry _ _ (by decide), ← hcarry]
      exact hvalue

theorem mul?_of_lt (ha : a.value < 2 ^ j) (hb : b.value < 2 ^ k) (hjk : j + k ≤ 1000) :
    ∃ m, double.mul? a b = some m := by
  have hvalue : (Ratio.mk (a.ratio.num * b.ratio.num) (a.ratio.den * b.ratio.den)).value =
      a.value * b.value := by
    rw [← a.value_ratio, ← b.value_ratio]
    simp [Ratio.value, div_mul_div_comm]
  have hlt : a.value * b.value < 2 ^ (j + k) := by
    rw [pow_add]
    exact mul_lt_mul'' ha hb a.value_nonneg b.value_nonneg
  obtain ⟨m, hm, -⟩ := nearest?_of_lt (hvalue ▸ hlt) (mul_ne_zero a.den_ratio b.den_ratio) hjk
  exact ⟨m, hm⟩

theorem div?_of_lt (ha : a.value < 2 ^ k) (hb : 1 ≤ b.value) (hk : k ≤ 1000) :
    ∃ m, double.div? a b = some m := by
  have hvalue : (Ratio.mk (a.ratio.num * b.ratio.den) (a.ratio.den * b.ratio.num)).value =
      a.value / b.value := by
    rw [← a.value_ratio, ← b.value_ratio]
    simp [Ratio.value, div_div_div_eq]
  have hnum : b.ratio.num ≠ 0 := by
    intro hzero
    rw [← b.value_ratio, Ratio.value, hzero] at hb
    norm_num at hb
  have hlt : a.value / b.value < 2 ^ k := (div_le_self a.value_nonneg hb).trans_lt ha
  obtain ⟨m, hm, -⟩ := nearest?_of_lt (hvalue ▸ hlt) (mul_ne_zero a.den_ratio hnum) hk
  exact ⟨m, hm⟩

end QuizService.Decimal
