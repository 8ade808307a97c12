import QuizService.Decimal.Shortest
import QuizService.Proofs.Decimal.Binary

namespace QuizService.Decimal

theorem length_digits_le {n k : ℕ} (h : n < 10 ^ (k + 1)) : (digits n).length ≤ k + 1 := by
  induction k generalizing n with
  | zero =>
    rw [digits, if_pos (by omega)]
    rfl
  | succ k ih =>
    rw [digits]
    split
    · simp
    · have hdiv : n / 10 < 10 ^ (k + 1) := by
        rw [Nat.div_lt_iff_lt_mul (by decide), ← pow_succ]
        exact h
      have := ih hdiv
      simp only [List.length_append, List.length_singleton]
      omega

theorem length_digits_pos (n : ℕ) : 0 < (digits n).length := by
  rw [digits]
  split <;> simp

theorem length_digits_of_le {n : ℕ} (h : 10 ≤ n) :
    (digits n).length = (digits (n / 10)).length + 1 := by
  rw [digits, if_neg (by omega), List.length_append, List.length_singleton]

theorem Scientific.coefficient_trim_le (c : ℕ) (scale : ℤ) : (trim c scale).coefficient ≤ c := by
  fun_induction trim c scale with
  | case1 c scale h ih => omega
  | case2 c scale h => exact le_rfl

theorem Scientific.lead_trim (c : ℕ) (scale : ℤ) : (trim c scale).lead = lead ⟨c, scale⟩ := by
  fun_induction trim c scale with
  | case1 c scale h ih =>
    have hlength := length_digits_of_le (n := c) (by omega)
    rw [ih]
    simp only [lead]
    omega
  | case2 c scale h => rfl

namespace Neighbourhood

variable {n : Neighbourhood} {c count budget : ℕ} {s : Scientific}

theorem le_of_onGrid? (h : n.onGrid? = some c) : c ≤ n.exact / n.den + 1 := by
  simp only [onGrid?] at h
  split at h
  · contradiction
  · cases h
    omega
  · cases h
    omega
  · split_ifs at h <;> cases h <;> omega

theorem measured_le (n : Neighbourhood) {scale : ℤ} (h : -62 ≤ scale) :
    (n.measured scale).exact / (n.measured scale).den ≤ n.exact * 10 ^ 62 := by
  cases scale with
  | ofNat k =>
    exact (Nat.div_le_self _ _).trans (Nat.le_mul_of_pos_right _ (by positivity))
  | negSucc k =>
    have hpow : tenTo (k + 1) ≤ 10 ^ 62 := Nat.pow_le_pow_right (by decide) (by omega)
    exact (Nat.div_le_self _ _).trans (Nat.mul_le_mul_left _ hpow)

theorem search_bounds (hexact : n.exact < 10 ^ 39) (hleast : -46 ≤ n.leading)
    (hgreatest : n.leading ≤ 38) (hpos : 1 ≤ count) (hcount : count + budget ≤ 18)
    (h : n.search count budget = some s) :
    s.coefficient < 10 ^ 102 ∧ -62 ≤ s.scale ∧ s.scale ≤ 38 := by
  induction budget generalizing count with
  | zero => contradiction
  | succ budget ih =>
    simp only [search] at h
    split at h
    · rename_i c hc
      obtain rfl := Option.some.inj h
      have hscale : -62 ≤ n.leading - (count : ℤ) + 1 := by omega
      have hgrid := (le_of_onGrid? hc).trans (Nat.add_le_add_right (n.measured_le hscale) 1)
      refine ⟨?_, hscale, by dsimp only; omega⟩
      dsimp only
      omega
    · exact ih (by omega) (by omega) h

end Neighbourhood

variable (m : Rounded single)

theorem unit_bounds :
    0 < (Magnitude.mk 1 (m.exponent - 2)).ratio.num ∧
      (Magnitude.mk 1 (m.exponent - 2)).ratio.num ≤ 2 ^ 102 ∧
      (Magnitude.mk 1 (m.exponent - 2)).ratio.den ≤ 2 ^ 151 := by
  have hleast : -149 ≤ m.exponent := m.least
  have hgreatest : m.exponent ≤ 104 := m.greatest
  unfold Magnitude.ratio
  cases he : -(m.exponent - 2) with
  | ofNat k =>
    have hk : (k : ℤ) = -(m.exponent - 2) := he.symm
    have hpow : 2 ^ k ≤ 2 ^ 151 := Nat.pow_le_pow_right (by decide) (by omega)
    refine ⟨one_pos, Nat.one_le_two_pow, ?_⟩
    simpa [Ratio.shift] using hpow
  | negSucc k =>
    have hpow : 2 ^ (k + 1) ≤ 2 ^ 102 := Nat.pow_le_pow_right (by decide) (by omega)
    refine ⟨?_, ?_, Nat.one_le_two_pow⟩
    · simp [Ratio.shift]
    · simpa [Ratio.shift] using hpow

theorem exact_bounds (hm : m.significand ≠ 0) :
    0 < (single.neighbourhood m.toMagnitude).exact ∧
      (single.neighbourhood m.toMagnitude).exact < 10 ^ 39 := by
  obtain ⟨hpos, hnum, -⟩ := unit_bounds m
  have hbits : m.significand < 2 ^ 24 := m.fits
  have hsignificand : 4 * m.significand ≤ 2 ^ 26 := by omega
  refine ⟨by simp only [Format.neighbourhood]; positivity, ?_⟩
  calc 4 * m.significand * (Magnitude.mk 1 (m.exponent - 2)).ratio.num
      ≤ 2 ^ 26 * 2 ^ 102 := Nat.mul_le_mul hsignificand hnum
    _ < 10 ^ 39 := by norm_num

theorem den_neighbourhood_le : (single.neighbourhood m.toMagnitude).den ≤ 2 ^ 151 :=
  (unit_bounds m).2.2

theorem leading_bounds (hm : m.significand ≠ 0) :
    -46 ≤ (single.neighbourhood m.toMagnitude).leading ∧
      (single.neighbourhood m.toMagnitude).leading ≤ 38 := by
  obtain ⟨hpos, hexact⟩ := exact_bounds m hm
  have hden := den_neighbourhood_le m
  generalize single.neighbourhood m.toMagnitude = n at *
  simp only [Neighbourhood.leading]
  split
  · have hquotient : n.exact / n.den < 10 ^ (38 + 1) := (Nat.div_le_self _ _).trans_lt hexact
    have hlength := length_digits_le hquotient
    omega
  · have hinverse : (n.den + n.exact - 1) / n.exact - 1 < 10 ^ (45 + 1) := by
      have := Nat.div_le_self (n.den + n.exact - 1) n.exact
      omega
    have hlength := length_digits_le hinverse
    have hneg (k : ℕ) : Int.negOfNat k = -(k : ℤ) := Int.negOfNat_eq
    rw [hneg]
    omega

theorem lead_bounds {s : Scientific} (hcoefficient : s.coefficient < 10 ^ 102)
    (hleast : -62 ≤ s.scale) (hgreatest : s.scale ≤ 38) : -62 ≤ s.lead ∧ s.lead ≤ 139 := by
  have hlength := length_digits_le (k := 101) hcoefficient
  have hpos := length_digits_pos s.coefficient
  simp only [Scientific.lead]
  omega

theorem size_le {s : Scientific} (hcoefficient : s.coefficient < 10 ^ 102)
    (hlead : -62 ≤ s.lead ∧ s.lead ≤ 139) : s.size ≤ 241 := by
  have hlength := length_digits_le (k := 101) hcoefficient
  simp only [Scientific.size]
  omega

theorem size_trim_le {s : Scientific} (hcoefficient : s.coefficient < 10 ^ 102)
    (hleast : -62 ≤ s.scale) (hgreatest : s.scale ≤ 38) :
    (Scientific.trim s.coefficient s.scale).size ≤ 241 := by
  apply size_le
  · exact (Scientific.coefficient_trim_le _ _).trans_lt hcoefficient
  · rw [Scientific.lead_trim]
    exact lead_bounds hcoefficient hleast hgreatest

theorem size_shortest : (single.shortest m.toMagnitude).size ≤ 241 := by
  unfold Format.shortest
  split
  · exact size_le (by norm_num) (lead_bounds (by norm_num) (by decide) (by decide))
  · rename_i hm
    obtain ⟨hleast, hgreatest⟩ := leading_bounds m hm
    obtain ⟨-, hexact⟩ := exact_bounds m hm
    split
    · rename_i s hs
      obtain ⟨hcoefficient, hscale, hscale'⟩ :=
        Neighbourhood.search_bounds hexact hleast hgreatest le_rfl le_rfl hs
      exact size_trim_le hcoefficient hscale hscale'
    · have hsignificand : m.significand < 2 ^ 24 := m.fits
      have hcoefficient : m.significand < 10 ^ 102 := hsignificand.trans (by norm_num)
      have hscale : (-62 : ℤ) ≤ 0 ∧ (0 : ℤ) ≤ 38 := by decide
      exact size_le hcoefficient (lead_bounds hcoefficient hscale.1 hscale.2)

end QuizService.Decimal
