import VaultRing.Proofs.NearestDouble

namespace VaultRing

namespace Fraction

def ofScientific (digits : Nat) (exponent : Int) : Fraction :=
  (ofNat digits).mul (power 10 exponent)

theorem value_ofScientific (digits : Nat) (exponent : Int) :
    (ofScientific digits exponent).value = digits * (10 : ℚ) ^ exponent := by
  rw [ofScientific, value_mul, value_ofNat, value_power, Nat.cast_ofNat]

theorem positive_ofScientific {digits : Nat} (h : 0 < digits) (exponent : Int) :
    (ofScientific digits exponent).Positive :=
  (positive_ofNat h).mul (positive_power (by decide) exponent)

theorem den_ofScientific (digits : Nat) (exponent : Int) : 0 < (ofScientific digits exponent).den :=
  Nat.mul_pos Nat.one_pos (positive_power (by decide) exponent).den

end Fraction

namespace Magnitude

open Fraction

variable {m : Nat} {q : Int} {a b : Fraction}

theorem readsBack_congr (hm : 0 < m) (ha : 0 < a.den) (hb : 0 < b.den) (h : a.value = b.value) :
    readsBack m q a = readsBack m q b := by
  rw [Bool.eq_iff_iff, readsBack_iff hm ha, readsBack_iff hm hb, h]

section Search

/-- One of the two neighbours is not farther away than half a step. -/
theorem exists_neighbour (tie : Tie) (ha : 0 < a.den) (k : Int) :
    ∃ d ∈ neighbours tie a k, |(a.div (power 10 k)).value - d| ≤ 1 / 2 := by
  obtain ⟨s, hs⟩ : ∃ s, s = a.div (power 10 k) := ⟨_, rfl⟩
  have hden : 0 < s.den := by
    rw [hs]
    exact Nat.mul_pos ha (positive_power (by decide) k).num
  have hvalue := value_eq hden
  have hx : (0 : ℚ) ≤ (s.num % s.den : Nat) / (s.den : ℚ) := by positivity
  have hx1 : (s.num % s.den : Nat) / (s.den : ℚ) < 1 :=
    (div_lt_one (Nat.cast_pos.mpr hden)).mpr (Nat.cast_lt.mpr (Nat.mod_lt _ hden))
  have hboth : s.num / s.den ∈ neighbours tie a k ∧ s.num / s.den + 1 ∈ neighbours tie a k := by
    cases tie <;> simp only [neighbours, ← hs] <;> split <;> simp
  rw [← hs]
  rcases le_or_gt ((s.num % s.den : Nat) / (s.den : ℚ)) (1 / 2) with hless | hmore
  · refine ⟨_, hboth.1, ?_⟩
    rw [hvalue, abs_le]
    constructor <;> linarith
  · refine ⟨_, hboth.2, ?_⟩
    rw [hvalue, abs_le]
    push_cast
    constructor <;> linarith

/-- At the seventeenth digit a neighbour reads back. -/
theorem exists_seventeen (tie : Tie) (h : Normal m q)
    (hlead : (10 : ℚ) ^ (fraction m q).floorLog10 ≤ m * 2 ^ q) :
    ∃ d ∈ neighbours tie (fraction m q) ((fraction m q).floorLog10 - 16),
      0 < d ∧ readsBack m q (ofScientific d ((fraction m q).floorLog10 - 16)) = true := by
  obtain ⟨k, hk⟩ : ∃ k, k = (fraction m q).floorLog10 - 16 := ⟨_, rfl⟩
  obtain ⟨d, hd, hnear⟩ := exists_neighbour tie (den_fraction m q) k
  have hunit : (0 : ℚ) < 10 ^ k := zpow_pos (by norm_num) k
  have hpower : (10 : ℚ) ^ (fraction m q).floorLog10 = 10 ^ 16 * 10 ^ k := by
    rw [show (fraction m q).floorLog10 = k + 16 by omega, zpow_add₀ (by norm_num), mul_comm]
    rfl
  have hscaled : ((fraction m q).div (power 10 k)).value * 10 ^ k = m * 2 ^ q := by
    rw [value_div, value_power, value_fraction, Nat.cast_ofNat]
    exact div_mul_cancel₀ _ hunit.ne'
  rw [hpower, ← hscaled] at hlead
  have hlarge := le_of_mul_le_mul_right hlead hunit
  obtain ⟨hnear_low, hnear_high⟩ := abs_le.mp hnear
  refine ⟨d, hk ▸ hd, ?_, ?_⟩
  · have hpos : (0 : ℚ) < d := by linarith
    exact_mod_cast hpos
  · rw [← hk]
    refine readsBack_of_near h (den_ofScientific d k) ?_
    rw [value_ofScientific, ← hscaled, ← sub_mul, abs_mul, abs_of_pos hunit, mul_right_comm]
    refine mul_le_mul_of_nonneg_right ?_ hunit.le
    rw [abs_sub_comm]
    linarith

theorem floorLog2_fraction (h : Normal m q) : (fraction m q).floorLog2 = q + 52 := by
  have hunit : (0 : ℚ) < 2 ^ q := zpow_pos two_pos q
  obtain ⟨hm_low, hm_high⟩ := h.casts
  have hlog : (fraction m q).floorLog2 - 52 = q := by
    apply floorLog2_of_binade (positive_fraction h.pos q)
    · rw [value_fraction]
      exact mul_le_mul_of_nonneg_right hm_low hunit.le
    · rw [value_fraction]
      exact mul_lt_mul_of_pos_right (by linarith) hunit
  omega

/-- What has been found reads back, in the range where the search begins at the right place. -/
theorem shortest_readsBack (tie : Tie) (h : Normal m q) (hlow : -150 ≤ q) (hhigh : q ≤ 48) :
    ∃ d k, shortest tie m q = (d, k) ∧ 0 < d ∧ -48 ≤ k ∧
      readsBack m q (ofScientific d k) = true := by
  have hlog := floorLog2_fraction h
  obtain ⟨hlead, hleast⟩ := floorLog10_le (positive_fraction h.pos q) (by omega) (by omega)
  rw [value_fraction] at hlead
  let found (k : Int) (d : Nat) : Option (Nat × Int) :=
    if d ≠ 0 && readsBack m q (ofScientific d k) then some (d, k) else none
  let grid (n : Nat) : Option (Nat × Int) :=
    (neighbours tie (fraction m q) ((fraction m q).floorLog10 - n)).findSome?
      (found ((fraction m q).floorLog10 - n))
  -- The search ends at seventeen digits if not before, and with digits that have been checked.
  have hsome : ((List.range 17).findSome? grid).isSome = true := by
    obtain ⟨d, hd, hpos, hback⟩ := exists_seventeen tie h hlead
    refine List.findSome?_isSome_iff.mpr ⟨16, by decide, List.findSome?_isSome_iff.mpr ⟨d, hd, ?_⟩⟩
    have hcondition : (d ≠ 0 && readsBack m q (ofScientific d ((fraction m q).floorLog10 - 16))) =
        true := by
      rw [hback, Bool.and_true, decide_eq_true_eq]
      exact hpos.ne'
    exact congrArg Option.isSome (if_pos hcondition)
  obtain ⟨⟨d, k⟩, hfound⟩ := Option.isSome_iff_exists.mp hsome
  refine ⟨d, k, congrArg (Option.getD · (0, 0)) hfound, ?_⟩
  obtain ⟨n, hn, hgrid⟩ := List.exists_of_findSome?_eq_some hfound
  obtain ⟨d', -, hd'⟩ := List.exists_of_findSome?_eq_some hgrid
  simp only [found, Option.ite_none_right_eq_some, Option.some.injEq, Prod.mk.injEq,
    Bool.and_eq_true, decide_eq_true_eq] at hd'
  obtain ⟨⟨hne, hback⟩, rfl, rfl⟩ := hd'
  have hn := List.mem_range.mp hn
  exact ⟨Nat.pos_of_ne_zero hne, by omega, hback⟩

end Search

section Decimals

theorem trimZeros_value (digits : Nat) (exponent : Int) (fuel : Nat) (h : 0 < digits) :
    ∃ d k, Binary64.trimZeros digits exponent fuel = (d, k) ∧ 0 < d ∧ exponent ≤ k ∧
      (ofScientific d k).value = (ofScientific digits exponent).value := by
  induction fuel generalizing digits exponent with
  | zero => exact ⟨digits, exponent, rfl, h, le_rfl, rfl⟩
  | succ fuel ih =>
    rw [Binary64.trimZeros]
    split
    · rename_i hzero
      obtain ⟨d, k, htrim, hpos, hle, hvalue⟩ := ih (digits / 10) (exponent + 1) (by omega)
      refine ⟨d, k, htrim, hpos, by omega, hvalue.trans ?_⟩
      have hdigits : (digits : ℚ) = (digits / 10 : Nat) * 10 := by
        exact_mod_cast (Nat.div_mul_cancel (Nat.dvd_of_mod_eq_zero hzero.2)).symm
      rw [value_ofScientific, value_ofScientific, hdigits, zpow_add_one₀ (by norm_num)]
      ring
    · exact ⟨digits, exponent, rfl, h, le_rfl, rfl⟩

theorem ofDecimal_eq {d : Nat} {k : Int} (hd : 0 < d) (hk : -400 ≤ k)
    (hvalue : (ofScientific d k).value < 10 ^ 200) :
    ofDecimal d k = nearest (ofScientific d k) := by
  obtain ⟨n, hn⟩ : ∃ n, n = d.log2 * 1233 / 4096 := ⟨_, rfl⟩
  have hguess : (d.log2 : Int) * 1233 / 4096 = n := by omega
  have hdigits : ((10 ^ n : Nat) : ℚ) ≤ d :=
    Nat.cast_le.mpr ((ten_pow_le_two_pow (by omega)).trans (Nat.log2_self_le hd.ne'))
  have hless : (n : Int) + k < 200 := by
    have hpower : (10 : ℚ) ^ ((n : Int) + k) < 10 ^ (200 : Int) := by
      refine lt_of_le_of_lt ?_ hvalue
      rw [value_ofScientific, zpow_add₀ (by norm_num), zpow_natCast]
      refine mul_le_mul_of_nonneg_right ?_ (zpow_pos (by norm_num) k).le
      exact_mod_cast hdigits
    exact (zpow_lt_zpow_iff_right₀ (by norm_num)).mp hpower
  rw [ofDecimal, hguess, if_neg (by omega), if_neg (by omega)]
  rfl

/-- Digits that read back are read as the double. -/
theorem ofDecimal_of_readsBack (h : Normal m q) (hq : q ≤ 48) {d : Nat} {k : Int} (hd : 0 < d)
    (hk : -400 ≤ k) (hback : readsBack m q (ofScientific d k) = true) :
    ofDecimal d k = .finite m q := by
  have hvalue : (ofScientific d k).value < 10 ^ 200 := by
    obtain ⟨-, hhigh, -⟩ := (readsBack_iff h.pos (den_ofScientific d k)).mp hback
    obtain ⟨-, hm⟩ := h.casts
    have hunit : (0 : ℚ) < 2 ^ q := zpow_pos two_pos q
    have hpower : (2 : ℚ) ^ q ≤ 2 ^ (48 : Int) := zpow_le_zpow_right₀ one_le_two hq
    calc (ofScientific d k).value ≤ (m + 1 / 2) * 2 ^ q := hhigh
      _ ≤ 2 ^ 53 * 2 ^ (48 : Int) := mul_le_mul (by linarith) hpower hunit.le (by positivity)
      _ < 10 ^ 200 := by norm_num
  rw [ofDecimal_eq hd hk hvalue]
  exact nearest_of_readsBack h (positive_ofScientific hd k) hback

end Decimals

end Magnitude

end VaultRing
