import Mathlib.Algebra.Order.Field.Power
import Mathlib.Data.Nat.Log
import Mathlib.Data.Rat.Cast.Order
import Mathlib.Tactic.FieldSimp
import Mathlib.Tactic.Linarith
import Mathlib.Tactic.NormNum
import Mathlib.Tactic.Positivity
import Mathlib.Tactic.Ring
import VaultRing.Binary64

namespace VaultRing.Fraction

variable {a b : Fraction}

def value (a : Fraction) : ℚ := a.num / a.den

structure Positive (a : Fraction) : Prop where
  num : 0 < a.num
  den : 0 < a.den

section Arithmetic

theorem positive_of_value (hden : 0 < a.den) (h : 0 < a.value) : a.Positive := by
  refine ⟨Nat.pos_of_ne_zero fun hzero => ?_, hden⟩
  rw [value, hzero, Nat.cast_zero, zero_div] at h
  exact lt_irrefl 0 h

theorem value_ofNat (n : Nat) : (ofNat n).value = n := by simp [ofNat, value]

theorem value_add (ha : 0 < a.den) (hb : 0 < b.den) : (a.add b).value = a.value + b.value := by
  have ha : (a.den : ℚ) ≠ 0 := Nat.cast_ne_zero.mpr ha.ne'
  have hb : (b.den : ℚ) ≠ 0 := Nat.cast_ne_zero.mpr hb.ne'
  simp only [add, value, Nat.cast_add, Nat.cast_mul]
  field_simp

theorem value_mul (a b : Fraction) : (a.mul b).value = a.value * b.value := by
  simp only [mul, value, Nat.cast_mul]
  exact mul_div_mul_comm _ _ _ _

theorem value_div (a b : Fraction) : (a.div b).value = a.value / b.value := by
  simp only [div, value, Nat.cast_mul]
  exact (div_div_div_eq _ _ _ _).symm

theorem value_power (base : Nat) (e : Int) : (power base e).value = (base : ℚ) ^ e := by
  unfold power
  split
  · rename_i h
    obtain ⟨n, rfl⟩ := Int.eq_ofNat_of_zero_le h
    simp [value, Nat.pow_eq]
  · rename_i h
    obtain ⟨n, rfl⟩ := Int.exists_eq_neg_ofNat (Int.le_of_not_le h)
    simp [value, Nat.pow_eq]

theorem positive_ofNat {n : Nat} (hn : 0 < n) : (ofNat n).Positive := ⟨hn, Nat.one_pos⟩

theorem positive_power {base : Nat} (hbase : 0 < base) (e : Int) : (power base e).Positive := by
  unfold power
  split
  · exact ⟨Nat.pow_pos hbase, Nat.one_pos⟩
  · exact ⟨Nat.one_pos, Nat.pow_pos hbase⟩

theorem Positive.mul (ha : a.Positive) (hb : b.Positive) : (a.mul b).Positive :=
  ⟨Nat.mul_pos ha.num hb.num, Nat.mul_pos ha.den hb.den⟩

theorem Positive.div (ha : a.Positive) (hb : b.Positive) : (a.div b).Positive :=
  ⟨Nat.mul_pos ha.num hb.den, Nat.mul_pos ha.den hb.num⟩

end Arithmetic

section Comparison

theorem le_iff (ha : 0 < a.den) (hb : 0 < b.den) : a.le b = true ↔ a.value ≤ b.value := by
  have ha : (0 : ℚ) < a.den := Nat.cast_pos.mpr ha
  have hb : (0 : ℚ) < b.den := Nat.cast_pos.mpr hb
  rw [le, decide_eq_true_eq, value, value, div_le_div_iff₀ ha hb]
  norm_cast

theorem lt_iff (ha : 0 < a.den) (hb : 0 < b.den) : a.lt b = true ↔ a.value < b.value := by
  have ha : (0 : ℚ) < a.den := Nat.cast_pos.mpr ha
  have hb : (0 : ℚ) < b.den := Nat.cast_pos.mpr hb
  rw [lt, decide_eq_true_eq, value, value, div_lt_div_iff₀ ha hb]
  norm_cast

end Comparison

section Rounding

theorem value_eq (ha : 0 < a.den) :
    a.value = (a.num / a.den : Nat) + (a.num % a.den : Nat) / (a.den : ℚ) := by
  have hden : (a.den : ℚ) ≠ 0 := Nat.cast_ne_zero.mpr ha.ne'
  have hcut : (a.num : ℚ) = a.den * (a.num / a.den : Nat) + (a.num % a.den : Nat) := by
    exact_mod_cast (Nat.div_add_mod a.num a.den).symm
  rw [value, hcut]
  field_simp

theorem round_cases (ha : 0 < a.den) :
    ∃ (q : Nat) (x : ℚ), a.value = q + x ∧ 0 ≤ x ∧ x < 1 ∧
      (x < 1 / 2 ∧ a.round = q ∨ 1 / 2 < x ∧ a.round = q + 1 ∨
        x = 1 / 2 ∧ a.round = q + q % 2) := by
  have hden : (0 : ℚ) < a.den := Nat.cast_pos.mpr ha
  have hless : ((a.num % a.den : Nat) : ℚ) < a.den := Nat.cast_lt.mpr (Nat.mod_lt _ ha)
  refine ⟨a.num / a.den, _, value_eq ha, by positivity, (div_lt_one hden).mpr hless, ?_⟩
  unfold round
  dsimp only
  rcases Nat.lt_trichotomy (2 * (a.num % a.den)) a.den with h | h | h
  · refine .inl ⟨?_, if_pos h⟩
    rw [div_lt_div_iff₀ hden two_pos]
    exact_mod_cast (by omega : a.num % a.den * 2 < 1 * a.den)
  · refine .inr (.inr ⟨?_, ?_⟩)
    · rw [div_eq_div_iff hden.ne' two_ne_zero]
      exact_mod_cast (by omega : a.num % a.den * 2 = 1 * a.den)
    · rw [if_neg h.not_lt, if_neg h.not_gt]
  · refine .inr (.inl ⟨?_, ?_⟩)
    · rw [div_lt_div_iff₀ two_pos hden]
      exact_mod_cast (by omega : 1 * a.den < a.num % a.den * 2)
    · rw [if_neg h.not_gt, if_pos h]

theorem round_near (ha : 0 < a.den) : |a.value - a.round| ≤ 1 / 2 := by
  obtain ⟨q, x, hval, hx, hx1, ⟨hless, hround⟩ | ⟨hmore, hround⟩ | ⟨rfl, hround⟩⟩ := round_cases ha
  · rw [hval, hround, abs_le]
    constructor <;> linarith
  · rw [hval, hround, abs_le]
    push_cast
    constructor <;> linarith
  · rw [hval, hround, abs_le]
    have hmod : ((q % 2 : Nat) : ℚ) ≤ 1 := by
      exact_mod_cast Nat.le_of_lt_succ (Nat.mod_lt q two_pos)
    push_cast
    have hmod' : (0 : ℚ) ≤ ((q % 2 : Nat) : ℚ) := Nat.cast_nonneg _
    constructor <;> linarith

/-- Halfway between two numbers the even one is taken. -/
theorem round_eq (ha : 0 < a.den) {m : Nat} (hlow : (m : ℚ) - 1 / 2 ≤ a.value)
    (hhigh : a.value ≤ m + 1 / 2)
    (hodd : m % 2 = 1 → (m : ℚ) - 1 / 2 < a.value ∧ a.value < m + 1 / 2) : a.round = m := by
  obtain ⟨q, x, hval, hx, hx1, ⟨hless, hround⟩ | ⟨hmore, hround⟩ | ⟨rfl, hround⟩⟩ := round_cases ha
  · have hle : (q : ℚ) < m + 1 := by linarith
    have hge : (m : ℚ) < q + 1 := by linarith
    norm_cast at hle hge
    omega
  · have hle : (q : ℚ) < m := by linarith
    have hge : (m : ℚ) < q + 2 := by linarith
    norm_cast at hle hge
    omega
  · have hle : (q : ℚ) ≤ m := by linarith
    have hge : (m : ℚ) ≤ q + 1 := by linarith
    norm_cast at hle hge
    have heven : m % 2 = 0 := by
      by_contra hne
      obtain ⟨hlow', hhigh'⟩ := hodd (by omega)
      have hle' : (q : ℚ) < m := by linarith
      have hge' : (m : ℚ) < q + 1 := by linarith
      norm_cast at hle' hge'
      omega
    omega

end Rounding

section Logarithms

/-- The lengths of numerator and denominator leave two possible powers. -/
theorem value_bounds (ha : a.Positive) :
    (2 : ℚ) ^ ((a.num.log2 : Int) - a.den.log2 - 1) < a.value ∧
      a.value < (2 : ℚ) ^ ((a.num.log2 : Int) - a.den.log2 + 1) := by
  have hden : (0 : ℚ) < a.den := Nat.cast_pos.mpr ha.den
  have hnum_low : ((2 : ℚ) ^ (a.num.log2 : Int)) ≤ a.num := by
    exact_mod_cast Nat.log2_self_le ha.num.ne'
  have hnum_high : (a.num : ℚ) < (2 : ℚ) ^ ((a.num.log2 : Int) + 1) := by
    exact_mod_cast Nat.lt_log2_self (n := a.num)
  have hden_low : ((2 : ℚ) ^ (a.den.log2 : Int)) ≤ a.den := by
    exact_mod_cast Nat.log2_self_le ha.den.ne'
  have hden_high : (a.den : ℚ) < (2 : ℚ) ^ ((a.den.log2 : Int) + 1) := by
    exact_mod_cast Nat.lt_log2_self (n := a.den)
  constructor
  · rw [value, lt_div_iff₀ hden]
    calc (2 : ℚ) ^ ((a.num.log2 : Int) - a.den.log2 - 1) * a.den
        < (2 : ℚ) ^ ((a.num.log2 : Int) - a.den.log2 - 1) * (2 : ℚ) ^ ((a.den.log2 : Int) + 1) := by
          gcongr
      _ = (2 : ℚ) ^ (a.num.log2 : Int) := by
          rw [← zpow_add₀ two_ne_zero]
          congr 1
          omega
      _ ≤ a.num := hnum_low
  · rw [value, div_lt_iff₀ hden]
    calc (a.num : ℚ) < (2 : ℚ) ^ ((a.num.log2 : Int) + 1) := hnum_high
      _ = (2 : ℚ) ^ ((a.num.log2 : Int) - a.den.log2 + 1) * (2 : ℚ) ^ (a.den.log2 : Int) := by
          rw [← zpow_add₀ two_ne_zero]
          congr 1
          omega
      _ ≤ (2 : ℚ) ^ ((a.num.log2 : Int) - a.den.log2 + 1) * a.den := by gcongr

theorem floorLog2_spec (ha : a.Positive) :
    (2 : ℚ) ^ a.floorLog2 ≤ a.value ∧ a.value < (2 : ℚ) ^ (a.floorLog2 + 1) := by
  obtain ⟨hlow, hhigh⟩ := value_bounds ha
  have hle := le_iff (positive_power two_pos ((a.num.log2 : Int) - a.den.log2)).den ha.den
  rw [value_power, Nat.cast_ofNat] at hle
  unfold floorLog2
  dsimp only
  split
  · rename_i h
    exact ⟨hle.mp h, hhigh⟩
  · rename_i h
    rw [sub_add_cancel]
    exact ⟨hlow.le, lt_of_not_ge (mt hle.mpr h)⟩

theorem le_floorLog2 (ha : a.Positive) {e : Int} (h : (2 : ℚ) ^ e ≤ a.value) : e ≤ a.floorLog2 := by
  have := (zpow_lt_zpow_iff_right₀ one_lt_two).mp (h.trans_lt (floorLog2_spec ha).2)
  omega

theorem floorLog2_lt (ha : a.Positive) {e : Int} (h : a.value < (2 : ℚ) ^ e) : a.floorLog2 < e :=
  (zpow_lt_zpow_iff_right₀ one_lt_two).mp ((floorLog2_spec ha).1.trans_lt h)

theorem floorLog2_eq (ha : a.Positive) {e : Int} (hlow : (2 : ℚ) ^ e ≤ a.value)
    (hhigh : a.value < (2 : ℚ) ^ (e + 1)) : a.floorLog2 = e :=
  le_antisymm (Int.le_of_lt_add_one (floorLog2_lt ha hhigh)) (le_floorLog2 ha hlow)

/-- Twelve hundred and thirty-three of 4096 is less than the decimal logarithm of two. -/
theorem ten_pow_le_two_pow {k n : Nat} (h : 4096 * k ≤ 1233 * n) : 10 ^ k ≤ 2 ^ n := by
  -- The one comparison of numbers; both sides are raised to the power 4096 to come to it.
  have hbase : (10 ^ 137) ^ 9 ≤ (2 ^ 64) ^ 64 := by decide +kernel
  have hpowers : (10 ^ k) ^ 4096 ≤ (2 ^ n) ^ 4096 :=
    calc (10 ^ k) ^ 4096 = 10 ^ (4096 * k) := by rw [← pow_mul, Nat.mul_comm]
      _ ≤ 10 ^ (1233 * n) := Nat.pow_le_pow_right (by decide) h
      _ = ((10 ^ 137) ^ 9) ^ n := by
          rw [← pow_mul, ← pow_mul]
          congr 1
          omega
      _ ≤ ((2 ^ 64) ^ 64) ^ n := Nat.pow_le_pow_left hbase n
      _ = (2 ^ n) ^ 4096 := by
          rw [← pow_mul, ← pow_mul, ← pow_mul]
          congr 1
          omega
  have hexponent : 4096 ≠ 0 := by decide
  exact (pow_le_pow_iff_left₀ (Nat.zero_le _) (Nat.zero_le _) hexponent).mp hpowers

theorem ten_power_le_two_power : ∀ n : Nat, n < 201 →
    le (power 10 (Int.fdiv (((n : Int) - 100) * 1233) 4096 - 1)) (power 2 ((n : Int) - 100)) =
      true := by
  decide +kernel

/-- Where the logarithm in base two is small, the one in base ten is at most the true one. -/
theorem floorLog10_le (ha : a.Positive) (hlow : -100 ≤ a.floorLog2) (hhigh : a.floorLog2 ≤ 100) :
    (10 : ℚ) ^ a.floorLog10 ≤ a.value ∧ -32 ≤ a.floorLog10 := by
  have hpower (e : Int) : (power 10 e).value = (10 : ℚ) ^ e := by
    rw [value_power, Nat.cast_ofNat]
  have hpositive (e : Int) := positive_power (show 0 < 10 by decide) e
  have hguess : (10 : ℚ) ^ (Int.fdiv (a.floorLog2 * 1233) 4096 - 1) ≤ a.value := by
    have htable := ten_power_le_two_power (a.floorLog2 + 100).toNat (by omega)
    have hindex : (((a.floorLog2 + 100).toNat : Nat) : Int) - 100 = a.floorLog2 := by omega
    rw [hindex, le_iff (hpositive _).den (positive_power two_pos _).den, hpower,
      value_power] at htable
    exact htable.trans (floorLog2_spec ha).1
  have hleast : -31 ≤ Int.fdiv (a.floorLog2 * 1233) 4096 := by
    rw [Int.fdiv_eq_ediv_of_nonneg _ (by decide)]
    omega
  unfold floorLog10
  dsimp only
  split
  · rename_i h
    exact ⟨hpower _ ▸ (le_iff (hpositive _).den ha.den).mp h, by omega⟩
  · split
    · exact ⟨hguess, by omega⟩
    · rename_i h
      refine ⟨hpower _ ▸ le_of_not_gt (mt (lt_iff ha.den (hpositive _).den).mpr h), by omega⟩

end Logarithms

end VaultRing.Fraction
