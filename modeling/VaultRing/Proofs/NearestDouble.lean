import VaultRing.Proofs.FractionValue

namespace VaultRing.Magnitude

open Fraction

variable {a : Fraction} {m : Nat} {q : Int}

structure Normal (m : Nat) (q : Int) : Prop where
  low : 2 ^ 52 ≤ m
  high : m < 2 ^ 53
  least : leastExponent < q
  greatest : q ≤ greatestExponent

theorem Normal.pos (h : Normal m q) : 0 < m := lt_of_lt_of_le (by decide) h.low

theorem value_fraction (m : Nat) (q : Int) : (fraction m q).value = m * (2 : ℚ) ^ q := by
  rw [fraction, value_mul, value_ofNat, value_power, Nat.cast_ofNat]

theorem positive_fraction (hm : 0 < m) (q : Int) : (fraction m q).Positive :=
  (positive_ofNat hm).mul (positive_power two_pos q)

theorem den_fraction (m : Nat) (q : Int) : 0 < (fraction m q).den :=
  Nat.mul_pos Nat.one_pos (positive_power two_pos q).den

theorem value_scaled (a : Fraction) (q : Int) :
    (a.div (power 2 q)).value * (2 : ℚ) ^ q = a.value := by
  rw [value_div, value_power, Nat.cast_ofNat]
  exact div_mul_cancel₀ _ (zpow_ne_zero _ two_ne_zero)

theorem zpow_add_natCast (q : Int) (n : Nat) : (2 : ℚ) ^ (q + n) = 2 ^ n * 2 ^ q := by
  rw [zpow_add₀ two_ne_zero, zpow_natCast, mul_comm]

theorem floorLog2_of_binade (ha : a.Positive) (hlow : 2 ^ 52 * (2 : ℚ) ^ q ≤ a.value)
    (hhigh : a.value < 2 ^ 53 * (2 : ℚ) ^ q) : a.floorLog2 - 52 = q := by
  have hleast : (2 : ℚ) ^ (q + 52) = 2 ^ 52 * 2 ^ q := zpow_add_natCast q 52
  have hnext : (2 : ℚ) ^ (q + 52 + 1) = 2 ^ 53 * 2 ^ q := by
    rw [add_assoc]
    exact zpow_add_natCast q 53
  rw [floorLog2_eq ha (hleast ▸ hlow) (hnext ▸ hhigh), add_sub_cancel_right]

theorem binade_of_floorLog2 (ha : a.Positive) {u : Int} (hu : u = a.floorLog2 - 52) :
    2 ^ 52 * (2 : ℚ) ^ u ≤ a.value ∧ a.value < 2 ^ 53 * (2 : ℚ) ^ u := by
  obtain ⟨hlow, hhigh⟩ := floorLog2_spec ha
  rw [← zpow_add_natCast u 52, ← zpow_add_natCast u 53]
  refine ⟨le_of_eq_of_le ?_ hlow, lt_of_lt_of_eq hhigh ?_⟩
  all_goals
    congr 1
    push_cast
    omega

theorem nearest_eq (ha : a.Positive) (hleast : leastExponent ≤ a.floorLog2 - 52) {n : Nat}
    (hround : (a.div (power 2 (a.floorLog2 - 52))).round = n) :
    nearest a = if n = 2 ^ 53 then
        if greatestExponent < a.floorLog2 - 52 + 1 then .infinite
        else .finite (2 ^ 52) (a.floorLog2 - 52 + 1)
      else if greatestExponent < a.floorLog2 - 52 then .infinite
      else .finite n (a.floorLog2 - 52) := by
  rw [nearest, if_neg ha.num.ne', max_eq_left hleast]
  simp only [hround, Nat.pow_eq]
  split <;> rfl

section Interval

/-- How far the interval of a double goes below it, in units of its last place. -/
def gap (m : Nat) (q : Int) : ℚ := if m = 2 ^ 52 ∧ leastExponent < q then 1 / 4 else 1 / 2

theorem gap_bounds (m : Nat) (q : Int) : 1 / 4 ≤ gap m q ∧ gap m q ≤ 1 / 2 := by
  unfold gap
  split <;> norm_num

theorem value_quarters (n : Nat) (q : Int) :
    (fraction n (q - 2)).value = n / 4 * (2 : ℚ) ^ q := by
  rw [value_fraction, zpow_sub₀ two_ne_zero]
  norm_num
  ring

/-- The ends of the interval belong to it where the significand is even. -/
theorem readsBack_iff (hm : 0 < m) (ha : 0 < a.den) :
    readsBack m q a = true ↔
      (m - gap m q) * 2 ^ q ≤ a.value ∧ a.value ≤ (m + 1 / 2) * 2 ^ q ∧
        (m % 2 = 1 → (m - gap m q) * 2 ^ q < a.value ∧ a.value < (m + 1 / 2) * 2 ^ q) := by
  let below : Nat := if m = Nat.pow 2 52 ∧ leastExponent < q then 1 else 2
  have hlow : (fraction (4 * m - below) (q - 2)).value = (m - gap m q) * 2 ^ q := by
    have hbelow : (below : ℚ) = 4 * gap m q := by
      simp only [below, gap, Nat.pow_eq]
      split <;> norm_num
    have hle : below ≤ 4 * m := by
      simp only [below]
      split <;> omega
    rw [value_quarters, Nat.cast_sub hle, Nat.cast_mul, hbelow]
    push_cast
    ring
  have hhigh : (fraction (4 * m + 2) (q - 2)).value = (m + 1 / 2) * 2 ^ q := by
    rw [value_quarters]
    push_cast
    ring
  change (if m % 2 = 0 then (fraction (4 * m - below) (q - 2)).le a &&
      a.le (fraction (4 * m + 2) (q - 2))
    else (fraction (4 * m - below) (q - 2)).lt a && a.lt (fraction (4 * m + 2) (q - 2))) = true ↔ _
  split
  · rename_i heven
    rw [Bool.and_eq_true, le_iff (den_fraction _ _) ha, le_iff ha (den_fraction _ _), hlow, hhigh]
    exact ⟨fun h => ⟨h.1, h.2, fun hodd => by omega⟩, fun h => ⟨h.1, h.2.1⟩⟩
  · rename_i hodd
    rw [Bool.and_eq_true, lt_iff (den_fraction _ _) ha, lt_iff ha (den_fraction _ _), hlow, hhigh]
    exact ⟨fun h => ⟨h.1.le, h.2.le, fun _ => h⟩, fun h => h.2.2 (by omega)⟩

end Interval

section Reading

variable (h : Normal m q) (ha : a.Positive)

include h in
theorem Normal.casts : (2 ^ 52 : ℚ) ≤ m ∧ (m : ℚ) + 1 ≤ 2 ^ 53 :=
  ⟨by exact_mod_cast h.low, by exact_mod_cast h.high⟩

include h ha in
theorem nearest_of_binade (hbinade : 2 ^ 52 * (2 : ℚ) ^ q ≤ a.value)
    (hback : readsBack m q a = true) : nearest a = .finite m q := by
  obtain ⟨hlow, hhigh, hodd⟩ := (readsBack_iff h.pos ha.den).mp hback
  have hunit : (0 : ℚ) < 2 ^ q := zpow_pos two_pos q
  obtain ⟨-, hgap⟩ := gap_bounds m q
  obtain ⟨-, hm⟩ := h.casts
  have hlog : a.floorLog2 - 52 = q :=
    floorLog2_of_binade ha hbinade
      (hhigh.trans_lt (mul_lt_mul_of_pos_right (by linarith) hunit))
  have hround : (a.div (power 2 (a.floorLog2 - 52))).round = m := by
    rw [hlog]
    rw [← value_scaled a q] at hlow hhigh hodd
    refine round_eq (ha.div (positive_power two_pos q)).den ?_
      (le_of_mul_le_mul_right hhigh hunit) ?_
    · linarith [le_of_mul_le_mul_right hlow hunit]
    · intro hm
      obtain ⟨hlow, hhigh⟩ := hodd hm
      refine ⟨?_, lt_of_mul_lt_mul_right hhigh hunit.le⟩
      linarith [lt_of_mul_lt_mul_right hlow hunit.le]
  have hleast := h.least
  rw [nearest_eq ha (by omega) hround, hlog, if_neg h.high.ne, if_neg (not_lt_of_ge h.greatest)]

include h ha in
/-- A number below a power of two has a smaller unit and is rounded up. -/
theorem nearest_of_below (hbinade : a.value < 2 ^ 52 * (2 : ℚ) ^ q)
    (hback : readsBack m q a = true) : nearest a = .finite m q := by
  obtain ⟨hlow, -, -⟩ := (readsBack_iff h.pos ha.den).mp hback
  have hunit : (0 : ℚ) < 2 ^ q := zpow_pos two_pos q
  obtain ⟨-, hgap⟩ := gap_bounds m q
  have hleast := h.least
  have hm : m = 2 ^ 52 := by
    have hless := lt_of_mul_lt_mul_right (hlow.trans_lt hbinade) hunit.le
    have hlt : (m : ℚ) < 2 ^ 52 + 1 := by linarith
    have := h.low
    norm_cast at hlt
    omega
  -- A quarter of the unit at the power of two is half a unit below it.
  have hquarter : gap m q = 1 / 4 := if_pos ⟨hm, h.least⟩
  have hhalf : (2 : ℚ) ^ q = 2 * 2 ^ (q - 1) := by
    rw [zpow_sub_one₀ two_ne_zero]
    ring
  have hhalf_pos : (0 : ℚ) < 2 ^ (q - 1) := zpow_pos two_pos _
  rw [hquarter, hm, hhalf] at hlow
  rw [hhalf] at hbinade
  push_cast at hlow
  have hlog : a.floorLog2 - 52 = q - 1 :=
    floorLog2_of_binade ha (by linarith) (by linarith)
  have hround : (a.div (power 2 (a.floorLog2 - 52))).round = 2 ^ 53 := by
    rw [hlog]
    rw [← value_scaled a (q - 1)] at hlow hbinade
    have hlow' : (2 ^ 53 : ℚ) - 1 / 2 ≤ (a.div (power 2 (q - 1))).value := by
      refine le_of_mul_le_mul_right ?_ hhalf_pos
      linarith
    have hhigh' : (a.div (power 2 (q - 1))).value < 2 ^ 53 := by
      refine lt_of_mul_lt_mul_right ?_ hhalf_pos.le
      linarith
    refine round_eq (ha.div (positive_power two_pos _)).den ?_ ?_ (fun hodd => by omega)
    · push_cast
      exact hlow'
    · push_cast
      linarith
  rw [nearest_eq ha (by omega) hround, hlog, if_pos rfl, sub_add_cancel,
    if_neg (not_lt_of_ge h.greatest), hm]

include h ha in
/-- A number reads as the double in whose interval it lies. -/
theorem nearest_of_readsBack (hback : readsBack m q a = true) : nearest a = .finite m q := by
  rcases le_or_gt (2 ^ 52 * (2 : ℚ) ^ q) a.value with hbinade | hbinade
  · exact nearest_of_binade h ha hbinade hback
  · exact nearest_of_below h ha hbinade hback

end Reading

section Distance

/-- A number that is near enough, for seventeen digits, reads back. -/
theorem readsBack_of_near (h : Normal m q) (ha : 0 < a.den)
    (hnear : |a.value - m * 2 ^ q| * (2 * 10 ^ 16) ≤ m * 2 ^ q) : readsBack m q a = true := by
  have hunit : (0 : ℚ) < 2 ^ q := zpow_pos two_pos q
  obtain ⟨hm_low, hm_high⟩ := h.casts
  have hgap : |a.value - m * 2 ^ q| < gap m q * 2 ^ q := by
    rw [← mul_lt_mul_iff_left₀ (show (0 : ℚ) < 2 * 10 ^ 16 by norm_num)]
    refine hnear.trans_lt ?_
    rw [mul_right_comm]
    refine mul_lt_mul_of_pos_right ?_ hunit
    unfold gap
    split
    · rename_i hm
      rw [hm.1]
      norm_num
    · linarith
  obtain ⟨-, hhalf⟩ := gap_bounds m q
  obtain ⟨hlow, hhigh⟩ := abs_lt.mp hgap
  have hlow' : (m - gap m q) * 2 ^ q < a.value := by
    rw [sub_mul]
    linarith
  have hhigh' : a.value < (m + 1 / 2) * 2 ^ q := by
    have := mul_le_mul_of_nonneg_right hhalf hunit.le
    rw [add_mul]
    linarith
  exact (readsBack_iff h.pos ha).mpr ⟨hlow'.le, hhigh'.le, fun _ => ⟨hlow', hhigh'⟩⟩

theorem nearest_of_value (h : Normal m q) (ha : a.Positive) (hvalue : a.value = m * 2 ^ q) :
    nearest a = .finite m q := by
  refine nearest_of_readsBack h ha (readsBack_of_near h ha.den ?_)
  rw [hvalue, sub_self, abs_zero, zero_mul]
  positivity

/-- The significand in the unit of a number, which may have come out one digit too long. -/
theorem round_significand (ha : a.Positive) {u : Int} (hu : u = a.floorLog2 - 52) :
    ∃ n, (a.div (power 2 u)).round = n ∧ 2 ^ 52 ≤ n ∧ n ≤ 2 ^ 53 ∧
      |n * (2 : ℚ) ^ u - a.value| ≤ 2 ^ (a.floorLog2 - 53) := by
  have hunit : (0 : ℚ) < 2 ^ u := zpow_pos two_pos u
  obtain ⟨hlow, hhigh⟩ := binade_of_floorLog2 ha hu
  have hnear := round_near (ha.div (positive_power two_pos u)).den
  rw [abs_sub_comm] at hnear
  rw [← value_scaled a u] at hlow hhigh
  have hrange : 2 ^ 52 ≤ (a.div (power 2 u)).round ∧ (a.div (power 2 u)).round ≤ 2 ^ 53 := by
    have hs_low := le_of_mul_le_mul_right hlow hunit
    have hs_high := lt_of_mul_lt_mul_right hhigh hunit.le
    obtain ⟨hn_low, hn_high⟩ := abs_le.mp hnear
    have hlow' : (2 ^ 52 : ℚ) < (a.div (power 2 u)).round + 1 := by linarith
    have hhigh' : ((a.div (power 2 u)).round : ℚ) < 2 ^ 53 + 1 := by linarith
    norm_cast at hlow' hhigh'
    omega
  refine ⟨_, rfl, hrange.1, hrange.2, ?_⟩
  have hhalf : (2 : ℚ) ^ (a.floorLog2 - 53) = 1 / 2 * 2 ^ u := by
    rw [show a.floorLog2 - 53 = u - 1 by omega, zpow_sub_one₀ two_ne_zero]
    ring
  rw [← value_scaled a u, ← sub_mul, abs_mul, abs_of_pos hunit, hhalf]
  exact mul_le_mul_of_nonneg_right hnear hunit.le

/-- Within the range of normal doubles, the nearest is not farther away than half a unit. -/
theorem nearest_near (ha : a.Positive) (hlow : -1000 ≤ a.floorLog2) (hhigh : a.floorLog2 ≤ 1000) :
    ∃ m q, nearest a = .finite m q ∧ Normal m q ∧
      |m * (2 : ℚ) ^ q - a.value| ≤ 2 ^ (a.floorLog2 - 53) ∧ a.floorLog2 - 52 ≤ q ∧
      q ≤ a.floorLog2 - 51 := by
  obtain ⟨hleast, hgreatest⟩ : leastExponent = -1074 ∧ greatestExponent = 971 := ⟨rfl, rfl⟩
  obtain ⟨u, hu⟩ : ∃ u, u = a.floorLog2 - 52 := ⟨_, rfl⟩
  obtain ⟨n, hn, hn_low, hn_high, hdistance⟩ := round_significand ha hu
  have heq := nearest_eq ha (by omega) (hu ▸ hn)
  rw [← hu] at heq
  by_cases hcarry : n = 2 ^ 53
  · rw [if_pos hcarry, if_neg (by omega)] at heq
    refine ⟨2 ^ 52, u + 1, heq, ⟨le_rfl, by decide, by omega, by omega⟩, ?_, by omega, by omega⟩
    have hvalue : ((2 ^ 52 : Nat) : ℚ) * 2 ^ (u + 1) = n * 2 ^ u := by
      rw [hcarry, zpow_add_one₀ two_ne_zero]
      push_cast
      ring
    rw [hvalue]
    exact hdistance
  · rw [if_neg hcarry, if_neg (by omega)] at heq
    exact ⟨n, u, heq, ⟨hn_low, by omega, by omega, by omega⟩, hdistance, by omega, by omega⟩

end Distance

end VaultRing.Magnitude
