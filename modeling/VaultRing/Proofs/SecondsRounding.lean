import VaultRing.Duration
import VaultRing.Proofs.NearestDouble

namespace VaultRing

namespace Magnitude

open Fraction

variable {a : Fraction}

/-- Numbers with a short significand are doubles. -/
theorem nearest_of_short (ha : a.Positive) {k : Nat} {j : Int} (hk : 0 < k) (hk53 : k < 2 ^ 53)
    (hlow : -900 ≤ j) (hhigh : j ≤ 900) (hvalue : a.value = k * 2 ^ j) :
    ∃ m q, nearest a = .finite m q ∧ Normal m q ∧ (m : ℚ) * 2 ^ q = a.value := by
  obtain ⟨hleast, hgreatest⟩ : leastExponent = -1074 ∧ greatestExponent = 971 := ⟨rfl, rfl⟩
  have hlog : k.log2 ≤ 52 := Nat.le_of_lt_succ ((Nat.log2_lt hk.ne').mpr hk53)
  have hcut : 2 ^ (52 - k.log2) * 2 ^ k.log2 = 2 ^ 52 := by
    rw [← pow_add, Nat.sub_add_cancel hlog]
  have hnormal : Normal (2 ^ (52 - k.log2) * k) (j - (52 - k.log2 : Nat)) := by
    refine ⟨?_, ?_, by omega, by omega⟩
    · rw [← hcut]
      exact Nat.mul_le_mul_left _ (Nat.log2_self_le hk.ne')
    · have hnext : 2 ^ (52 - k.log2) * 2 ^ (k.log2 + 1) = 2 ^ 53 := by
        rw [pow_succ, ← Nat.mul_assoc, hcut]
        rfl
      rw [← hnext]
      exact Nat.mul_lt_mul_of_pos_left Nat.lt_log2_self (by positivity)
  have hsame : ((2 ^ (52 - k.log2) * k : Nat) : ℚ) * 2 ^ (j - (52 - k.log2 : Nat)) = a.value := by
    rw [hvalue, zpow_sub₀ two_ne_zero, zpow_natCast]
    push_cast
    field_simp
  exact ⟨_, _, nearest_of_value hnormal ha hsame.symm, hnormal, hsame⟩

theorem le_of_lt_two_pow {m : Nat} {q : Int} (h : Normal m q) (hlt : (m : ℚ) * 2 ^ q < 2 ^ 64) :
    (m : ℚ) * 2 ^ q ≤ 2 ^ 64 - 2 ^ 11 := by
  obtain ⟨hm_low, hm_high⟩ := h.casts
  have hunit : (0 : ℚ) < 2 ^ q := zpow_pos two_pos q
  have hq : q < 12 := by
    have hpower : (2 : ℚ) ^ q * 2 ^ 52 < 2 ^ (12 : Int) * 2 ^ 52 := by
      refine lt_of_le_of_lt ?_ (lt_of_lt_of_le hlt (by norm_num))
      rw [mul_comm]
      exact mul_le_mul_of_nonneg_right hm_low hunit.le
    exact (zpow_lt_zpow_iff_right₀ one_lt_two).mp (lt_of_mul_lt_mul_right hpower (by positivity))
  have hunit_le : (2 : ℚ) ^ q ≤ 2 ^ (11 : Int) := zpow_le_zpow_right₀ one_le_two (by omega)
  calc (m : ℚ) * 2 ^ q ≤ (2 ^ 53 - 1) * 2 ^ (11 : Int) :=
        mul_le_mul (by linarith) hunit_le hunit.le (by norm_num)
    _ = 2 ^ 64 - 2 ^ 11 := by norm_num

theorem nearest_two_pow (ha : a.Positive) (hlow : 2 ^ 64 - 1024 ≤ a.value)
    (hhigh : a.value ≤ 2 ^ 64 + 2 ^ 11) : nearest a = .finite (2 ^ 52) 12 := by
  have hnormal : Normal (2 ^ 52) 12 := ⟨le_rfl, by decide, by decide, by decide⟩
  have hgap : gap (2 ^ 52) 12 = 1 / 4 := if_pos ⟨rfl, by decide⟩
  refine nearest_of_readsBack hnormal ha ((readsBack_iff hnormal.pos ha.den).mpr
    ⟨?_, ?_, fun hodd => by omega⟩)
  · rw [hgap]
    push_cast
    norm_num at hlow ⊢
    exact hlow
  · push_cast
    norm_num at hhigh ⊢
    exact hhigh

end Magnitude

namespace Duration

open Magnitude Fraction

variable {d : Duration}

def value (d : Duration) : ℚ := d.seconds.toNat + d.nanos.val / 1000000000

section Parts

theorem nearest_of_double {n k j : Nat} (hk : k < 2 ^ 53) (hn : n < 2 ^ 64) (h : n = k * 2 ^ j) :
    ∃ m q, nearest (ofNat n) = .finite m q ∧ (m : ℚ) * 2 ^ q = n := by
  rcases Nat.eq_zero_or_pos n with rfl | hpos
  · exact ⟨0, leastExponent, rfl, by simp⟩
  · have hkpos : 0 < k := Nat.pos_of_mul_pos_right (h ▸ hpos)
    have hj : j < 64 := by
      have hpower : 2 ^ j < 2 ^ 64 :=
        ((Nat.le_mul_of_pos_left _ hkpos).trans_eq h.symm).trans_lt hn
      exact (Nat.pow_lt_pow_iff_right one_lt_two).mp hpower
    have hvalue : (ofNat n).value = k * 2 ^ (j : Int) := by
      rw [value_ofNat, h, zpow_natCast]
      push_cast
      rfl
    obtain ⟨m, q, hnearest, -, hsame⟩ :=
      nearest_of_short (positive_ofNat hpos) hkpos hk (by omega) (by omega) hvalue
    rw [value_ofNat] at hsame
    exact ⟨m, q, hnearest, hsame⟩

/-- Larger numbers are rounded by 1024 at most, and up to `2 ^ 64` only from there. -/
theorem nearest_of_large {n : Nat} (hlong : 2 ^ 53 ≤ n) (hlt : n < 2 ^ 64) : ∃ m q,
    nearest (ofNat n) = .finite m q ∧ |(m : ℚ) * 2 ^ q - n| ≤ 2 ^ 10 ∧
      (n < 2 ^ 64 - 1024 → (m : ℚ) * 2 ^ q ≤ 2 ^ 64 - 2 ^ 11) ∧
      (2 ^ 64 - 1024 ≤ n → (m : ℚ) * 2 ^ q = 2 ^ 64) := by
  have hpos : 0 < n := lt_of_lt_of_le (by decide) hlong
  have ha := positive_ofNat hpos
  have hvalue := value_ofNat n
  have hcast : (n : ℚ) < 2 ^ (64 : Int) := by exact_mod_cast hlt
  have hlow : 0 ≤ (ofNat n).floorLog2 :=
    le_floorLog2 ha (by rw [hvalue, zpow_zero]; exact_mod_cast hpos)
  have hhigh : (ofNat n).floorLog2 < 64 := floorLog2_lt ha (by rwa [hvalue])
  obtain ⟨m, q, hnearest, hnormal, hnear, -, -⟩ := nearest_near ha (by omega) (by omega)
  rw [hvalue] at hnear
  have hnear := hnear.trans (zpow_le_zpow_right₀ (n := 10) one_le_two (by omega))
  refine ⟨m, q, hnearest, hnear, fun h => ?_, fun h => ?_⟩
  · have hbelow : (n : ℚ) + 1 + 1024 ≤ 2 ^ 64 := by
      exact_mod_cast (by omega : n + 1 + 1024 ≤ 2 ^ 64)
    have hnear : (m : ℚ) * 2 ^ q - n ≤ 1024 := (abs_le.mp hnear).2.trans (by norm_num)
    exact le_of_lt_two_pow hnormal (by linarith)
  · have hmost : (2 ^ 64 : ℚ) ≤ n + 1024 := by
      exact_mod_cast (by omega : 2 ^ 64 ≤ n + 1024)
    have htop := nearest_two_pow ha (by rw [hvalue]; linarith)
      (by rw [hvalue]; exact hcast.le.trans (by norm_num))
    rw [hnearest] at htop
    obtain ⟨rfl, rfl⟩ := Magnitude.finite.inj htop
    norm_num

theorem nearest_seconds (d : Duration) : ∃ m q,
    nearest (.ofNat d.seconds.toNat) = .finite m q ∧ |(m : ℚ) * 2 ^ q - d.seconds.toNat| ≤ 2 ^ 10 ∧
      (d.seconds.toNat < 2 ^ 53 → (m : ℚ) * 2 ^ q = d.seconds.toNat) ∧
      (d.seconds.toNat < 2 ^ 64 - 1024 → (m : ℚ) * 2 ^ q ≤ 2 ^ 64 - 2 ^ 11) ∧
      (2 ^ 64 - 1024 ≤ d.seconds.toNat → (m : ℚ) * 2 ^ q = 2 ^ 64) := by
  have hlt : d.seconds.toNat < 2 ^ 64 := d.seconds.toNat_lt
  generalize d.seconds.toNat = n at *
  rcases Nat.lt_or_ge n (2 ^ 53) with hshort | hlong
  · have hone : n = n * 2 ^ 0 := by rw [pow_zero, Nat.mul_one]
    obtain ⟨m, q, hnearest, hsame⟩ := nearest_of_double hshort hlt hone
    have hcast : (n : ℚ) < 2 ^ 53 := by exact_mod_cast hshort
    refine ⟨m, q, hnearest, by rw [hsame]; simp, fun _ => hsame, fun _ => ?_, fun h => by omega⟩
    rw [hsame]
    exact hcast.le.trans (by norm_num)
  · obtain ⟨m, q, hnearest, hnear, hless, htop⟩ := nearest_of_large hlong hlt
    exact ⟨m, q, hnearest, hnear, fun h => absurd hlong (Nat.not_le_of_lt h), hless, htop⟩

theorem nearest_part {n : Nat} (hn : 0 < n) (hlt : n < 1000000000) : ∃ m q,
    nearest ⟨n, 1000000000⟩ = .finite m q ∧ (2 : ℚ) ^ (-30 : Int) ≤ m * 2 ^ q ∧
      (m : ℚ) * 2 ^ q < 1 ∧ |(m : ℚ) * 2 ^ q - n / 1000000000| ≤ 2 ^ (-54 : Int) := by
  have ha : (⟨n, 1000000000⟩ : Fraction).Positive := ⟨hn, Nat.succ_pos _⟩
  have hvalue : (⟨n, 1000000000⟩ : Fraction).value = n / 1000000000 := by simp [Fraction.value]
  have hleast : (1 : ℚ) ≤ n := by exact_mod_cast hn
  have hgreatest : (n : ℚ) ≤ 999999999 := by exact_mod_cast Nat.le_of_lt_succ hlt
  have hlow : -30 ≤ (⟨n, 1000000000⟩ : Fraction).floorLog2 := by
    refine le_floorLog2 ha ?_
    rw [hvalue, le_div_iff₀ (by norm_num)]
    norm_num
    linarith
  have hhigh : (⟨n, 1000000000⟩ : Fraction).floorLog2 < 0 := by
    refine floorLog2_lt ha ?_
    rw [hvalue, zpow_zero, div_lt_one (by norm_num)]
    linarith
  obtain ⟨m, q, hnearest, -, hnear, -, -⟩ := nearest_near ha (by omega) (by omega)
  rw [hvalue] at hnear
  have herror := hnear.trans (zpow_le_zpow_right₀ (n := -54) one_le_two (by omega))
  obtain ⟨hbelow, habove⟩ := abs_le.mp herror
  have htiny : (2 : ℚ) ^ (-54 : Int) < 1 / 10 ^ 11 := by norm_num
  have hthirty : (2 : ℚ) ^ (-30 : Int) < 99 / 10 ^ 11 := by norm_num
  have hn_low : (1 : ℚ) / 10 ^ 9 ≤ n / 1000000000 := by
    rw [le_div_iff₀ (by norm_num)]
    linarith
  have hn_high : (n : ℚ) / 1000000000 ≤ 1 - 1 / 10 ^ 9 := by
    rw [div_le_iff₀ (by norm_num)]
    linarith
  exact ⟨m, q, hnearest, hthirty.le.trans (by linarith), by linarith, herror⟩

end Parts

section Sum

/-- A span with a part below a second is the double nearest to the sum of two. -/
theorem exists_sum (hn : d.nanos.val ≠ 0) : ∃ s : Fraction,
    d.toSeconds = ⟨false, nearest s⟩ ∧ s.Positive ∧ -30 ≤ s.floorLog2 ∧ s.floorLog2 < 65 ∧
      (d.seconds.toNat < 2 ^ 23 → s.value < 2 ^ 23 ∧ |s.value - d.value| ≤ 2 ^ (-54 : Int)) ∧
      (d.seconds.toNat < 2 ^ 64 - 1024 → s.value ≤ 2 ^ 64 - 2 ^ 11 + 1) ∧
      (2 ^ 64 - 1024 ≤ d.seconds.toNat → 2 ^ 64 ≤ s.value ∧ s.value ≤ 2 ^ 64 + 1) := by
  obtain ⟨m₁, q₁, hwhole, hwhole_near, hwhole_same, hwhole_less, hwhole_top⟩ := nearest_seconds d
  obtain ⟨m₂, q₂, hpart, hpart_low, hpart_high, hpart_near⟩ :=
    nearest_part (Nat.pos_of_ne_zero hn) d.nanos.isLt
  obtain ⟨s, hs⟩ : ∃ s, s = (fraction m₁ q₁).add (fraction m₂ q₂) := ⟨_, rfl⟩
  have hsum : s.value = m₁ * 2 ^ q₁ + m₂ * 2 ^ q₂ := by
    rw [hs, value_add (den_fraction _ _) (den_fraction _ _), value_fraction, value_fraction]
  have hwhole_pos : (0 : ℚ) ≤ m₁ * 2 ^ q₁ := by positivity
  have hpart_pos : (0 : ℚ) < m₂ * 2 ^ q₂ := lt_of_lt_of_le (by positivity) hpart_low
  have hden : 0 < s.den := by
    rw [hs]
    exact Nat.mul_pos (den_fraction _ _) (den_fraction _ _)
  have ha : s.Positive := positive_of_value hden (by rw [hsum]; linarith)
  have hdouble : d.toSeconds = ⟨false, nearest s⟩ := by
    rw [toSeconds, hwhole, hpart, hs]
  refine ⟨s, hdouble, ha, le_floorLog2 ha (by rw [hsum]; linarith), floorLog2_lt ha ?_,
    fun hshort => ⟨?_, ?_⟩, fun hless => ?_, fun htop => ?_⟩
  · have hseconds : (d.seconds.toNat : ℚ) < 2 ^ 64 := by exact_mod_cast d.seconds.toNat_lt
    have hpower : (2 : ℚ) ^ (65 : Int) = 2 ^ 64 + 2 ^ 64 := by norm_num
    rw [hsum, hpower]
    linarith [(abs_le.mp hwhole_near).2]
  · have hseconds : (d.seconds.toNat : ℚ) + 1 ≤ 2 ^ 23 := by exact_mod_cast hshort
    rw [hsum, hwhole_same (hshort.trans (by decide))]
    linarith
  · have hparts : s.value - d.value = m₂ * 2 ^ q₂ - d.nanos.val / 1000000000 := by
      rw [hsum, hwhole_same (hshort.trans (by decide)), value]
      ring
    exact hparts ▸ hpart_near
  · rw [hsum]
    linarith [hwhole_less hless]
  · rw [hsum, hwhole_top htop]
    constructor <;> linarith

theorem toSeconds_normal (hn : d.nanos.val ≠ 0) : ∃ m q,
    d.toSeconds = ⟨false, .finite m q⟩ ∧ Normal m q ∧ -82 ≤ q ∧ q ≤ 13 ∧
      (d.seconds.toNat < 2 ^ 23 →
        |(m : ℚ) * 2 ^ q - d.value| ≤ 2 ^ (-31 : Int) + 2 ^ (-54 : Int)) ∧
      (d.seconds.toNat < 2 ^ 64 - 1024 → (m : ℚ) * 2 ^ q < 2 ^ 64) ∧
      (2 ^ 64 - 1024 ≤ d.seconds.toNat → (m : ℚ) * 2 ^ q = 2 ^ 64) := by
  obtain ⟨s, hdouble, ha, hlow, hhigh, hshort, hless, htop⟩ := exists_sum hn
  obtain ⟨m, q, hnearest, hnormal, hnear, hq_low, hq_high⟩ := nearest_near ha (by omega) (by omega)
  rw [hnearest] at hdouble
  refine ⟨m, q, hdouble, hnormal, by omega, by omega, fun h => ?_, fun h => ?_, fun h => ?_⟩
  · -- Whole seconds are exact here: what is lost is in the part below and in the sum.
    obtain ⟨hsmall, hparts⟩ := hshort h
    have hlog : s.floorLog2 < 23 := floorLog2_lt ha hsmall
    have herror := hnear.trans (zpow_le_zpow_right₀ (n := -31) one_le_two (by omega))
    calc |(m : ℚ) * 2 ^ q - d.value|
        ≤ |(m : ℚ) * 2 ^ q - s.value| + |s.value - d.value| := abs_sub_le _ _ _
      _ ≤ 2 ^ (-31 : Int) + 2 ^ (-54 : Int) := add_le_add herror hparts
  · have hsmall := hless h
    have hlog : s.floorLog2 < 64 := floorLog2_lt ha (hsmall.trans_lt (by norm_num))
    have herror := hnear.trans (zpow_le_zpow_right₀ (n := 10) one_le_two (by omega))
    have hdistance : (m : ℚ) * 2 ^ q - s.value ≤ 1024 := (abs_le.mp herror).2.trans (by norm_num)
    refine lt_of_le_of_lt (b := 2 ^ 64 - 2 ^ 11 + 1 + 1024) ?_ (by norm_num)
    linarith
  · obtain ⟨hleast, hmost⟩ := htop h
    have hrounded := nearest_two_pow ha (by linarith) (by linarith)
    rw [hnearest] at hrounded
    obtain ⟨rfl, rfl⟩ := Magnitude.finite.inj hrounded
    norm_num

end Sum

section Back

def stored (d : Duration) : Binary64 :=
  if d.nanos.val = 0 then .ofNat d.seconds.toNat else d.toSeconds

theorem ofNanoseconds_nanoseconds (d : Duration) : ofNanoseconds d.nanoseconds = d := by
  obtain ⟨seconds, nanos⟩ := d
  have hquotient : (seconds.toNat * 1000000000 + nanos.val) / 1000000000 = seconds.toNat := by omega
  have hrest : (seconds.toNat * 1000000000 + nanos.val) % 1000000000 = nanos.val := by omega
  simp only [nanoseconds, ofNanoseconds, hquotient, hrest, UInt64.ofNat_toNat]

theorem ofSeconds_finite {m : Nat} {q : Int} (hlt : (m : ℚ) * 2 ^ q < 2 ^ 64) :
    ofSeconds ⟨false, .finite m q⟩ =
      .ok (ofNanoseconds ((fraction m q).mul (.ofNat 1000000000)).round) := by
  have hfits : (ofNat (Nat.pow 2 64)).le (fraction m q) = false := by
    rw [← Bool.not_eq_true, le_iff Nat.one_pos (den_fraction m q), value_ofNat, value_fraction,
      not_le, Nat.pow_eq]
    exact_mod_cast hlt
  rw [ofSeconds]
  simp only [Bool.false_eq_true, false_and, ↓reduceIte, hfits]

theorem ofSeconds_overflow {m : Nat} {q : Int} (h : 2 ^ 64 ≤ (m : ℚ) * 2 ^ q) :
    ofSeconds ⟨false, .finite m q⟩ = .error .overflow := by
  have hlarge : (ofNat (Nat.pow 2 64)).le (fraction m q) = true := by
    rw [le_iff Nat.one_pos (den_fraction m q), value_ofNat, value_fraction, Nat.pow_eq]
    exact_mod_cast h
  rw [ofSeconds]
  simp only [Bool.false_eq_true, false_and, ↓reduceIte, hlarge]

/-- Less than half a nanosecond away, the span is found. -/
theorem ofSeconds_near {m : Nat} {q : Int} (hlt : (m : ℚ) * 2 ^ q < 2 ^ 64)
    (hnear : |(m : ℚ) * 2 ^ q - d.value| * 1000000000 < 1 / 2) :
    ofSeconds ⟨false, .finite m q⟩ = .ok d := by
  have hvalue : ((fraction m q).mul (.ofNat 1000000000)).value = m * 2 ^ q * 1000000000 := by
    rw [value_mul, value_fraction, value_ofNat, Nat.cast_ofNat]
  have hspan : d.value * 1000000000 = d.nanoseconds := by
    simp only [value, nanoseconds]
    push_cast
    ring
  rw [← abs_of_pos (show (0 : ℚ) < 1000000000 by norm_num), ← abs_mul, sub_mul, hspan] at hnear
  obtain ⟨hlow, hhigh⟩ := abs_lt.mp hnear
  rw [← hvalue] at hlow hhigh
  have hround : ((fraction m q).mul (.ofNat 1000000000)).round = d.nanoseconds :=
    round_eq (Nat.mul_pos (den_fraction m q) Nat.one_pos) (by linarith) (by linarith)
      fun _ => ⟨by linarith, by linarith⟩
  rw [ofSeconds_finite hlt, hround, ofNanoseconds_nanoseconds]

theorem value_whole (hn : d.nanos.val = 0) : d.value = d.seconds.toNat := by
  rw [value, hn, Nat.cast_zero, zero_div, add_zero]

/-- Short spans are kept to the nanosecond. -/
theorem ofSeconds_short (h : d.seconds.toNat < 2 ^ 23) : ofSeconds d.stored = .ok d := by
  have hseconds : (d.seconds.toNat : ℚ) + 1 ≤ 2 ^ 23 := by exact_mod_cast h
  rw [stored]
  split
  · rename_i hn
    obtain ⟨m, q, hnearest, -, hsame, -, -⟩ := nearest_seconds d
    have hsame := hsame (h.trans (by decide))
    rw [Binary64.ofNat, hnearest]
    refine ofSeconds_near ?_ ?_
    · rw [hsame]
      linarith
    · rw [hsame, value_whole hn]
      norm_num
  · rename_i hn
    obtain ⟨m, q, hdouble, -, -, -, hnear, -, -⟩ := toSeconds_normal hn
    have htiny : (2 : ℚ) ^ (-31 : Int) + 2 ^ (-54 : Int) < 1 / 2000000000 := by norm_num
    have herror := (hnear h).trans_lt htiny
    have hpart : (d.nanos.val : ℚ) / 1000000000 ≤ 1 := by
      rw [div_le_one (by norm_num)]
      exact_mod_cast d.nanos.isLt.le
    have hvalue : d.value ≤ 2 ^ 23 := by
      rw [value]
      linarith
    rw [hdouble]
    refine ofSeconds_near ?_ (by linarith)
    linarith [(abs_lt.mp herror).2]

theorem ofSeconds_double (hn : d.nanos.val = 0) {k j : Nat} (hk : k < 2 ^ 53)
    (h : d.seconds.toNat = k * 2 ^ j) : ofSeconds d.stored = .ok d := by
  have hlt : (d.seconds.toNat : ℚ) < 2 ^ 64 := by exact_mod_cast d.seconds.toNat_lt
  obtain ⟨m, q, hnearest, hsame⟩ := nearest_of_double hk d.seconds.toNat_lt h
  rw [stored, if_pos hn, Binary64.ofNat, hnearest]
  refine ofSeconds_near (by rwa [hsame]) ?_
  rw [hsame, value_whole hn]
  norm_num

/-- Whole seconds are kept when they are a double, and only then. -/
theorem ofSeconds_whole (hn : d.nanos.val = 0) :
    ofSeconds d.stored = .ok d ↔ ∃ k j, k < 2 ^ 53 ∧ d.seconds.toNat = k * 2 ^ j := by
  refine ⟨fun hkept => ?_, fun ⟨k, j, hk, h⟩ => ofSeconds_double hn hk h⟩
  rcases Nat.lt_or_ge d.seconds.toNat (2 ^ 53) with hshort | hlong
  · exact ⟨d.seconds.toNat, 0, hshort, by rw [pow_zero, Nat.mul_one]⟩
  · have ha := positive_ofNat (lt_of_lt_of_le (by decide) hlong)
    have hvalue := value_ofNat d.seconds.toNat
    have hlow : 53 ≤ (ofNat d.seconds.toNat).floorLog2 :=
      le_floorLog2 ha (by rw [hvalue]; exact_mod_cast hlong)
    have hhigh : (ofNat d.seconds.toNat).floorLog2 < 64 :=
      floorLog2_lt ha (by rw [hvalue]; exact_mod_cast d.seconds.toNat_lt)
    obtain ⟨m, q, hnearest, hnormal, -, hq, -⟩ := nearest_near ha (by omega) (by omega)
    obtain ⟨j, rfl⟩ := Int.eq_ofNat_of_zero_le (show 0 ≤ q by omega)
    have hdouble : (m : ℚ) * 2 ^ (j : Int) = (m * 2 ^ j : Nat) := by
      rw [zpow_natCast]
      push_cast
      rfl
    rw [stored, if_pos hn, Binary64.ofNat, hnearest] at hkept
    rcases Nat.lt_or_ge (m * 2 ^ j) (2 ^ 64) with hfits | hlarge
    · have hseconds : (UInt64.ofNat (m * 2 ^ j)).toNat = m * 2 ^ j :=
        UInt64.toNat_ofNat_of_lt' hfits
      have hspan : (⟨.ofNat (m * 2 ^ j), ⟨0, by decide⟩⟩ : Duration).value =
          (m : ℚ) * 2 ^ (j : Int) := by
        rw [value_whole rfl, hdouble]
        exact congrArg Nat.cast hseconds
      have hread := ofSeconds_near (d := ⟨.ofNat (m * 2 ^ j), ⟨0, by decide⟩⟩)
        (by rw [hdouble]; exact_mod_cast hfits) (by rw [hspan, sub_self, abs_zero]; norm_num)
      rw [hkept] at hread
      refine ⟨m, j, hnormal.high, ?_⟩
      rw [Except.ok.inj hread]
      exact hseconds
    · rw [ofSeconds_overflow (by rw [hdouble]; exact_mod_cast hlarge)] at hkept
      cases hkept

theorem exists_stored (d : Duration) : ∃ m q, d.stored = ⟨false, .finite m q⟩ ∧
    (d.seconds.toNat < 2 ^ 64 - 1024 → (m : ℚ) * 2 ^ q < 2 ^ 64) ∧
      (2 ^ 64 - 1024 ≤ d.seconds.toNat → (m : ℚ) * 2 ^ q = 2 ^ 64) := by
  rw [stored]
  split
  · obtain ⟨m, q, hnearest, -, -, hless, htop⟩ := nearest_seconds d
    refine ⟨m, q, by rw [Binary64.ofNat, hnearest], fun h => ?_, htop⟩
    exact (hless h).trans_lt (by norm_num)
  · rename_i hn
    obtain ⟨m, q, hdouble, -, -, -, -, hless, htop⟩ := toSeconds_normal hn
    exact ⟨m, q, hdouble, hless, htop⟩

/-- Close to the end of the range a span is stored as more than it can be. -/
theorem ofSeconds_isOk_iff (d : Duration) :
    (∃ t, ofSeconds d.stored = .ok t) ↔ d.seconds.toNat < 2 ^ 64 - 1024 := by
  obtain ⟨m, q, hstored, hless, htop⟩ := exists_stored d
  rw [hstored]
  refine ⟨fun ⟨t, ht⟩ => ?_, fun h => ⟨_, ofSeconds_finite (hless h)⟩⟩
  by_contra hlarge
  rw [ofSeconds_overflow (htop (Nat.le_of_not_lt hlarge)).ge] at ht
  cases ht

end Back

end Duration

end VaultRing
