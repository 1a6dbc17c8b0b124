import Mathlib.Algebra.Order.Field.Power
import Mathlib.Data.Int.Log
import Mathlib.Data.Nat.Log
import Mathlib.Data.Rat.Floor
import Mathlib.Tactic.FieldSimp
import Mathlib.Tactic.Linarith
import Mathlib.Tactic.Positivity
import Mathlib.Tactic.Ring
import Searchlight.Number.Shortest

/-!
# Rounding a quotient

The rank nearest to a quotient depends on the quotient only, not on how it is
written. Every magnitude is its own nearest one, and quotients outside the
reach of a format round to zero or overflow, which is why reading a decimal may
settle them without computing them.
-/

namespace Searchlight

variable {num den num' den' : ℕ}

/-! ## Quotients of powers -/

theorem power_pos {base : ℕ} (hb : 0 < base) (e : ℤ) : 0 < power base e :=
  Nat.pow_pos hb

theorem power_ratio (base : ℕ) (e : ℤ) :
    (power base e : ℚ) / power base (-e) = (base : ℚ) ^ e := by
  have hpow : ∀ i : ℤ, (power base i : ℚ) = (base : ℚ) ^ i.toNat := by
    intro i
    rw [power]
    exact Nat.cast_pow base i.toNat
  rw [hpow, hpow]
  rcases le_total 0 e with he | he
  · obtain ⟨n, rfl⟩ := Int.eq_ofNat_of_zero_le he
    simp
  · obtain ⟨n, hn⟩ := Int.eq_ofNat_of_zero_le (neg_nonneg.mpr he)
    obtain rfl : e = -n := by omega
    simp

theorem mul_power_ratio (m base : ℕ) (e : ℤ) :
    ((m * power base e : ℕ) : ℚ) / power base (-e) = m * (base : ℚ) ^ e := by
  rw [Nat.cast_mul, mul_div_assoc, power_ratio]

/-- A quotient in units of a power. -/
theorem scaled_ratio {base : ℕ} (hb : 0 < base) (num den : ℕ) (e : ℤ) :
    ((num * power base (-e) : ℕ) : ℚ) / (den * power base e : ℕ) =
      num / den / (base : ℚ) ^ e := by
  have hne : (power base (-e) : ℚ) ≠ 0 := by
    exact_mod_cast (power_pos hb (-e)).ne'
  have hne' : (power base e : ℚ) ≠ 0 := by
    exact_mod_cast (power_pos hb e).ne'
  rw [← power_ratio]
  push_cast
  field_simp

/-! ## Logarithms -/

theorem log2_bounds {n : ℕ} (hn : 0 < n) :
    (2 : ℚ) ^ (Nat.log2 n : ℤ) ≤ n ∧ (n : ℚ) < 2 ^ (Nat.log2 n + 1 : ℤ) := by
  constructor
  · rw [zpow_natCast]
    exact_mod_cast Nat.log2_self_le hn.ne'
  · exact_mod_cast Nat.lt_log2_self

/-- The comparison in `floorLog2` and `floorLog10`, which avoids the quotient. -/
theorem power_lt_iff {base : ℕ} (hb : 0 < base) (hd : 0 < den) (e : ℤ) :
    num * power base (-e) < den * power base e ↔
      (num / den : ℚ) < (base : ℚ) ^ e := by
  have hdq : (0 : ℚ) < den := by exact_mod_cast hd
  have hpos : (0 : ℚ) < power base (-e) := by
    exact_mod_cast power_pos hb (-e)
  rw [← power_ratio, div_lt_div_iff₀ hdq hpos, mul_comm (power base e : ℚ)]
  exact_mod_cast Iff.rfl

/-- The logarithms of the two parts of a quotient leave two candidates for its
own, which the comparison tells apart. -/
theorem log_quotient {base : ℕ} (hb : 1 < base) (hd : 0 < den) {a b : ℤ}
    (hn₁ : (base : ℚ) ^ a ≤ num) (hn₂ : (num : ℚ) < (base : ℚ) ^ (a + 1))
    (hd₁ : (base : ℚ) ^ b ≤ den) (hd₂ : (den : ℚ) < (base : ℚ) ^ (b + 1)) :
    (if num * power base (-(a - b)) < den * power base (a - b) then a - b - 1
      else a - b) = Int.log base (num / den : ℚ) := by
  have hbq : (0 : ℚ) < base := by exact_mod_cast Nat.zero_lt_of_lt hb
  have hdq : (0 : ℚ) < den := by exact_mod_cast hd
  have hnq : (0 : ℚ) < num := lt_of_lt_of_le (zpow_pos hbq a) hn₁
  have hq : (0 : ℚ) < num / den := div_pos hnq hdq
  have hlow : ∀ k : ℤ, k ≤ Int.log base (num / den : ℚ) ↔
      (base : ℚ) ^ k ≤ num / den := fun k =>
    (Int.zpow_le_iff_le_log hb hq).symm
  -- the quotient lies less than a factor of the base from the power first tried
  have hleast : a - b - 1 ≤ Int.log base (num / den : ℚ) := by
    rw [hlow, le_div_iff₀ hdq]
    calc (base : ℚ) ^ (a - b - 1) * den
        ≤ (base : ℚ) ^ (a - b - 1) * (base : ℚ) ^ (b + 1) := by gcongr
      _ = (base : ℚ) ^ a := by
          rw [← zpow_add₀ hbq.ne']
          congr 1
          ring
      _ ≤ num := hn₁
  have hmost : ¬a - b + 1 ≤ Int.log base (num / den : ℚ) := by
    rw [hlow, not_le, div_lt_iff₀ hdq]
    calc (num : ℚ) < (base : ℚ) ^ (a + 1) := hn₂
      _ = (base : ℚ) ^ (a - b + 1) * (base : ℚ) ^ b := by
          rw [← zpow_add₀ hbq.ne']
          congr 1
          ring
      _ ≤ (base : ℚ) ^ (a - b + 1) * den := by gcongr
  simp only [power_lt_iff (Nat.zero_lt_of_lt hb) hd, ← not_le, ← hlow]
  split <;> omega

theorem floorLog2_eq_log (hn : 0 < num) (hd : 0 < den) :
    floorLog2 num den = Int.log 2 (num / den : ℚ) := by
  obtain ⟨hn₁, hn₂⟩ := log2_bounds hn
  obtain ⟨hd₁, hd₂⟩ := log2_bounds hd
  exact log_quotient one_lt_two hd hn₁ hn₂ hd₁ hd₂

/-! ## Rounding to integers -/

theorem roundHalfEven_scale (num den : ℕ) {k : ℕ} (hk : 0 < k) :
    roundHalfEven (num * k) (den * k) = roundHalfEven num den := by
  have hmod : 2 * (num * k % (den * k)) = 2 * (num % den) * k := by
    rw [Nat.mul_mod_mul_right, Nat.mul_assoc]
  simp only [roundHalfEven, hmod, Nat.mul_div_mul_right _ _ hk,
    Nat.mul_lt_mul_right hk, Nat.mul_left_inj hk.ne']

/-- Equal quotients are rounded alike. -/
theorem roundHalfEven_congr (hd : 0 < den) (hd' : 0 < den')
    (h : num * den' = num' * den) :
    roundHalfEven num den = roundHalfEven num' den' := by
  rw [← roundHalfEven_scale num den hd', h, Nat.mul_comm den,
    roundHalfEven_scale num' den' hd]

theorem roundHalfEven_mul_right (n : ℕ) {k : ℕ} (hk : 0 < k) :
    roundHalfEven (n * k) k = n := by
  simp [roundHalfEven, Nat.mul_div_cancel n hk, hk.ne']

theorem roundHalfEven_eq_zero (h : 2 * num < den) : roundHalfEven num den = 0 := by
  have hdiv : num / den = 0 := Nat.div_eq_of_lt (by omega)
  have hmod : num % den = num := Nat.mod_eq_of_lt (by omega)
  simp only [roundHalfEven, hdiv, hmod]
  rw [if_neg (by omega)]

/-! ## Ranks -/

namespace BinaryFormat

variable (f : BinaryFormat)

/-- **Equal quotients have the same nearest rank.** -/
theorem nearestRank_congr (hd : 0 < den) (hd' : 0 < den')
    (h : (num : ℚ) / den = num' / den') :
    f.nearestRank num den = f.nearestRank num' den' := by
  have hdq : (den : ℚ) ≠ 0 := by exact_mod_cast hd.ne'
  have hdq' : (den' : ℚ) ≠ 0 := by exact_mod_cast hd'.ne'
  have hcross : num * den' = num' * den := by
    rw [div_eq_div_iff hdq hdq'] at h
    exact_mod_cast h
  by_cases hn : num = 0
  · subst hn
    obtain rfl : num' = 0 := by
      rw [Nat.zero_mul, eq_comm, Nat.mul_eq_zero] at hcross
      omega
    rfl
  · have hn' : num' ≠ 0 := by
      rintro rfl
      rw [Nat.zero_mul, Nat.mul_eq_zero] at hcross
      omega
    simp only [nearestRank, if_neg hn, if_neg hn',
      floorLog2_eq_log (Nat.pos_of_ne_zero hn) hd,
      floorLog2_eq_log (Nat.pos_of_ne_zero hn') hd', h]
    congr 1
    refine roundHalfEven_congr (Nat.mul_pos hd (power_pos (by norm_num) _))
      (Nat.mul_pos hd' (power_pos (by norm_num) _)) ?_
    rw [Nat.mul_mul_mul_comm, hcross, Nat.mul_mul_mul_comm]

theorem leading_pos : 0 < f.leading := Nat.pow_pos (by norm_num)

theorem leading_cast : (f.leading : ℚ) = 2 ^ ((f.precision - 1 : ℕ) : ℤ) := by
  rw [leading, zpow_natCast]
  exact Nat.cast_pow 2 (f.precision - 1)

theorem magnitude_pos {rank : ℕ} (hr : 0 < rank) : 0 < (f.magnitude rank).1 := by
  rw [magnitude]
  split
  · exact hr
  · exact Nat.add_pos_left f.leading_pos _

/-- The exponent that rounding chooses for a magnitude is its own. -/
theorem exponent_magnitude {rank : ℕ} (hr : 0 < rank) {m : ℕ} {e : ℤ}
    (h : f.magnitude rank = (m, e)) :
    max (Int.log 2 (m * 2 ^ e : ℚ) - (f.precision - 1 : ℕ)) f.minExponent = e := by
  have hm : (0 : ℚ) < m := by
    have hpos := f.magnitude_pos hr
    rw [h] at hpos
    exact_mod_cast hpos
  have hq : (0 : ℚ) < m * 2 ^ e := by positivity
  have hlt : ∀ k : ℤ, (m : ℚ) < 2 ^ k ↔ Int.log 2 (m * 2 ^ e : ℚ) < k + e := by
    intro k
    rw [← Int.lt_zpow_iff_log_lt (by norm_num) hq, Nat.cast_ofNat,
      zpow_add₀ two_ne_zero, mul_lt_mul_iff_left₀ (by positivity)]
  have hle : ∀ k : ℤ, (2 : ℚ) ^ k ≤ m ↔ k + e ≤ Int.log 2 (m * 2 ^ e : ℚ) := by
    intro k
    rw [← not_lt, hlt, not_lt]
  rw [magnitude] at h
  split at h
  -- below the leading bit the exponent is the least one
  · rename_i hsmall
    obtain ⟨rfl, rfl⟩ := Prod.mk.inj h
    have hlog := (hlt (f.precision - 1 : ℕ)).mp (by
      rw [← leading_cast]
      exact_mod_cast hsmall)
    omega
  -- else the mantissa has just as many bits as the precision
  · rename_i hlarge
    obtain ⟨rfl, rfl⟩ := Prod.mk.inj h
    have hmod := Nat.mod_lt rank f.leading_pos
    have hlow := (hle (f.precision - 1 : ℕ)).mp (by
      rw [← leading_cast]
      exact_mod_cast Nat.le_add_right _ _)
    have hhigh := (hlt ((f.precision - 1 : ℕ) + 1)).mp (by
      rw [zpow_add₀ two_ne_zero, ← leading_cast, zpow_one]
      exact_mod_cast (by omega : f.leading + rank % f.leading < f.leading * 2))
    have hdiv : 1 ≤ rank / f.leading :=
      (Nat.one_le_div_iff f.leading_pos).mpr (by omega)
    omega

/-- **A magnitude is its own nearest one.** -/
theorem nearestRank_magnitude {rank : ℕ} (hr : 0 < rank) {m : ℕ} {e : ℤ}
    (h : f.magnitude rank = (m, e)) :
    f.nearestRank (m * power 2 e) (power 2 (-e)) = rank := by
  have hm : 0 < m := by
    have hpos := f.magnitude_pos hr
    rwa [h] at hpos
  have hnum : 0 < m * power 2 e := Nat.mul_pos hm (power_pos (by norm_num) e)
  have hden : 0 < power 2 (-e) := power_pos (by norm_num) _
  have hratio : ((m * power 2 e : ℕ) : ℚ) / power 2 (-e) = m * 2 ^ e := by
    exact_mod_cast mul_power_ratio m 2 e
  simp only [nearestRank, if_neg hnum.ne', floorLog2_eq_log hnum hden, hratio,
    f.exponent_magnitude hr h]
  rw [Nat.mul_assoc, Nat.mul_comm (power 2 (-e)),
    roundHalfEven_mul_right m (Nat.mul_pos (power_pos (by norm_num) e) hden)]
  rw [magnitude] at h
  split at h
  · obtain ⟨rfl, rfl⟩ := Prod.mk.inj h
    simp
  · rename_i hlarge
    obtain ⟨rfl, rfl⟩ := Prod.mk.inj h
    have hdiv : 1 ≤ rank / f.leading :=
      (Nat.one_le_div_iff f.leading_pos).mpr (by omega)
    have hexp : (f.minExponent + (rank / f.leading : ℕ) - 1 -
        f.minExponent).toNat = rank / f.leading - 1 := by omega
    rw [hexp, ← Nat.add_assoc, ← Nat.succ_mul, Nat.succ_eq_add_one,
      Nat.sub_add_cancel hdiv]
    exact Nat.div_add_mod' rank f.leading

/-! ## Out of reach -/

/-- Less than half of the smallest magnitude. -/
theorem nearestRank_eq_zero (hd : 0 < den)
    (h : (num : ℚ) / den < 2 ^ (f.minExponent - 1)) :
    f.nearestRank num den = 0 := by
  by_cases hn : num = 0
  · rw [nearestRank, if_pos hn]
  · have hnum : 0 < num := Nat.pos_of_ne_zero hn
    have hdq : (0 : ℚ) < den := by exact_mod_cast hd
    have hq : (0 : ℚ) < num / den := div_pos (by exact_mod_cast hnum) hdq
    have hlog : Int.log 2 (num / den : ℚ) < f.minExponent - 1 :=
      (Int.lt_zpow_iff_log_lt (by norm_num) hq).mp h
    have hexp : max (Int.log 2 (num / den : ℚ) - (f.precision - 1 : ℕ))
        f.minExponent = f.minExponent := by omega
    have hround : roundHalfEven (num * power 2 (-f.minExponent))
        (den * power 2 f.minExponent) = 0 := by
      refine roundHalfEven_eq_zero ?_
      rw [← Nat.mul_assoc, power_lt_iff two_pos hd, Nat.cast_mul, mul_div_assoc]
      calc ((2 : ℕ) : ℚ) * (num / den)
          < 2 * 2 ^ (f.minExponent - 1) := by
            exact_mod_cast mul_lt_mul_of_pos_left h two_pos
        _ = 2 ^ f.minExponent := by
            rw [← zpow_one_add₀ two_ne_zero, add_sub_cancel]
    simp only [nearestRank, if_neg hn, floorLog2_eq_log hnum hd, hexp, hround]
    simp

/-- More than the largest magnitude. -/
theorem limit_le_nearestRank (hn : 0 < num) (hd : 0 < den)
    (h : (2 : ℚ) ^ (f.reach + 2 : ℤ) ≤ num / den) :
    f.limit ≤ f.nearestRank num den := by
  have hq : (0 : ℚ) < num / den := lt_of_lt_of_le (by positivity) h
  have hlog : (f.reach + 2 : ℤ) ≤ Int.log 2 (num / den : ℚ) :=
    (Int.zpow_le_iff_le_log (by norm_num) hq).mp (by exact_mod_cast h)
  have hdouble : Nat.pow 2 f.exponentBits ≤ 2 * Nat.pow 2 (f.exponentBits - 1) := by
    cases f.exponentBits with
    | zero => simp
    | succ n => exact (Nat.pow_succ' (n := n)).le
  have hexp : Nat.pow 2 f.exponentBits - 1 ≤
      (max (Int.log 2 (num / den : ℚ) - (f.precision - 1 : ℕ)) f.minExponent -
        f.minExponent).toNat := by
    simp only [reach, minExponent] at hlog ⊢
    generalize Nat.pow 2 f.exponentBits = total at hdouble ⊢
    generalize Nat.pow 2 (f.exponentBits - 1) = half at hdouble hlog ⊢
    omega
  simp only [nearestRank, if_neg hn.ne', floorLog2_eq_log hn hd]
  exact Nat.le_add_right_of_le (Nat.mul_le_mul_right _ hexp)

end BinaryFormat

/-! ## Decimals -/

theorem digitCount_bounds {n : ℕ} (hn : 0 < n) :
    (10 : ℚ) ^ ((digitCount n : ℤ) - 1) ≤ n ∧
      (n : ℚ) < 10 ^ (digitCount n : ℤ) := by
  have hpos : 0 < digitCount n := Nat.length_toDigits_pos
  have hhigh : n < 10 ^ digitCount n :=
    (Nat.length_toDigits_le_iff (by norm_num) hpos).mp le_rfl
  have hlow : 10 ^ (digitCount n - 1) ≤ n := by
    rw [← not_lt]
    intro hlt
    rcases Nat.eq_zero_or_pos (digitCount n - 1) with h0 | h1
    · rw [h0] at hlt
      omega
    · have hle := (Nat.length_toDigits_le_iff (by norm_num) h1).mpr hlt
      change digitCount n ≤ _ at hle
      omega
  constructor
  · rw [show ((digitCount n : ℤ) - 1) = (digitCount n - 1 : ℕ) by omega,
      zpow_natCast]
    exact_mod_cast hlow
  · rw [zpow_natCast]
    exact_mod_cast hhigh

theorem decimal_ratio (digits : ℕ) (e : ℤ) :
    ((digits * power 10 e : ℕ) : ℚ) / power 10 (-e) = digits * 10 ^ e := by
  exact_mod_cast mul_power_ratio digits 10 e

/-- A decimal below the reach of a format rounds to zero. -/
theorem BinaryFormat.nearestRank_of_lt_reach (f : BinaryFormat) {digits : ℕ}
    (hpos : 0 < digits) {e : ℤ} (horder : e + digitCount digits < -f.reach) :
    f.nearestRank (digits * power 10 e) (power 10 (-e)) = 0 := by
  refine f.nearestRank_eq_zero (power_pos (by norm_num) _) ?_
  have hhigh := (digitCount_bounds hpos).2
  rw [decimal_ratio]
  calc (digits : ℚ) * 10 ^ e
      < 10 ^ (digitCount digits : ℤ) * 10 ^ e := by gcongr
    _ = 10 ^ (e + digitCount digits) := by
        rw [← zpow_add₀ (by norm_num), add_comm]
    _ ≤ 10 ^ (-f.reach : ℤ) := zpow_le_zpow_right₀ (by norm_num) horder.le
    _ ≤ 2 ^ (-f.reach : ℤ) := by
        rw [zpow_neg, zpow_neg, zpow_natCast, zpow_natCast]
        gcongr
        norm_num
    _ ≤ 2 ^ (f.minExponent - 1) := by
        refine zpow_le_zpow_right₀ (by norm_num) ?_
        rw [reach, minExponent]
        omega

/-- A decimal above the reach of a format overflows. -/
theorem BinaryFormat.limit_le_of_reach_lt (f : BinaryFormat) {digits : ℕ}
    (hpos : 0 < digits) {e : ℤ} (horder : f.reach < e + digitCount digits - 1) :
    f.limit ≤ f.nearestRank (digits * power 10 e) (power 10 (-e)) := by
  refine f.limit_le_nearestRank (Nat.mul_pos hpos (power_pos (by norm_num) _))
    (power_pos (by norm_num) _) ?_
  have hlow := (digitCount_bounds hpos).1
  rw [decimal_ratio]
  -- two binary orders of magnitude are less than one decimal order
  calc (2 : ℚ) ^ (f.reach + 2 : ℤ)
      ≤ 2 ^ (2 * (f.reach + 1) : ℤ) :=
        zpow_le_zpow_right₀ (by norm_num) (by omega)
    _ = 4 ^ (f.reach + 1) := by
        rw [zpow_mul]
        norm_cast
    _ ≤ 10 ^ (f.reach + 1) := by
        gcongr
        norm_num
    _ ≤ 10 ^ (digitCount digits - 1 + e : ℤ) := by
        rw [← zpow_natCast]
        exact zpow_le_zpow_right₀ (by norm_num) (by push_cast; omega)
    _ = 10 ^ ((digitCount digits : ℤ) - 1) * 10 ^ e := by
        rw [zpow_add₀ (by norm_num)]
    _ ≤ digits * 10 ^ e := by gcongr

/-- **What a decimal is read as.** The shortcuts for decimals out of reach give
what rounding would. -/
theorem Decimal.toBinary_eq {f : BinaryFormat} (d : Decimal) :
    (d.toBinary : Binary f) = .nearest d.negative (d.digits * power 10 d.exponent)
      (power 10 (-d.exponent)) := by
  rw [toBinary.eq_def]
  split
  · rename_i hzero
    rw [hzero, Nat.zero_mul]
    rfl
  · rename_i hdigits
    have hpos : 0 < d.digits := Nat.pos_of_ne_zero hdigits
    simp only
    split
    · rename_i horder
      rw [Binary.nearest, Binary.nearest, f.nearestRank_of_lt_reach hpos horder]
      rfl
    · split
      · rename_i horder
        have hlarge := f.limit_le_of_reach_lt hpos horder
        rw [Binary.nearest, Binary.ofRank, dif_neg (by omega)]
      · rfl

end Searchlight
