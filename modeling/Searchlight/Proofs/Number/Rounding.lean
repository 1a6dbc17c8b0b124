import Searchlight.Proofs.Number.Nearest

/-!
# The distance of rounding

A quotient is less than a unit in the last place away from the magnitude it is
rounded to, in fact half of one at most. So what lies close enough to a magnitude
is rounded to it, and what is rounded to one magnitude lies close together.
-/

namespace Searchlight

variable {num den : ℕ}

theorem abs_roundHalfEven_sub_le (num : ℕ) (hd : 0 < den) :
    |(roundHalfEven num den : ℚ) - num / den| ≤ 1 / 2 := by
  have hdq : (0 : ℚ) < den := by exact_mod_cast hd
  have hnum : (num : ℚ) = den * (num / den : ℕ) + (num % den : ℕ) := by
    exact_mod_cast (Nat.div_add_mod num den).symm
  have hquotient : (num / den : ℚ) = (num / den : ℕ) + (num % den : ℕ) / den := by
    rw [hnum]
    field_simp
  have hmod : num % den < den := Nat.mod_lt num hd
  rw [roundHalfEven, hquotient, abs_le]
  split
  · rename_i hup
    have hhalf : (den : ℚ) ≤ 2 * (num % den : ℕ) := by
      exact_mod_cast (by omega : den ≤ 2 * (num % den))
    have hlow : (1 / 2 : ℚ) ≤ (num % den : ℕ) / den := by
      rw [le_div_iff₀ hdq]
      linarith
    have hhigh : ((num % den : ℕ) : ℚ) / den < 1 := by
      rw [div_lt_one hdq]
      exact_mod_cast hmod
    push_cast
    constructor <;> linarith
  · rename_i hdown
    have hhalf : 2 * ((num % den : ℕ) : ℚ) ≤ den := by
      exact_mod_cast (by omega : 2 * (num % den) ≤ den)
    have hlow : (0 : ℚ) ≤ (num % den : ℕ) / den := by positivity
    have hhigh : ((num % den : ℕ) : ℚ) / den ≤ 1 / 2 := by
      rw [div_le_iff₀ hdq]
      linarith
    constructor <;> linarith

namespace BinaryFormat

variable (f : BinaryFormat)

/-- The magnitude of a rank. -/
def value (rank : ℕ) : ℚ := (f.magnitude rank).1 * 2 ^ (f.magnitude rank).2

theorem value_zero : f.value 0 = 0 := by
  simp [value, magnitude, f.leading_pos]

theorem value_pos {rank : ℕ} (hr : 0 < rank) : 0 < f.value rank := by
  have hm : (0 : ℚ) < (f.magnitude rank).1 := by
    exact_mod_cast f.magnitude_pos hr
  exact mul_pos hm (zpow_pos two_pos _)

/-- Ranks are counted on through the exponents, the full mantissa of one being
the leading one of the next. -/
theorem value_rank {k mantissa : ℕ} (hk : k = 0 ∨ f.leading ≤ mantissa)
    (hm : mantissa ≤ 2 * f.leading) :
    f.value (k * f.leading + mantissa) = mantissa * 2 ^ (f.minExponent + k) := by
  have hpos := f.leading_pos
  rcases Nat.lt_or_ge mantissa f.leading with hsmall | hlarge
  · obtain rfl : k = 0 := by omega
    simp [value, magnitude, hsmall]
  · have hrank : ¬k * f.leading + mantissa < f.leading := by omega
    rcases Nat.lt_or_ge mantissa (2 * f.leading) with hless | hfull
    · have hdiv : (k * f.leading + mantissa) / f.leading = k + 1 := by
        rw [Nat.div_eq_of_lt_le] <;> nlinarith
      have hmod : f.leading + (k * f.leading + mantissa) % f.leading = mantissa := by
        have hsplit := Nat.div_add_mod (k * f.leading + mantissa) f.leading
        rw [hdiv] at hsplit
        nlinarith
      rw [value, magnitude, if_neg hrank, hdiv]
      dsimp only
      rw [hmod]
      congr 2
      push_cast
      ring
    · obtain rfl : mantissa = 2 * f.leading := by omega
      have hdiv : (k * f.leading + 2 * f.leading) / f.leading = k + 2 := by
        rw [← Nat.add_mul, Nat.mul_div_cancel _ hpos]
      have hmod : (k * f.leading + 2 * f.leading) % f.leading = 0 := by
        rw [← Nat.add_mul, Nat.mul_mod_left]
      rw [value, magnitude, if_neg hrank, hdiv, hmod]
      dsimp only
      rw [Nat.add_zero, show f.minExponent + ((k + 2 : ℕ) : ℤ) - 1 =
        1 + (f.minExponent + k) by push_cast; ring, zpow_one_add₀ two_ne_zero]
      push_cast
      ring

/-- The leading mantissa at an exponent is not above what the ranks from there on
stand for. -/
theorem leading_mul_le_value {k rank : ℕ} (hk : 1 ≤ k) (h : k * f.leading ≤ rank) :
    f.leading * 2 ^ (f.minExponent + k - 1) ≤ f.value rank := by
  have hle : k ≤ rank / f.leading := (Nat.le_div_iff_mul_le f.leading_pos).mpr h
  obtain ⟨n, hdiv⟩ : ∃ n, rank / f.leading = n + 1 := ⟨rank / f.leading - 1, by omega⟩
  have hmod := Nat.mod_lt rank f.leading_pos
  have hrank : n * f.leading + (f.leading + rank % f.leading) = rank := by
    have hsplit := Nat.div_add_mod' rank f.leading
    rw [hdiv, Nat.succ_mul] at hsplit
    omega
  rw [← hrank, f.value_rank (.inr (Nat.le_add_right _ _)) (by omega)]
  refine mul_le_mul ?_ ?_ (zpow_pos two_pos _).le (Nat.cast_nonneg _)
  · exact_mod_cast Nat.le_add_right f.leading _
  · exact zpow_le_zpow_right₀ one_le_two (by omega)

/-- The exponent of the unit that a quotient is rounded to. -/
def unitExponent (q : ℚ) : ℤ :=
  max (Int.log 2 q - (f.precision - 1 : ℕ)) f.minExponent

/-- In its units a quotient is less than a full mantissa. -/
theorem div_unit_lt (q : ℚ) : q / 2 ^ f.unitExponent q < 2 * f.leading := by
  have hlog : q < 2 ^ (Int.log 2 q + 1) :=
    Int.lt_zpow_succ_log_self one_lt_two _
  rw [div_lt_iff₀ (zpow_pos two_pos _), f.leading_cast,
    ← zpow_one_add₀ two_ne_zero, ← zpow_add₀ two_ne_zero]
  refine lt_of_lt_of_le hlog (zpow_le_zpow_right₀ one_le_two ?_)
  rw [unitExponent]
  omega

/-- Above the least exponent it is a leading mantissa at least. -/
theorem leading_le_div_unit {q : ℚ} (hq : 0 < q)
    (hmin : f.minExponent < f.unitExponent q) :
    (f.leading : ℚ) ≤ q / 2 ^ f.unitExponent q := by
  have hlog : (2 : ℚ) ^ Int.log 2 q ≤ q := Int.zpow_log_le_self one_lt_two hq
  rw [le_div_iff₀ (zpow_pos two_pos _), f.leading_cast, ← zpow_add₀ two_ne_zero]
  refine le_trans (zpow_le_zpow_right₀ one_le_two ?_) hlog
  rw [unitExponent] at hmin ⊢
  omega

/-- The mantissa of a rank is the quotient in units, rounded. -/
theorem nearestRank_eq (hn : 0 < num) (hd : 0 < den) {e : ℤ}
    (he : f.unitExponent (num / den) = e) :
    ∃ mantissa : ℕ,
      f.nearestRank num den = (e - f.minExponent).toNat * f.leading + mantissa ∧
      |(mantissa : ℚ) - num / den / 2 ^ e| ≤ 1 / 2 := by
  refine ⟨roundHalfEven (num * power 2 (-e)) (den * power 2 e), ?_, ?_⟩
  · rw [nearestRank, if_neg hn.ne', floorLog2_eq_log hn hd, ← he]
    rfl
  · have hround := abs_roundHalfEven_sub_le (num * power 2 (-e))
      (Nat.mul_pos hd (power_pos two_pos e))
    rwa [scaled_ratio two_pos] at hround

/-- **A quotient is rounded to a multiple of its unit, half a unit away at
most.** -/
theorem value_nearestRank (hn : 0 < num) (hd : 0 < den) {e : ℤ}
    (he : f.unitExponent (num / den) = e) :
    ∃ mantissa : ℕ, f.value (f.nearestRank num den) = mantissa * 2 ^ e ∧
      |f.value (f.nearestRank num den) - num / den| ≤ 2 ^ (e - 1) := by
  have hq : (0 : ℚ) < num / den :=
    div_pos (by exact_mod_cast hn) (by exact_mod_cast hd)
  have hunit : (0 : ℚ) < 2 ^ e := zpow_pos two_pos e
  have hmin : f.minExponent ≤ e := by
    rw [← he]
    exact le_max_right _ _
  obtain ⟨mantissa, hrank, hround⟩ := f.nearestRank_eq hn hd he
  have hdistance := abs_le.mp hround
  have hhigh : mantissa ≤ 2 * f.leading := by
    have hlt := f.div_unit_lt (num / den)
    rw [he] at hlt
    have hle : (mantissa : ℚ) < 2 * f.leading + 1 := by linarith [hdistance.2]
    exact Nat.lt_succ_iff.mp (by exact_mod_cast hle)
  have hlow : (e - f.minExponent).toNat = 0 ∨ f.leading ≤ mantissa := by
    rcases le_or_gt e f.minExponent with hle | hlt
    · left
      omega
    · right
      have hle := f.leading_le_div_unit hq (he.symm ▸ hlt)
      rw [he] at hle
      have hlt : (f.leading : ℚ) < mantissa + 1 := by linarith [hdistance.1]
      exact Nat.lt_succ_iff.mp (by exact_mod_cast hlt)
  have hvalue : f.value (f.nearestRank num den) = mantissa * 2 ^ e := by
    rw [hrank, f.value_rank hlow hhigh]
    congr 2
    omega
  refine ⟨mantissa, hvalue, ?_⟩
  have hfactor : (mantissa : ℚ) * 2 ^ e - num / den =
      (mantissa - num / den / 2 ^ e) * 2 ^ e := by
    field_simp
  calc |f.value (f.nearestRank num den) - num / den|
      = |(mantissa : ℚ) - num / den / 2 ^ e| * 2 ^ e := by
        rw [hvalue, hfactor, abs_mul, abs_of_pos hunit]
    _ ≤ 1 / 2 * 2 ^ e := by gcongr
    _ = 2 ^ (e - 1) := by
        rw [zpow_sub_one₀ two_ne_zero]
        ring

/-- Different ranks have different magnitudes. -/
theorem value_injective {r s : ℕ} (hr : 0 < r) (h : f.value r = f.value s) :
    r = s := by
  have hs : 0 < s := by
    rw [Nat.pos_iff_ne_zero]
    rintro rfl
    have hpos := f.value_pos hr
    rw [h, value_zero] at hpos
    exact lt_irrefl _ hpos
  have hratio : ∀ t, ((f.magnitude t).1 * power 2 (f.magnitude t).2 : ℕ) /
      (power 2 (-(f.magnitude t).2) : ℚ) = f.value t := by
    intro t
    exact_mod_cast mul_power_ratio (f.magnitude t).1 2 (f.magnitude t).2
  calc r = f.nearestRank ((f.magnitude r).1 * power 2 (f.magnitude r).2)
        (power 2 (-(f.magnitude r).2)) := (f.nearestRank_magnitude hr rfl).symm
    _ = f.nearestRank ((f.magnitude s).1 * power 2 (f.magnitude s).2)
        (power 2 (-(f.magnitude s).2)) :=
      f.nearestRank_congr (power_pos two_pos _) (power_pos two_pos _)
        (by rw [hratio, hratio, h])
    _ = s := f.nearestRank_magnitude hs rfl

/-- The mantissa of a magnitude has as many bits as the precision, or the
exponent is the least one. -/
theorem magnitude_bounds {rank m : ℕ} {e : ℤ} (h : f.magnitude rank = (m, e)) :
    m < 2 * f.leading ∧ f.minExponent ≤ e ∧
      (e = f.minExponent ∨ f.leading ≤ m) := by
  rw [magnitude] at h
  split at h
  · obtain ⟨rfl, rfl⟩ := Prod.mk.inj h
    exact ⟨by omega, le_rfl, .inl rfl⟩
  · obtain ⟨rfl, rfl⟩ := Prod.mk.inj h
    have hmod := Nat.mod_lt rank f.leading_pos
    have hdiv : 1 ≤ rank / f.leading :=
      (Nat.one_le_div_iff f.leading_pos).mpr (by omega)
    exact ⟨by omega, by omega, .inr (Nat.le_add_right _ _)⟩

/-- Close to a magnitude, the unit is that of the magnitude or half of it. -/
theorem unitExponent_of_close {rank m : ℕ} {e : ℤ}
    (hm : f.magnitude rank = (m, e)) {q : ℚ} (hq : 0 < q)
    (hclose : |q - m * 2 ^ e| < 2 ^ (e - 2)) :
    f.unitExponent q = e ∨ f.unitExponent q = e - 1 := by
  obtain ⟨hlow, hhigh⟩ := abs_lt.mp hclose
  obtain ⟨hbits, hmin, hform⟩ := f.magnitude_bounds hm
  have hquarter : (0 : ℚ) < 2 ^ (e - 2) := zpow_pos two_pos _
  have hunit : (2 : ℚ) ^ e = 4 * 2 ^ (e - 2) := by
    rw [zpow_sub₀ two_ne_zero]
    norm_num
    ring
  have hleading : (0 : ℚ) < f.leading := by exact_mod_cast f.leading_pos
  have hhalf : (1 : ℚ) ≤ f.leading := by exact_mod_cast f.leading_pos
  -- not above: the mantissa leaves room for the quarter
  have habove : f.unitExponent q ≤ e := by
    have hm' : (m : ℚ) + 1 ≤ 2 * f.leading := by exact_mod_cast hbits
    have hlt : q < 2 ^ ((f.precision - 1 : ℕ) + 1 + e : ℤ) := by
      rw [zpow_add₀ two_ne_zero, zpow_add_one₀ two_ne_zero, ← leading_cast, hunit]
      rw [hunit] at hhigh
      nlinarith
    have hlog := (Int.lt_zpow_iff_log_lt one_lt_two hq).mp hlt
    rw [unitExponent]
    omega
  -- not below half of it: the mantissa is the least one, or the exponent is
  have hbelow : e - 1 ≤ f.unitExponent q := by
    rcases hform with rfl | hlarge
    · rw [unitExponent]
      omega
    · have hm' : (f.leading : ℚ) ≤ m := by exact_mod_cast hlarge
      have hle : (2 : ℚ) ^ ((f.precision - 1 : ℕ) + (e - 1) : ℤ) ≤ q := by
        rw [zpow_add₀ two_ne_zero, ← leading_cast, zpow_sub_one₀ two_ne_zero, hunit]
        rw [hunit] at hlow
        nlinarith
      have hlog := (Int.zpow_le_iff_le_log one_lt_two hq).mp hle
      rw [unitExponent]
      omega
  omega

theorem eq_of_abs_sub_lt {a b : ℕ} {u : ℚ} (hu : 0 < u)
    (h : |(a : ℚ) * u - b * u| < u) : a = b := by
  rw [← sub_mul, abs_mul, abs_of_pos hu, mul_lt_iff_lt_one_left hu] at h
  have hint : |(a : ℤ) - b| < 1 := by exact_mod_cast h
  have hzero := Int.abs_lt_one_iff.mp hint
  omega

/-- Multiples of a unit on both sides of a number, less than half a unit away. -/
theorem eq_of_close {a b : ℕ} {u x : ℚ} (hu : 0 < u)
    (ha : |(a : ℚ) * u - x| ≤ u / 2) (hb : |x - b * u| < u / 2) : a = b := by
  refine eq_of_abs_sub_lt hu ?_
  calc |(a : ℚ) * u - b * u|
      ≤ |(a : ℚ) * u - x| + |x - b * u| := abs_sub_le _ _ _
    _ < u / 2 + u / 2 := add_lt_add_of_le_of_lt ha hb
    _ = u := add_halves u

/-- **What lies within a quarter of a unit of a magnitude is rounded to it.** -/
theorem nearestRank_of_close {rank m : ℕ} {e : ℤ} (hr : 0 < rank)
    (hm : f.magnitude rank = (m, e)) (hn : 0 < num) (hd : 0 < den)
    (hclose : |(num / den : ℚ) - m * 2 ^ e| < 2 ^ (e - 2)) :
    f.nearestRank num den = rank := by
  have hq : (0 : ℚ) < num / den :=
    div_pos (by exact_mod_cast hn) (by exact_mod_cast hd)
  have hvalue : f.value rank = m * 2 ^ e := by rw [value, hm]
  have hhalf : ∀ i : ℤ, (2 : ℚ) ^ (i - 1) = 2 ^ i / 2 := by
    intro i
    rw [zpow_sub_one₀ two_ne_zero, div_eq_mul_inv]
  have hquarter : (2 : ℚ) ^ (e - 2) = 2 ^ (e - 1) / 2 := by
    rw [← hhalf]
    congr 1
    ring
  refine (f.value_injective hr ?_).symm
  rw [hvalue]
  rcases f.unitExponent_of_close hm hq hclose with he | he
  -- in units of the magnitude
  · obtain ⟨mantissa, hrank, hround⟩ := f.value_nearestRank hn hd he
    rw [hrank, hhalf] at hround
    have hless : (2 : ℚ) ^ (e - 2) ≤ 2 ^ e / 2 := by
      rw [← hhalf]
      exact zpow_le_zpow_right₀ one_le_two (by omega)
    rw [hrank, eq_of_close (zpow_pos two_pos e) hround (hclose.trans_le hless)]
  -- in halves of them, of which the magnitude has twice as many
  · obtain ⟨mantissa, hrank, hround⟩ := f.value_nearestRank hn hd he
    have hdouble : (m : ℚ) * 2 ^ e = (2 * m : ℕ) * 2 ^ (e - 1) := by
      rw [hhalf]
      push_cast
      ring
    rw [hrank, hhalf (e - 1)] at hround
    rw [hdouble, hquarter] at hclose
    rw [hrank, hdouble, eq_of_close (zpow_pos two_pos (e - 1)) hround hclose]

/-- **Above the least exponent the distance is a small part of the quotient.** -/
theorem abs_value_sub_le (hn : 0 < num) (hd : 0 < den) (hp : 1 ≤ f.precision)
    (hnormal : (2 : ℚ) ^ (f.minExponent + (f.precision - 1 : ℕ)) ≤ num / den) :
    |f.value (f.nearestRank num den) - num / den| * 2 ^ f.precision ≤
      num / den := by
  have hq : (0 : ℚ) < num / den :=
    div_pos (by exact_mod_cast hn) (by exact_mod_cast hd)
  have hlog : f.minExponent + (f.precision - 1 : ℕ) ≤ Int.log 2 (num / den : ℚ) :=
    (Int.zpow_le_iff_le_log one_lt_two hq).mp (by exact_mod_cast hnormal)
  have he : f.unitExponent (num / den) =
      Int.log 2 (num / den : ℚ) - (f.precision - 1 : ℕ) := by
    rw [unitExponent]
    omega
  obtain ⟨-, -, hround⟩ := f.value_nearestRank hn hd he
  calc |f.value (f.nearestRank num den) - num / den| * 2 ^ f.precision
      ≤ 2 ^ (Int.log 2 (num / den : ℚ) - (f.precision - 1 : ℕ) - 1) *
          2 ^ f.precision := by gcongr
    _ = 2 ^ Int.log 2 (num / den : ℚ) := by
        rw [← zpow_natCast, ← zpow_add₀ two_ne_zero]
        congr 1
        omega
    _ ≤ num / den := Int.zpow_log_le_self one_lt_two hq

end BinaryFormat

end Searchlight
