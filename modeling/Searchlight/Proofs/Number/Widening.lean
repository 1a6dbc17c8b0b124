import Mathlib.Algebra.Order.Floor.Semifield
import Searchlight.Proofs.Number.Rounding
import Searchlight.Proofs.Number.Shortest

/-!
# Widening keeps numbers apart

The shortest decimal of a single-precision number has nine digits at most. Two
different decimals of so few digits lie further apart than double precision
rounds, so that different numbers stay different when they are widened.
-/

namespace Searchlight

theorem floorLog10_eq_log {num den : ℕ} (hn : 0 < num) (hd : 0 < den) :
    floorLog10 num den = Int.log 10 (num / den : ℚ) := by
  obtain ⟨hn₁, hn₂⟩ := digitCount_bounds hn
  obtain ⟨hd₁, hd₂⟩ := digitCount_bounds hd
  have hlog := log_quotient (by norm_num : 1 < 10) hd hn₁
    (by rwa [sub_add_cancel]) hd₁ (by rwa [sub_add_cancel])
  rw [sub_sub_sub_cancel_right] at hlog
  exact hlog

theorem stripZeros_le (fuel digits : ℕ) (exponent : ℤ) :
    (stripZeros fuel digits exponent).1 ≤ digits := by
  induction fuel generalizing digits exponent with
  | zero => exact le_rfl
  | succ fuel ih =>
      rw [stripZeros]
      split
      · exact (ih _ _).trans (Nat.div_le_self digits 10)
      · exact le_rfl

namespace BinaryFormat

variable {f : BinaryFormat}

/-- A candidate is one of the two neighbours on its grid. -/
theorem le_of_onGrid? {tie : DecimalTie} {rank num den digits : ℕ} {e e' : ℤ}
    (h : f.onGrid? tie rank num den e = some (digits, e')) :
    digits ≤ num * power 10 (-e) / (den * power 10 e) + 1 := by
  obtain ⟨d, hfind, heq⟩ := Option.map_eq_some_iff.mp h
  obtain ⟨rfl, rfl⟩ := Prod.mk.inj heq
  have hmem := List.mem_of_find?_eq_some hfind
  split at hmem
  · simp only [List.mem_cons, List.not_mem_nil, or_false] at hmem
    omega
  · simp only [List.mem_cons, List.not_mem_nil, or_false] at hmem
    omega

/-- The neighbour below is taken unless the one above is. -/
theorem onGrid?_isSome {tie : DecimalTie} {rank num den : ℕ} {e : ℤ}
    (h : f.nearestRank (num * power 10 (-e) / (den * power 10 e) * power 10 e)
      (power 10 (-e)) = rank) :
    (f.onGrid? tie rank num den e).isSome = true := by
  rw [onGrid?]
  simp only [Option.isSome_map, List.find?_isSome]
  refine ⟨num * power 10 (-e) / (den * power 10 e), ?_, ?_⟩
  · split <;> simp
  · simp [readsBack, h]

/-- A count of digits on whose grid a neighbour reads back is enough. -/
theorem shortest_of_isSome {tie : DecimalTie} {rank m : ℕ} {e : ℤ} {n₀ : ℕ}
    (hm : f.magnitude rank = (m, e)) (hn₀ : 0 < n₀) (hmany : n₀ ≤ 17)
    (hhit : (f.onGrid? tie rank (m * power 2 e) (power 2 (-e))
      (floorLog10 (m * power 2 e) (power 2 (-e)) - n₀ + 1)).isSome = true) :
    ∃ (n digits : ℕ) (exponent : ℤ), n ≤ n₀ ∧
      f.onGrid? tie rank (m * power 2 e) (power 2 (-e))
        (floorLog10 (m * power 2 e) (power 2 (-e)) - n + 1) =
          some (digits, exponent) ∧
      f.shortest tie rank = stripZeros (digitCount digits) digits exponent := by
  have hmem : n₀ ∈ (List.range 17).map (· + 1) := by
    simp only [List.mem_map, List.mem_range]
    exact ⟨n₀ - 1, by omega, by omega⟩
  have hsorted : ((List.range 17).map (· + 1)).Pairwise (· < ·) := by decide
  unfold shortest
  rw [hm]
  generalize (List.range 17).map (· + 1) = counts at hmem hsorted ⊢
  dsimp only
  cases hfound : counts.findSome? fun (n : ℕ) => f.onGrid? tie rank
      (m * power 2 e) (power 2 (-e))
      (floorLog10 (m * power 2 e) (power 2 (-e)) - (n : ℤ) + 1) with
  | none =>
      rw [List.findSome?_eq_none_iff.mp hfound n₀ hmem] at hhit
      cases hhit
  | some found =>
      obtain ⟨before, n, after, rfl, hgrid, hnone⟩ :=
        List.findSome?_eq_some_iff.mp hfound
      refine ⟨n, found.1, found.2, ?_, hgrid, rfl⟩
      -- the counts before the one that is found have no such neighbour
      rcases List.mem_append.mp hmem with hbefore | hrest
      · rw [hnone n₀ hbefore] at hhit
        cases hhit
      · rcases List.mem_cons.mp hrest with rfl | hafter
        · exact le_rfl
        · have htail := (List.pairwise_append.mp hsorted).2.1
          exact ((List.pairwise_cons.mp htail).1 n₀ hafter).le

/-! ## Nine digits -/

variable {num den : ℕ}

/-- The neighbours of a quotient on the grid of its first digits. -/
theorem below_grid (num den : ℕ) (e : ℤ) :
    num * power 10 (-e) / (den * power 10 e) =
      ⌊(num / den / 10 ^ e : ℚ)⌋₊ := by
  have hratio : ((num * power 10 (-e) : ℕ) : ℚ) / (den * power 10 e : ℕ) =
      num / den / 10 ^ e := by
    exact_mod_cast scaled_ratio (by norm_num : 0 < 10) num den e
  rw [← hratio, Nat.floor_div_eq_div]

theorem below_grid_lt (hn : 0 < num) (hd : 0 < den) (n : ℕ) :
    num * power 10 (-(floorLog10 num den - n + 1)) /
      (den * power 10 (floorLog10 num den - n + 1)) < 10 ^ n := by
  have hlog : (num / den : ℚ) < 10 ^ (floorLog10 num den + 1) := by
    rw [floorLog10_eq_log hn hd]
    exact Int.lt_zpow_succ_log_self (by norm_num) _
  rw [below_grid, Nat.floor_lt (by positivity), div_lt_iff₀ (by positivity)]
  push_cast
  rw [← zpow_natCast, ← zpow_add₀ (by norm_num)]
  calc (num / den : ℚ) < 10 ^ (floorLog10 num den + 1) := hlog
    _ = 10 ^ ((n : ℤ) + (floorLog10 num den - n + 1)) := by
        congr 1
        ring

theorem abs_floor_mul_sub_lt {q step : ℚ} (hq : 0 ≤ q) (hstep : 0 < step) :
    |(⌊q / step⌋₊ : ℚ) * step - q| < step := by
  have hlow : (⌊q / step⌋₊ : ℚ) * step ≤ q :=
    (le_div_iff₀ hstep).mp (Nat.floor_le (div_nonneg hq hstep.le))
  have hhigh : q < (⌊q / step⌋₊ + 1) * step :=
    (div_lt_iff₀ hstep).mp (Nat.lt_floor_add_one _)
  rw [abs_lt]
  constructor
  · linarith
  · linarith

/-- The ninth digit counts for less than a quarter of the last bit. -/
theorem ninth_step_lt {q : ℚ} {e step : ℤ} (hlow : (10 : ℚ) ^ (step + 8) ≤ q)
    (hhigh : q < 2 ^ 24 * 2 ^ e) : (10 : ℚ) ^ step < 2 ^ (e - 2) := by
  have hquarter : (2 : ℚ) ^ e = 4 * 2 ^ (e - 2) := by
    rw [zpow_sub₀ two_ne_zero]
    ring
  have hpos : (0 : ℚ) < 10 ^ step := by positivity
  rw [zpow_add₀ (by norm_num)] at hlow
  rw [hquarter] at hhigh
  norm_num at hlow hhigh
  linarith

/-- With nine digits the neighbour below reads back. -/
theorem single_onGrid?_isSome (tie : DecimalTie) {rank m : ℕ} {e : ℤ}
    (hr : 0 < rank) (hm : single.magnitude rank = (m, e)) (hn : 0 < num)
    (hd : 0 < den) (hratio : (num / den : ℚ) = m * 2 ^ e) :
    (single.onGrid? tie rank num den
      (floorLog10 num den - (9 : ℕ) + 1)).isSome = true := by
  apply onGrid?_isSome
  rw [below_grid]
  obtain ⟨q, hq⟩ : ∃ q : ℚ, q = num / den := ⟨_, rfl⟩
  obtain ⟨step, hstep⟩ : ∃ step, step = floorLog10 num den - (9 : ℕ) + 1 := ⟨_, rfl⟩
  have hqpos : 0 < q := hq ▸ div_pos (by exact_mod_cast hn) (by exact_mod_cast hd)
  have hgrid : (0 : ℚ) < 10 ^ step := by positivity
  -- the first of the nine digits is not zero
  have hlow : (10 : ℚ) ^ (step + 8) ≤ q := by
    rw [hstep, hq, floorLog10_eq_log hn hd]
    refine le_trans (le_of_eq ?_)
      (Int.zpow_log_le_self (b := 10) (by norm_num) (hq ▸ hqpos))
    push_cast
    congr 1
    ring
  have hhigh : q < 2 ^ 24 * 2 ^ e := by
    have hbits : (m : ℚ) < 2 ^ 24 := by
      exact_mod_cast (single.magnitude_bounds hm).1
    rw [hq, hratio]
    exact mul_lt_mul_of_pos_right hbits (zpow_pos two_pos e)
  rw [← hstep, ← hq]
  have hpos : 0 < ⌊q / 10 ^ step⌋₊ := by
    refine Nat.floor_pos.mpr ((one_le_div hgrid).mpr (le_trans ?_ hlow))
    exact zpow_le_zpow_right₀ (by norm_num) (by omega)
  refine single.nearestRank_of_close hr hm
    (Nat.mul_pos hpos (power_pos (by norm_num) _)) (power_pos (by norm_num) _) ?_
  rw [decimal_ratio, ← hratio, ← hq]
  exact (abs_floor_mul_sub_lt hqpos.le hgrid).trans (ninth_step_lt hlow hhigh)

/-- **The shortest decimal of a single-precision number has nine digits at
most.** -/
theorem single_shortest_le (tie : DecimalTie) {rank : ℕ} (hr : 0 < rank) :
    (single.shortest tie rank).1 ≤ 10 ^ 9 := by
  obtain ⟨m, e, hm⟩ : ∃ m e, single.magnitude rank = (m, e) := ⟨_, _, rfl⟩
  have hmpos : 0 < m := by
    have hpos := single.magnitude_pos hr
    rwa [hm] at hpos
  obtain ⟨num, hnum⟩ : ∃ num, num = m * power 2 e := ⟨_, rfl⟩
  obtain ⟨den, hden⟩ : ∃ den, den = power 2 (-e) := ⟨_, rfl⟩
  have hn : 0 < num := hnum ▸ Nat.mul_pos hmpos (power_pos two_pos e)
  have hd : 0 < den := hden ▸ power_pos two_pos _
  have hratio : (num / den : ℚ) = m * 2 ^ e := by
    rw [hnum, hden]
    exact_mod_cast mul_power_ratio m 2 e
  have hhit := single_onGrid?_isSome tie hr hm hn hd hratio
  rw [hnum, hden] at hhit
  obtain ⟨n, digits, exponent, hn₉, hgrid, hshortest⟩ :=
    shortest_of_isSome hm (by norm_num) (by norm_num) hhit
  rw [← hnum, ← hden] at hgrid
  calc (single.shortest tie rank).1 ≤ digits := by
        rw [hshortest]
        exact stripZeros_le _ _ _
    _ ≤ num * power 10 (-(floorLog10 num den - n + 1)) /
          (den * power 10 (floorLog10 num den - n + 1)) + 1 := le_of_onGrid? hgrid
    _ ≤ 10 ^ n := below_grid_lt hn hd n
    _ ≤ 10 ^ 9 := Nat.pow_le_pow_right (by norm_num) hn₉

/-! ## Distances -/

/-- Decimals of nine digits that are both within rounding of one number. -/
theorem decimal_eq_of_close {a b : ℕ} {i j : ℤ} {v : ℚ} (ha : a ≤ 10 ^ 9)
    (hb : b ≤ 10 ^ 9) (hva : |v - a * 10 ^ i| * 2 ^ 53 ≤ a * 10 ^ i)
    (hvb : |v - b * 10 ^ j| * 2 ^ 53 ≤ b * 10 ^ j) :
    (a : ℚ) * 10 ^ i = b * 10 ^ j := by
  wlog hij : i ≤ j generalizing a b i j
  · exact (this hb ha hvb hva (by omega)).symm
  obtain ⟨n, rfl⟩ : ∃ n : ℕ, j = i + n := ⟨(j - i).toNat, by omega⟩
  -- both are multiples of the finer step
  have hunit : (0 : ℚ) < 10 ^ i := by positivity
  have hfine : (b : ℚ) * 10 ^ (i + n : ℤ) = (b * 10 ^ n : ℕ) * 10 ^ i := by
    rw [zpow_add₀ (by norm_num), zpow_natCast]
    push_cast
    ring
  have hsmall : (a : ℚ) * 10 ^ i ≤ 10 ^ 9 * 10 ^ i :=
    mul_le_mul_of_nonneg_right (by exact_mod_cast ha) hunit.le
  rw [hfine] at hvb ⊢
  have htriangle := abs_sub_le ((a : ℚ) * 10 ^ i) v ((b * 10 ^ n : ℕ) * 10 ^ i)
  have hreach := neg_abs_le ((a : ℚ) * 10 ^ i - (b * 10 ^ n : ℕ) * 10 ^ i)
  rw [abs_sub_comm _ v] at htriangle
  have heq : a = b * 10 ^ n := eq_of_abs_sub_lt hunit (by linarith)
  rw [heq]

/-- Double precision is normal wherever single precision is not zero, so that
only a small part of a decimal is lost. -/
theorem double_abs_value_sub_le {digits : ℕ} {e : ℤ}
    (h : 0 < single.nearestRank (digits * power 10 e) (power 10 (-e))) :
    |double.value (double.nearestRank (digits * power 10 e) (power 10 (-e))) -
      digits * 10 ^ e| * 2 ^ 53 ≤ digits * 10 ^ e := by
  have hden : 0 < power 10 (-e) := power_pos (by norm_num) _
  have hnum : 0 < digits * power 10 e := by
    rw [Nat.pos_iff_ne_zero]
    intro hzero
    simp [hzero, nearestRank] at h
  have hlow : (2 : ℚ) ^ (-150 : ℤ) ≤ (digits * power 10 e : ℕ) / power 10 (-e) := by
    rw [← not_lt]
    intro hlt
    exact h.ne' (single.nearestRank_eq_zero hden hlt)
  have hnormal : (2 : ℚ) ^ (double.minExponent + (double.precision - 1 : ℕ)) ≤
      2 ^ (-150 : ℤ) :=
    zpow_le_zpow_right₀ one_le_two (by decide)
  have hclose := double.abs_value_sub_le hnum hden (by decide) (hnormal.trans hlow)
  rwa [decimal_ratio] at hclose

end BinaryFormat

namespace Binary

open BinaryFormat

/-- A number is widened from a decimal of nine digits that reads back as it. -/
theorem widen_decimal (negative : Bool) (rank : Fin single.limit) :
    ∃ (digits : ℕ) (e : ℤ), digits ≤ 10 ^ 9 ∧
      single.nearestRank (digits * power 10 e) (power 10 (-e)) = rank ∧
      |double.value (double.nearestRank (digits * power 10 e) (power 10 (-e))) -
        digits * 10 ^ e| * 2 ^ 53 ≤ digits * 10 ^ e ∧
      (finite negative rank : Single).widen =
        ofRank negative (double.nearestRank (digits * power 10 e) (power 10 (-e))) := by
  rw [widen]
  split
  · rename_i hzero
    refine ⟨0, 0, by norm_num, ?_, ?_, ?_⟩
    · rw [hzero]
      rfl
    · simp [nearestRank, double.value_zero]
    · rw [nearest, Nat.zero_mul]
      rfl
  · rename_i hrank
    have hpos : 0 < rank.val := Nat.pos_of_ne_zero hrank
    have hback := single.nearestRank_shortest .away hpos
    have hnine := single_shortest_le .away hpos
    generalize single.shortest .away rank = decimal at hback hnine
    obtain ⟨digits, e⟩ := decimal
    exact ⟨digits, e, hnine, hback, double_abs_value_sub_le (hback ▸ hpos),
      Decimal.toBinary_eq _⟩

theorem isFinite_of_widen {x : Single} (h : x.widen.isFinite = true) :
    x.isFinite = true := by
  cases x with
  | finite negative rank => rfl
  | infinite negative => exact h
  | nan => exact h

/-- What single precision holds is far below the limit of double precision. -/
theorem isFinite_widen (x : Single) : x.widen.isFinite = x.isFinite := by
  cases x with
  | infinite negative => rfl
  | nan => rfl
  | finite negative rank =>
      obtain ⟨digits, e, -, hback, hclose, hwiden⟩ := widen_decimal negative rank
      have hden : 0 < power 10 (-e) := power_pos (by norm_num) _
      have hsmall : (digits * 10 ^ e : ℚ) < 2 ^ (154 : ℤ) := by
        rw [← not_le]
        intro hlarge
        have hnum : 0 < digits * power 10 e := by
          rw [Nat.pos_iff_ne_zero]
          intro hzero
          rw [← decimal_ratio, hzero, Nat.cast_zero, zero_div] at hlarge
          exact absurd hlarge (not_le.mpr (zpow_pos two_pos _))
        have hlimit := single.limit_le_nearestRank hnum hden
          (by rw [decimal_ratio]; exact hlarge)
        rw [hback] at hlimit
        exact absurd rank.isLt (not_lt.mpr hlimit)
      have hrank : double.nearestRank (digits * power 10 e) (power 10 (-e)) <
          double.limit := by
        rw [← not_le]
        intro hlimit
        have hvalue := double.leading_mul_le_value (k := 2047) (by norm_num) hlimit
        have hpower : (2 : ℚ) ^ (155 : ℤ) ≤
            double.leading * 2 ^ (double.minExponent + (2047 : ℕ) - 1) := by
          rw [double.leading_cast, ← zpow_add₀ two_ne_zero]
          exact zpow_le_zpow_right₀ one_le_two (by decide)
        have hdistance := le_abs_self
          (double.value (double.nearestRank (digits * power 10 e) (power 10 (-e))) -
            digits * 10 ^ e)
        have hlarge := hpower.trans hvalue
        norm_num at hlarge hsmall hclose
        linarith
      rw [hwiden, ofRank, dif_pos hrank]
      rfl

theorem ofRank_inj {f : BinaryFormat} {s t : Bool} {a b : ℕ}
    (hfinite : (ofRank s a : Binary f).isFinite = true)
    (h : (ofRank s a : Binary f) = ofRank t b) : s = t ∧ a = b := by
  by_cases ha : a < f.limit
  · by_cases hb : b < f.limit
    · simpa [ofRank, ha, hb] using h
    · simp [ofRank, ha, hb] at h
  · simp [ofRank, ha, isFinite] at hfinite

/-- **Widening keeps numbers apart.** -/
theorem widen_injective {x y : Single} (hfinite : x.widen.isFinite = true)
    (h : x.widen = y.widen) : x = y := by
  have hx := isFinite_of_widen hfinite
  have hy := isFinite_of_widen (h ▸ hfinite)
  cases x with
  | infinite _ | nan => cases hx
  | finite s a =>
      cases y with
      | infinite _ | nan => cases hy
      | finite t b =>
          obtain ⟨digits, i, hdigits, ha, hclose, hwiden⟩ := widen_decimal s a
          obtain ⟨digits', j, hdigits', hb, hclose', hwiden'⟩ := widen_decimal t b
          rw [hwiden] at hfinite h
          rw [hwiden'] at h
          obtain ⟨rfl, hrank⟩ := ofRank_inj hfinite h
          rw [← hrank] at hclose'
          have hvalue := decimal_eq_of_close hdigits hdigits' hclose hclose'
          rw [Fin.ext (ha.symm.trans ((nearestRank_decimal hvalue).trans hb))]

end Binary

end Searchlight
