import Searchlight.Proofs.Number.Widening

/-!
# The factor of one

No other number is numerically equal to one. It is what no number is changed by
as a factor, and it is widened to one and nothing else is.
-/

namespace Searchlight.Binary

open BinaryFormat

theorem one_single : (one : Single) = .finite false ⟨0x3f800000, by decide⟩ := rfl

theorem one_double : (one : Double) = .finite false ⟨0x3ff0000000000000, by decide⟩ :=
  rfl

/-- Only zero is numerically equal to a number that it is not. -/
theorem eq_of_same {f : BinaryFormat} {x : Binary f} {negative : Bool}
    {rank : Fin f.limit} (hrank : rank.val ≠ 0)
    (h : x.same (.finite negative rank) = true) : x = .finite negative rank := by
  cases x with
  | infinite _ | nan => cases h
  | finite s a =>
      simp only [same, Bool.and_eq_true, beq_iff_eq, Bool.or_eq_true] at h
      obtain ⟨hval, hsign⟩ := h
      obtain rfl : a = rank := Fin.ext hval
      rw [hsign.resolve_right hrank]

theorem same_one {x : Single} : x.same .one = true ↔ x = .one := by
  constructor
  · intro h
    rw [one_single] at h ⊢
    exact eq_of_same (by decide) h
  · rintro rfl
    rfl

theorem widen_one : (one : Single).widen = .one := by decide +kernel

theorem same_one_of_widen {x : Single} (h : x.widen.same .one = true) :
    x.same .one = true := by
  have hone : x.widen = .one := by
    rw [one_double] at h ⊢
    exact eq_of_same (by decide) h
  have hfinite : x.widen.isFinite = true := by rw [hone]; rfl
  exact same_one.mpr (widen_injective hfinite (hone.trans widen_one.symm))

/-- **A factor of one changes nothing.** -/
theorem mul_one (x : Single) : x.mul .one = x := by
  have hone : single.magnitude 0x3f800000 = (0x800000, -23) := rfl
  rw [one_single]
  cases x with
  | infinite s => cases s <;> rfl
  | nan => rfl
  | finite s a =>
      have hnegative : (s != false) = s := by cases s <;> rfl
      have hrank : ∀ {m : ℕ} {e : ℤ}, single.magnitude a = (m, e) →
          single.nearestRank (m * 0x800000 * power 2 (e + -23))
            (power 2 (-(e + -23))) = a := by
        intro m e hm
        rcases Nat.eq_zero_or_pos a.val with hzero | hpos
        · rw [hzero] at hm ⊢
          obtain ⟨rfl, rfl⟩ := Prod.mk.inj hm
          rfl
        · rw [← single.nearestRank_magnitude hpos hm]
          refine single.nearestRank_congr (power_pos two_pos _) (power_pos two_pos _) ?_
          rw [mul_power_ratio, mul_power_ratio]
          have hpower : ((2 : ℕ) : ℚ) ^ (-23 : ℤ) = 1 / 0x800000 := by norm_num
          rw [zpow_add₀ (by norm_num), hpower]
          push_cast
          ring
      generalize hm : single.magnitude a = magnitude at hrank
      obtain ⟨m, e⟩ := magnitude
      simp only [mul, hm, hone, nearest, hrank rfl, hnegative]
      exact dif_pos a.isLt

end Searchlight.Binary
