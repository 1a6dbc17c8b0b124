import Searchlight.Proofs.Number.Numeral

/-!
# Shortest decimals read back

The decimal that is written for a number is read as that number: each candidate
is tried before it is taken, and the exact expansion, which is left when all
fail, is its own nearest number. Written without an exponent, the decimal keeps
its value, whatever zeros the layout adds.
-/

namespace Searchlight

variable {f : BinaryFormat}

theorem stripZeros_value (fuel digits : ℕ) (exponent : ℤ) :
    ((stripZeros fuel digits exponent).1 : ℚ) *
        10 ^ (stripZeros fuel digits exponent).2 = digits * 10 ^ exponent := by
  induction fuel generalizing digits exponent with
  | zero => rfl
  | succ fuel ih =>
      rw [stripZeros]
      split
      · rename_i hzero
        have hdigits : digits = digits / 10 * 10 := by omega
        rw [ih, zpow_add₀ (by norm_num)]
        conv => rhs; rw [hdigits]
        push_cast
        ring
      · rfl

namespace BinaryFormat

/-- Decimals of one value are read alike. -/
theorem nearestRank_decimal {digits digits' : ℕ} {e e' : ℤ}
    (h : (digits : ℚ) * 10 ^ e = digits' * 10 ^ e') :
    f.nearestRank (digits * power 10 e) (power 10 (-e)) =
      f.nearestRank (digits' * power 10 e') (power 10 (-e')) := by
  refine f.nearestRank_congr (power_pos (by norm_num) _)
    (power_pos (by norm_num) _) ?_
  rw [decimal_ratio, decimal_ratio, h]

theorem readsBack_of_onGrid? {tie : DecimalTie} {rank num den digits : ℕ}
    {e e' : ℤ} (h : f.onGrid? tie rank num den e = some (digits, e')) :
    f.nearestRank (digits * power 10 e') (power 10 (-e')) = rank := by
  obtain ⟨d, hfind, heq⟩ := Option.map_eq_some_iff.mp h
  obtain ⟨rfl, rfl⟩ := Prod.mk.inj heq
  simpa [readsBack] using List.find?_some hfind

/-- The exact expansion has the value of the magnitude. -/
theorem exact_value (m : ℕ) (e : ℤ) :
    ((m * power 2 e * power 5 (-e) : ℕ) : ℚ) * 10 ^ min e 0 = m * 2 ^ e := by
  have hpow : ∀ (base : ℕ) (i : ℤ), (power base i : ℚ) = (base : ℚ) ^ i.toNat :=
    fun base i => Nat.cast_pow base i.toNat
  rw [Nat.cast_mul, Nat.cast_mul, hpow, hpow]
  rcases le_total 0 e with he | he
  · obtain ⟨n, rfl⟩ := Int.eq_ofNat_of_zero_le he
    simp
  · obtain ⟨n, hn⟩ := Int.eq_ofNat_of_zero_le (neg_nonneg.mpr he)
    obtain rfl : e = -n := by omega
    have hten : (5 : ℚ) ^ n / 10 ^ n = (2 ^ n)⁻¹ := by
      rw [← div_pow, ← inv_pow]
      norm_num
    simp only [Int.toNat_neg_natCast, pow_zero, mul_one, neg_neg,
      Int.toNat_natCast, min_eq_left he, zpow_neg, zpow_natCast]
    rw [← hten]
    push_cast
    ring

/-- A candidate that reads back without its trailing zeros, or the exact
expansion. -/
theorem shortest_cases (tie : DecimalTie) {rank m : ℕ} {e : ℤ}
    (hm : f.magnitude rank = (m, e)) :
    (∃ (digits : ℕ) (exponent step : ℤ),
      f.onGrid? tie rank (m * power 2 e) (power 2 (-e)) step =
        some (digits, exponent) ∧
      f.shortest tie rank = stripZeros (digitCount digits) digits exponent) ∨
    f.shortest tie rank = (m * power 2 e * power 5 (-e), min e 0) := by
  unfold shortest
  rw [hm]
  -- the counts stay closed, so that no step evaluates the search
  generalize (List.range 17).map (· + 1) = counts
  dsimp only
  cases hfound : counts.findSome? fun (n : ℕ) => f.onGrid? tie rank
      (m * power 2 e) (power 2 (-e))
      (floorLog10 (m * power 2 e) (power 2 (-e)) - (n : ℤ) + 1) with
  | none => exact .inr rfl
  | some found =>
      obtain ⟨n, -, hgrid⟩ := List.exists_of_findSome?_eq_some hfound
      exact .inl ⟨found.1, found.2, _, hgrid, rfl⟩

/-- **The shortest decimal reads back.** -/
theorem nearestRank_shortest (tie : DecimalTie) {rank : ℕ} (hr : 0 < rank) :
    f.nearestRank ((f.shortest tie rank).1 * power 10 (f.shortest tie rank).2)
      (power 10 (-(f.shortest tie rank).2)) = rank := by
  obtain ⟨m, e, hm⟩ : ∃ m e, f.magnitude rank = (m, e) := ⟨_, _, rfl⟩
  rcases f.shortest_cases tie hm with ⟨digits, exponent, step, hgrid, h⟩ | h
  · rw [h, nearestRank_decimal (stripZeros_value _ digits exponent)]
    exact readsBack_of_onGrid? hgrid
  · have hden : 0 < power 2 (-e) := power_pos (by norm_num) _
    have hratio : ((m * power 2 e : ℕ) : ℚ) / power 2 (-e) = m * 2 ^ e := by
      exact_mod_cast mul_power_ratio m 2 e
    rw [h]
    refine (f.nearestRank_congr (power_pos (by norm_num) _) hden ?_).trans
      (f.nearestRank_magnitude hr hm)
    rw [decimal_ratio, exact_value, hratio]

end BinaryFormat

/-! ## Layout -/

/-- A decimal without an exponent is a numeral of the same value. -/
theorem numeral_positionalText (style : FloatStyle) (digits : ℕ) (e : ℤ) :
    ∃ (digits' : ℕ) (e' : ℤ),
      Numeral (style.positionalText (Nat.toDigits 10 digits)
        (e + (Nat.toDigits 10 digits).length)) digits' e' ∧
      (digits' : ℚ) * 10 ^ e' = digits * 10 ^ e := by
  have hall := allDigits_toDigits digits
  have hne : Nat.toDigits 10 digits ≠ [] := Nat.toDigits_ne_nil
  have hvalue := digitsValue_toDigits digits
  generalize Nat.toDigits 10 digits = ds at hall hne hvalue ⊢
  subst hvalue
  rw [FloatStyle.positionalText]
  split
  -- all digits stand behind the point, with zeros in front
  · have hzero : AllDigits ['0'] := by simp [AllDigits, isAsciiDigit]
    refine ⟨_, _, .pointed hzero (by simp)
      ((allDigits_zeros (-(e + ds.length)).toNat).append hall), ?_⟩
    have hvalue : digitsValue (['0'] ++ (zeros (-(e + ds.length)).toNat ++ ds)) =
        digitsValue ds := by
      rw [← List.append_assoc]
      exact digitsValue_zeros_append ((-(e + ds.length)).toNat + 1) ds
    change (digitsValue (['0'] ++ (zeros (-(e + ds.length)).toNat ++ ds)) : ℚ) *
      10 ^ (-((zeros (-(e + ds.length)).toNat ++ ds).length : ℤ)) = _
    rw [hvalue]
    congr 2
    simp only [List.length_append, zeros, List.length_replicate]
    omega
  · split
    -- no digit stands behind the point, which is left out or has a zero behind
    · rename_i hpos hlen
      have he : e = ((e + ds.length).toNat - ds.length : ℕ) := by omega
      have hwhole : AllDigits (ds ++ zeros ((e + ds.length).toNat - ds.length)) :=
        hall.append (allDigits_zeros _)
      have hvalue : (digitsValue
          (ds ++ zeros ((e + ds.length).toNat - ds.length)) : ℚ) =
            digitsValue ds * 10 ^ e := by
        rw [digitsValue_append_zeros, Nat.cast_mul, Nat.cast_pow,
          ← zpow_natCast, ← he]
        rfl
      cases style.pointZero with
      | false =>
          simp only [Bool.false_eq_true, if_false, List.append_nil]
          refine ⟨_, _, .whole hwhole (by simp [hne]), ?_⟩
          rw [zpow_zero, mul_one, hvalue]
      | true =>
          refine ⟨_, _, .pointed hwhole (by simp [hne]) (allDigits_zeros 1), ?_⟩
          change (digitsValue (_ ++ zeros 1) : ℚ) * 10 ^ (-1 : ℤ) = _
          rw [digitsValue_append_zeros, Nat.cast_mul, hvalue]
          simp
    -- the point is within the digits
    · rename_i hpos hlen
      refine ⟨_, _, .pointed (fun c hc => hall c (List.mem_of_mem_take hc)) ?_
        (fun c hc => hall c (List.mem_of_mem_drop hc)), ?_⟩
      · have htake : 0 < (e + ds.length).toNat := by omega
        simp [List.take_eq_nil_iff, hne, htake.ne']
      · rw [List.take_append_drop]
        congr 2
        simp only [List.length_drop]
        omega

/-- What is left of a numeral is its value: the decimal that a rank is written
as is read as the number of that rank. -/
theorem toBinary_eq_finite {tie : DecimalTie} {negative : Bool}
    {rank : Fin f.limit} (hrank : rank.val ≠ 0) {digits : ℕ} {e : ℤ}
    (hvalue : (digits : ℚ) * 10 ^ e =
      (f.shortest tie rank).1 * 10 ^ (f.shortest tie rank).2) :
    (Decimal.toBinary ⟨negative, digits, e⟩ : Binary f) =
      .finite negative rank := by
  rw [Decimal.toBinary_eq, Binary.nearest,
    BinaryFormat.nearestRank_decimal hvalue,
    BinaryFormat.nearestRank_shortest tie (Nat.pos_of_ne_zero hrank),
    Binary.ofRank, dif_pos rank.isLt]

/-- **What is written is read back**, for positive numbers in plain style. -/
theorem numeral_write {x : Binary f} (hfinite : x.isFinite = true)
    (hpos : x.isPositive = true) :
    ∃ (digits : ℕ) (e : ℤ), Numeral (Binary.plain.write x) digits e ∧
      (Decimal.toBinary ⟨false, digits, e⟩ : Binary f) = x := by
  cases x with
  | nan => cases hfinite
  | infinite negative => cases hfinite
  | finite negative rank =>
      obtain ⟨rfl, hrank⟩ : negative = false ∧ rank.val ≠ 0 := by
        simpa [Binary.isPositive] using hpos
      obtain ⟨digits, e, hnumeral, hvalue⟩ := numeral_positionalText
        Binary.plain (f.shortest .away rank).1 (f.shortest .away rank).2
      refine ⟨digits, e, ?_, ?_⟩
      · rw [FloatStyle.write, if_neg hrank]
        simpa [FloatStyle.signText, Binary.plain] using hnumeral
      · exact toBinary_eq_finite hrank hvalue

/-! ## Every style -/

theorem takeDigits_exponent (cs : List Char) :
    takeDigits ('e' :: cs) = ([], 'e' :: cs) := by
  rw [takeDigits_cons, if_neg (by decide)]

theorem readExponent_signed (exponent : ℤ) :
    Decimal.readExponent? ('e' :: (if exponent < 0 then '-' else '+') ::
      Nat.toDigits 10 exponent.natAbs) = some exponent := by
  have hdigits : takeDigits (Nat.toDigits 10 exponent.natAbs) =
      (Nat.toDigits 10 exponent.natAbs, []) :=
    takeDigits_of_all (allDigits_toDigits _)
  have hne : Nat.toDigits 10 exponent.natAbs ≠ [] := Nat.toDigits_ne_nil
  by_cases hneg : exponent < 0
  · simp [Decimal.readExponent?, readInteger?, takeSign, hneg, hdigits, hne,
      digitsValue_toDigits, -Nat.cast_natAbs]
    omega
  · simp [Decimal.readExponent?, readInteger?, takeSign, hneg, hdigits, hne,
      digitsValue_toDigits, -Nat.cast_natAbs]
    omega

/-- The exponent behind a numeral moves its point. -/
theorem Numeral.read_exponent {cs : List Char} {digits : ℕ} {e : ℤ}
    (h : Numeral cs digits e) (negative : Bool) (exponent : ℤ) :
    Decimal.read? negative (cs ++ 'e' :: (if exponent < 0 then '-' else '+') ::
      Nat.toDigits 10 exponent.natAbs) =
        some ⟨negative, digits, exponent + e⟩ := by
  rw [h.read_decimal_append negative (takeDigits_exponent _) (by simp),
    readExponent_signed]
  rfl

/-- One digit before the point, and an exponent that makes up for it. -/
theorem read_scientificText (negative : Bool) (digits : ℕ) (e : ℤ) :
    ∃ (c : Char) (rest : List Char) (digits' : ℕ) (e' : ℤ),
      FloatStyle.scientificText (Nat.toDigits 10 digits)
        (e + (Nat.toDigits 10 digits).length - 1) = c :: rest ∧
      isAsciiDigit c = true ∧
      Decimal.read? negative (c :: rest) = some ⟨negative, digits', e'⟩ ∧
      (digits' : ℚ) * 10 ^ e' = digits * 10 ^ e := by
  have hall := allDigits_toDigits digits
  have hne : Nat.toDigits 10 digits ≠ [] := Nat.toDigits_ne_nil
  have hvalue := digitsValue_toDigits digits
  generalize Nat.toDigits 10 digits = ds at hall hne hvalue ⊢
  subst hvalue
  match ds, hne with
  | [d], _ =>
      refine ⟨_, _, _, _, rfl, hall d (by simp),
        (Numeral.whole hall (by simp)).read_exponent negative _, ?_⟩
      simp
  | d :: c :: rest, _ =>
      have hwhole : AllDigits [d] := fun x hx => hall x (by simp_all)
      have hfraction : AllDigits (c :: rest) := fun x hx => hall x (by simp_all)
      refine ⟨_, _, _, _, rfl, hall d (by simp),
        (Numeral.pointed hwhole (by simp) hfraction).read_exponent negative _, ?_⟩
      congr 2
      simp only [List.length_cons]
      push_cast
      ring

/-- **What is written is read back**, in every style. -/
theorem read_write (style : FloatStyle) (x : Binary f) :
    Binary.read? (style.write x) = some x := by
  cases x with
  | nan => rfl
  | infinite negative => cases negative <;> rfl
  | finite negative rank =>
      rw [FloatStyle.write]
      split
      · rename_i hzero
        have hread : Decimal.read? negative
            ('0' :: if style.pointZero then ['.', '0'] else []) =
              some ⟨negative, 0, if style.pointZero then -1 else 0⟩ := by
          cases style.pointZero <;> rfl
        have hrank : rank = ⟨0, hzero ▸ rank.isLt⟩ := Fin.ext hzero
        rw [read_signText (by decide), hread, hrank]
        simp [Decimal.toBinary, Binary.nearest, BinaryFormat.nearestRank,
          Binary.ofRank, hzero ▸ rank.isLt]
      · rename_i hrank
        dsimp only
        split
        · obtain ⟨digits, e, hnumeral, hvalue⟩ := numeral_positionalText style
            (f.shortest style.tie rank).1 (f.shortest style.tie rank).2
          obtain ⟨c, rest, htext, hc⟩ := hnumeral.head_digit
          rw [sub_add_cancel, htext, read_signText hc, ← htext,
            hnumeral.read_decimal]
          simp [toBinary_eq_finite hrank hvalue]
        · obtain ⟨c, rest, digits, e, htext, hc, hread, hvalue⟩ :=
            read_scientificText negative (f.shortest style.tie rank).1
              (f.shortest style.tie rank).2
          rw [htext, read_signText hc, hread]
          simp [toBinary_eq_finite hrank hvalue]

/-- A style writes different numbers differently. -/
theorem write_injective (style : FloatStyle) {x y : Binary f}
    (h : style.write x = style.write y) : x = y := by
  have hread := read_write style x
  rw [h, read_write style y] at hread
  exact (Option.some.inj hread).symm

end Searchlight
