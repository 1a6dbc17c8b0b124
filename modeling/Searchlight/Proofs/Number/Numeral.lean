import Mathlib.Data.List.TakeDrop
import Searchlight.Proofs.Number.Nearest

/-!
# Written numbers

Runs of digits with at most one point in them, as they are read: the value of
the digits and the places behind the point.
-/

namespace Searchlight

/-! ## Runs of digits -/

def AllDigits (cs : List Char) : Prop := ∀ c ∈ cs, isAsciiDigit c = true

theorem AllDigits.append {as bs : List Char} (ha : AllDigits as)
    (hb : AllDigits bs) : AllDigits (as ++ bs) :=
  List.forall_mem_append.mpr ⟨ha, hb⟩

theorem takeDigits_cons (c : Char) (cs : List Char) :
    takeDigits (c :: cs) =
      if isAsciiDigit c then (c :: (takeDigits cs).1, (takeDigits cs).2)
      else ([], c :: cs) := by
  simp only [takeDigits, List.span_eq_takeWhile_dropWhile, List.takeWhile_cons,
    List.dropWhile_cons]
  split <;> rfl

theorem takeDigits_append_of_all {s : List Char} (hs : takeDigits s = ([], s)) :
    ∀ {cs : List Char}, AllDigits cs → takeDigits (cs ++ s) = (cs, s)
  | [], _ => hs
  | c :: cs, h => by
      rw [List.cons_append, takeDigits_cons, if_pos (h c (by simp)),
        takeDigits_append_of_all hs fun d hd => h d (by simp [hd])]

theorem isAsciiDigit_eq (c : Char) : isAsciiDigit c = c.isDigit := by
  simp [isAsciiDigit, Char.isDigit, Char.le_def]

theorem allDigits_toDigits (n : ℕ) : AllDigits (Nat.toDigits 10 n) := by
  intro c hc
  rw [isAsciiDigit_eq]
  exact Nat.isDigit_of_mem_toDigits (by norm_num) (by norm_num) hc

theorem allDigits_zeros (n : ℕ) : AllDigits (zeros n) := by
  intro c hc
  obtain rfl := List.eq_of_mem_replicate hc
  decide

theorem digitsValue_eq (cs : List Char) :
    digitsValue cs = Nat.ofDigitChars 10 cs 0 := rfl

theorem digitsValue_toDigits (n : ℕ) : digitsValue (Nat.toDigits 10 n) = n :=
  Nat.ofDigitChars_ten_toDigits

theorem digitsValue_zeros_append (n : ℕ) (cs : List Char) :
    digitsValue (zeros n ++ cs) = digitsValue cs := by
  rw [digitsValue_eq, Nat.ofDigitChars_append, zeros,
    Nat.ofDigitChars_replicate_zero, Nat.mul_zero, ← digitsValue_eq]

theorem digitsValue_append_zeros (cs : List Char) (n : ℕ) :
    digitsValue (cs ++ zeros n) = digitsValue cs * 10 ^ n := by
  rw [digitsValue_eq, Nat.ofDigitChars_append, zeros,
    Nat.ofDigitChars_replicate_zero, Nat.mul_comm, ← digitsValue_eq]

/-! ## Numbers with a point -/

/-- Digits, at least one of them before the point, if there is one. -/
inductive Numeral : List Char → ℕ → ℤ → Prop
  | whole {cs : List Char} (hcs : AllDigits cs) (hne : cs ≠ []) :
      Numeral cs (digitsValue cs) 0
  | pointed {whole fraction : List Char} (hw : AllDigits whole)
      (hne : whole ≠ []) (hf : AllDigits fraction) :
      Numeral (whole ++ '.' :: fraction) (digitsValue (whole ++ fraction))
        (-fraction.length)

theorem takeDigits_point (cs : List Char) :
    takeDigits ('.' :: cs) = ([], '.' :: cs) := by
  rw [takeDigits_cons, if_neg (by decide)]

theorem takeDigits_of_all {cs : List Char} (h : AllDigits cs) :
    takeDigits cs = (cs, []) := by
  simpa using takeDigits_append_of_all (s := []) rfl h

namespace Numeral

variable {cs : List Char} {digits : ℕ} {exponent : ℤ}

theorem head_digit (h : Numeral cs digits exponent) :
    ∃ c rest, cs = c :: rest ∧ isAsciiDigit c = true := by
  cases h with
  | whole hcs hne =>
      obtain ⟨c, rest, rfl⟩ := List.exists_cons_of_ne_nil hne
      exact ⟨c, rest, rfl, hcs c (by simp)⟩
  | @pointed whole fraction hw hne hf =>
      obtain ⟨c, rest, rfl⟩ := List.exists_cons_of_ne_nil hne
      exact ⟨c, rest ++ '.' :: fraction, rfl, hw c (by simp)⟩

/-- A numeral is read up to where an exponent begins, or up to the end. -/
theorem read_decimal_append (h : Numeral cs digits exponent) (negative : Bool)
    {s : List Char} (hs : takeDigits s = ([], s)) (hpoint : s.head? ≠ some '.') :
    Decimal.read? negative (cs ++ s) =
      (Decimal.readExponent? s).map fun e => ⟨negative, digits, e + exponent⟩ := by
  cases h with
  | whole hcs hne =>
      cases s with
      | nil => simp [Decimal.read?, takeDigits_of_all hcs, hne]
      | cons c s =>
          have hc : c ≠ '.' := by simpa using hpoint
          simp [Decimal.read?, takeDigits_append_of_all hs hcs, hne, hc]
  | @pointed whole fraction hw hne hf =>
      have hbody : takeDigits (whole ++ '.' :: (fraction ++ s)) =
          (whole, '.' :: (fraction ++ s)) :=
        takeDigits_append_of_all (takeDigits_point _) hw
      simp [Decimal.read?, hbody, takeDigits_append_of_all hs hf, hne,
        Int.sub_eq_add_neg]

theorem read_decimal (h : Numeral cs digits exponent) (negative : Bool) :
    Decimal.read? negative cs = some ⟨negative, digits, exponent⟩ := by
  have hread := h.read_decimal_append negative (s := []) rfl (by simp)
  simpa [Decimal.readExponent?] using hread

end Numeral

/-! ## Signs -/

variable {c d : Char}

theorem ne_of_digit (hc : isAsciiDigit c = true) (hd : isAsciiDigit d = false) :
    c ≠ d := by
  rintro rfl
  rw [hc] at hd
  cases hd

theorem takeSign_signText (hc : isAsciiDigit c = true) (negative : Bool)
    (rest : List Char) :
    takeSign (FloatStyle.signText negative ++ c :: rest) =
      (negative, c :: rest) := by
  cases negative with
  | true => rfl
  | false =>
      change takeSign (c :: rest) = (false, c :: rest)
      have hminus : c ≠ '-' := ne_of_digit hc (by decide)
      have hplus : c ≠ '+' := ne_of_digit hc (by decide)
      rw [takeSign.eq_def]
      split <;> simp_all

/-- Behind its sign, a number that starts with a digit is a decimal: it is none
of the words for special numbers. -/
theorem read_signText {f : BinaryFormat} (hc : isAsciiDigit c = true)
    (negative : Bool) (rest : List Char) :
    (Binary.read? (FloatStyle.signText negative ++ c :: rest) :
        Option (Binary f)) =
      (Decimal.read? negative (c :: rest)).map Decimal.toBinary := by
  have hrange : 48 ≤ c.toNat ∧ c.toNat ≤ 57 := by
    simpa [isAsciiDigit, Char.le_def, UInt32.le_iff_toNat_le] using hc
  have hlower : asciiLower c = c := by
    rw [asciiLower, if_neg]
    simp [Char.le_def, UInt32.le_iff_toNat_le]
    omega
  have hword : ∀ d ds, d = 'i' ∨ d = 'n' →
      sameIgnoringAsciiCase (c :: rest) (d :: ds) = false := by
    intro d ds hd
    have hcd : c ≠ asciiLower d := by
      rcases hd with rfl | rfl <;> exact ne_of_digit hc (by decide)
    simp [sameIgnoringAsciiCase, hlower, hcd]
  rw [Binary.read?, takeSign_signText hc]
  simp [hword]

theorem Numeral.read_binary {f : BinaryFormat} {cs : List Char} {digits : ℕ}
    {exponent : ℤ} (h : Numeral cs digits exponent) :
    (Binary.read? cs : Option (Binary f)) =
      some (Decimal.toBinary ⟨false, digits, exponent⟩) := by
  obtain ⟨c, rest, rfl, hc⟩ := h.head_digit
  have hread := read_signText (f := f) hc false rest
  rwa [h.read_decimal] at hread

/-! ## Integers -/

theorem toList_toString (n : ℤ) :
    (toString n).toList =
      FloatStyle.signText (decide (n < 0)) ++ Nat.toDigits 10 n.natAbs := by
  cases n with
  | ofNat n => simp [toString, Int.repr, Nat.repr, FloatStyle.signText]
  | negSucc n => simp [toString, Int.repr, Nat.repr, FloatStyle.signText]

theorem readInteger_toString (n : ℤ) :
    readInteger? (toString n).toList = some n := by
  have hall := allDigits_toDigits n.natAbs
  have hvalue := digitsValue_toDigits n.natAbs
  obtain ⟨c, rest, hdigits⟩ :=
    List.exists_cons_of_ne_nil (Nat.toDigits_ne_nil (n := n.natAbs) (b := 10))
  rw [hdigits] at hall hvalue
  rw [readInteger?, toList_toString, hdigits,
    takeSign_signText (hall c (by simp))]
  simp only [takeDigits_of_all hall, hvalue]
  simp [-Nat.cast_natAbs]
  omega

end Searchlight
