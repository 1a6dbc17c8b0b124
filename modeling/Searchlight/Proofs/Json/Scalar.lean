import Searchlight.Json.Read
import Searchlight.Json.Write
import Searchlight.Proofs.Number.Shortest
import Searchlight.Proofs.Text.Words

/-!
# Strings and numbers in JSON text

A string is read back from its escapes, whatever follows it. A number ends where
no character of a number stands, and a float is never written as an integer.
-/

namespace Searchlight.Json

/-! ## Strings -/

theorem controlDigits_eq : ∀ n < 0x20,
    zeros (4 - (Nat.toDigits 16 n).length) ++ Nat.toDigits 16 n =
      ['0', '0', Nat.digitChar (n / 16), Nat.digitChar (n % 16)] := by
  decide

theorem hexDigit?_digitChar :
    ∀ n < 16, hexDigit? (Nat.digitChar n) = some n := by
  decide

theorem unicodeEscape_control {n : ℕ} (hn : n < 0x20) (rest : List Char) :
    unicodeEscape (zeros (4 - (Nat.toDigits 16 n).length) ++
      Nat.toDigits 16 n ++ rest) = some (Char.ofNat n, rest) := by
  have hquad : hexQuad (['0', '0', Nat.digitChar (n / 16),
      Nat.digitChar (n % 16)] ++ rest) = some (n, rest) := by
    have hzero : hexDigit? '0' = some 0 := by decide
    simp only [List.cons_append, List.nil_append, hexQuad, hzero,
      hexDigit?_digitChar (n / 16) (by omega),
      hexDigit?_digitChar (n % 16) (by omega)]
    simp
    omega
  rw [controlDigits_eq n hn, unicodeEscape, hquad]
  simp [show ¬0xdc00 ≤ n by omega, show ¬0xd800 ≤ n by omega]

variable {c d : Char}

theorem stringBody_plain (hquote : c ≠ '"') (hslash : c ≠ '\\')
    (hcontrol : ¬c.toNat < 0x20) (fuel : ℕ) (rest : List Char) :
    stringBody (fuel + 1) (c :: rest) =
      (stringBody fuel rest).map fun (body, rest) => (c :: body, rest) := by
  have hkept : ¬(decide (c.toNat < 0x20) || decide (c = '\\')) = true := by
    simpa [hslash] using hcontrol
  rw [stringBody]
  · rw [if_neg hkept]
    cases stringBody fuel rest <;> rfl
  · exact hquote
  · exact fun _ h _ => hslash h
  · exact fun _ _ h _ => hslash h

theorem stringBody_escape (hc : c ≠ 'u') (hplain : plainEscape? c = some d)
    (fuel : ℕ) (rest : List Char) :
    stringBody (fuel + 1) ('\\' :: c :: rest) =
      (stringBody fuel rest).map fun (body, rest) => (d :: body, rest) := by
  rw [stringBody]
  · rw [hplain]
    cases stringBody fuel rest <;> rfl
  · exact hc

theorem stringBody_control (hcontrol : c.toNat < 0x20) (fuel : ℕ)
    (rest : List Char) :
    stringBody (fuel + 1) (controlEscape c ++ rest) =
      (stringBody fuel rest).map fun (body, rest) => (c :: body, rest) := by
  have hescape := unicodeEscape_control hcontrol rest
  rw [Char.ofNat_toNat] at hescape
  have hwritten : controlEscape c ++ rest = '\\' :: 'u' ::
      (zeros (4 - (Nat.toDigits 16 c.toNat).length) ++
        Nat.toDigits 16 c.toNat ++ rest) := rfl
  rw [hwritten, stringBody, hescape]
  cases hbody : stringBody fuel rest <;> simp [hbody]

/-- A character is read back from the way it is written. -/
theorem stringBody_writeChar (fuel : ℕ) (c : Char) (rest : List Char) :
    stringBody (fuel + 1) (writeChar c ++ rest) =
      (stringBody fuel rest).map fun (body, rest) => (c :: body, rest) := by
  rw [writeChar.eq_def]
  split
  case h_8 hquote hslash _ _ _ _ _ =>
    split
    · rename_i hcontrol
      exact stringBody_control hcontrol fuel rest
    · rename_i hplain
      exact stringBody_plain hquote hslash hplain fuel rest
  all_goals exact stringBody_escape (by decide) (by decide) fuel rest

theorem stringBody_write (cs rest : List Char) : ∀ fuel, cs.length ≤ fuel →
    stringBody (fuel + 1) (cs.flatMap writeChar ++ '"' :: rest) =
      some (cs, rest) := by
  induction cs with
  | nil => intro _ _; rfl
  | cons c cs ih =>
      intro fuel hfuel
      obtain ⟨fuel, rfl⟩ := Nat.exists_eq_add_of_lt hfuel
      rw [List.flatMap_cons, List.append_assoc, stringBody_writeChar,
        ih _ (by omega)]
      rfl

theorem length_le_flatMap_writeChar (cs : List Char) :
    cs.length ≤ (cs.flatMap writeChar).length := by
  have hone : ∀ c, 1 ≤ (writeChar c).length := by
    intro c
    rw [writeChar.eq_def]
    split
    case h_8 =>
      split
      · simp [controlEscape]
      · simp
    all_goals simp
  induction cs with
  | nil => simp
  | cons c cs ih =>
      rw [List.flatMap_cons, List.length_append, List.length_cons]
      have := hone c
      omega

/-- **A string is read back from the way it is written**, whatever follows. -/
theorem stringLiteral_writeString (s : String) (rest : List Char) :
    stringLiteral (writeString s ++ rest) = some (s, rest) := by
  have hwritten : writeString s ++ rest =
      '"' :: (s.toList.flatMap writeChar ++ '"' :: rest) := by
    simp [writeString]
  have hfuel : s.toList.length ≤
      (s.toList.flatMap writeChar ++ '"' :: rest).length := by
    have hle := length_le_flatMap_writeChar s.toList
    rw [List.length_append]
    omega
  rw [hwritten, stringLiteral, stringBody_write _ _ _ hfuel]
  simp

theorem writeString_cancel {s t : String} {r r' : List Char}
    (h : writeString s ++ r = writeString t ++ r') : s = t ∧ r = r' := by
  have hread := stringLiteral_writeString s r
  rw [h, stringLiteral_writeString] at hread
  simpa [eq_comm] using hread

/-! ## Numbers -/

def isNumeric (c : Char) : Bool :=
  isAsciiDigit c || c = '-' || c = '+' || c = '.' || c = 'e'

def Numeric (cs : List Char) : Prop := ∀ c ∈ cs, isNumeric c = true

theorem Numeric.cons {cs : List Char} (hc : isNumeric c = true)
    (hcs : Numeric cs) : Numeric (c :: cs) :=
  List.forall_mem_cons.mpr ⟨hc, hcs⟩

theorem Numeric.append {cs ds : List Char} (hcs : Numeric cs)
    (hds : Numeric ds) : Numeric (cs ++ ds) :=
  List.forall_mem_append.mpr ⟨hcs, hds⟩

theorem numeric_of_digits {cs : List Char} (h : AllDigits cs) : Numeric cs := by
  intro c hc
  simp [isNumeric, h c hc]

/-- No character of a number comes next. -/
def EndsNumber (r : List Char) : Prop := ∀ c ∈ r.head?, isNumeric c = false

/-- A point or an exponent tells a float from an integer. -/
def HasFloatMark (cs : List Char) : Prop := '.' ∈ cs ∨ 'e' ∈ cs

theorem not_hasFloatMark_toString (n : ℤ) :
    ¬HasFloatMark (toString n).toList := by
  have hdigits := allDigits_toDigits n.natAbs
  have hmark : ∀ c, isAsciiDigit c = false → c ≠ '-' →
      c ∉ (toString n).toList := by
    intro c hc hsign hmem
    rw [toList_toString, List.mem_append] at hmem
    rcases hmem with hmem | hmem
    · rw [FloatStyle.signText] at hmem
      split at hmem <;> simp_all
    · rw [hdigits c hmem] at hc
      cases hc
  rintro (h | h)
  · exact hmark '.' (by decide) (by decide) h
  · exact hmark 'e' (by decide) (by decide) h

theorem numeric_signText (negative : Bool) :
    Numeric (FloatStyle.signText negative) := by
  intro c hc
  cases negative with
  | true =>
      obtain rfl := List.mem_singleton.mp hc
      decide
  | false => cases hc

theorem numeric_toString (n : ℤ) : Numeric (toString n).toList := by
  rw [toList_toString]
  exact (numeric_signText _).append (numeric_of_digits (allDigits_toDigits _))

theorem numeric_pointZero (kept : Bool) : Numeric (if kept then ['.', '0'] else []) := by
  cases kept <;> simp [Numeric, isNumeric, isAsciiDigit]

theorem numeric_positionalText (style : FloatStyle) {ds : List Char}
    (hds : AllDigits ds) (point : ℤ) : Numeric (style.positionalText ds point) := by
  have hnumeric := numeric_of_digits hds
  have hzeros := fun n => numeric_of_digits (allDigits_zeros n)
  have hpoint : isNumeric '.' = true := by decide
  rw [FloatStyle.positionalText]
  split
  -- all digits stand behind the point
  · exact (((hzeros _).cons hpoint).cons (by decide)).append hnumeric
  · split
    -- no digit stands behind the point
    · exact (hnumeric.append (hzeros _)).append (numeric_pointZero _)
    -- the point is within the digits
    · refine Numeric.append ?_ (Numeric.cons hpoint ?_)
      · exact fun c hc => hnumeric c (List.mem_of_mem_take hc)
      · exact fun c hc => hnumeric c (List.mem_of_mem_drop hc)

theorem point_mem_positionalText (ds : List Char) (point : ℤ) :
    '.' ∈ Binary.documented.positionalText ds point := by
  rw [FloatStyle.positionalText]
  split
  · simp
  · split <;> simp [Binary.documented]

theorem numeric_scientificText {ds : List Char} (hds : AllDigits ds)
    (exponent : ℤ) : Numeric (FloatStyle.scientificText ds exponent) := by
  have hnumeric := numeric_of_digits hds
  have hsign : isNumeric (if exponent < 0 then '-' else '+') = true := by
    split <;> decide
  have hexponent := numeric_of_digits (allDigits_toDigits exponent.natAbs)
  rw [FloatStyle.scientificText.eq_def]
  refine Numeric.append ?_ ((hexponent.cons hsign).cons (by decide))
  split
  · obtain ⟨hd, hrest⟩ := List.forall_mem_cons.mp hnumeric
    exact (Numeric.cons (by decide) hrest).cons hd
  · exact hnumeric

/-- A finite number is written without letters but that of its exponent. -/
theorem numeric_write (style : FloatStyle) {f : BinaryFormat} {x : Binary f}
    (h : x.isFinite = true) : Numeric (style.write x) := by
  cases x with
  | nan => cases h
  | infinite negative => cases h
  | finite negative rank =>
      have hsign := numeric_signText negative
      have hdigits := allDigits_toDigits (f.shortest style.tie rank).1
      rw [FloatStyle.write]
      split
      · exact hsign.append ((numeric_pointZero _).cons (by decide))
      · dsimp only
        split
        · exact hsign.append (numeric_positionalText style hdigits _)
        · exact hsign.append (numeric_scientificText hdigits _)

/-- Documents write a finite number so that it is no integer. -/
theorem hasFloatMark_documented {x : Double} (h : x.isFinite = true) :
    HasFloatMark (Binary.documented.write x) := by
  cases x with
  | nan => cases h
  | infinite negative => cases h
  | finite negative rank =>
      rw [FloatStyle.write]
      split
      · exact .inl (by simp [Binary.documented])
      · dsimp only
        split
        · exact .inl (List.mem_append_right _ (point_mem_positionalText _ _))
        · refine .inr (List.mem_append_right _ ?_)
          simp [FloatStyle.scientificText]

end Searchlight.Json
