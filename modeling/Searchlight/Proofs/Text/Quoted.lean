import Mathlib.Data.Nat.Digits.Defs
import Searchlight.Proofs.Text.Words
import Searchlight.Text.Quoted

/-!
# Quoted text ends by itself

A character in quoted text is written as itself, behind a backslash, or as a code
point in braces, and each of these tells where it ends and which character it is.
No quote stands for itself, so that the closing quote is found; and what stands for
itself is printable, so that quoted text is on one line and starts no escape.
-/

namespace Searchlight.Text

/-! ## Hexadecimal digits -/

theorem digitChar_injective : ∀ m < 16, ∀ n < 16,
    Nat.digitChar m = Nat.digitChar n → m = n := by
  decide

theorem digitChar_plain : ∀ n < 16,
    Nat.digitChar n ≠ '\x7d' ∧ isPrintable (Nat.digitChar n) = true := by
  decide

theorem toDigits_sixteen {m : ℕ} (hm : ¬m < 16) :
    Nat.toDigits 16 m = Nat.toDigits 16 (m / 16) ++ [Nat.digitChar (m % 16)] := by
  rw [Nat.toDigits_eq_if (by decide), if_neg hm]

theorem toDigits_sixteen_of_lt {m : ℕ} (hm : m < 16) :
    Nat.toDigits 16 m = [Nat.digitChar m] := Nat.toDigits_of_lt_base hm

theorem mem_toDigits_sixteen {c : Char} (n : ℕ) (hc : c ∈ Nat.toDigits 16 n) :
    c ≠ '\x7d' ∧ isPrintable c = true := by
  induction n using Nat.strong_induction_on with
  | _ n ih =>
      by_cases hn : n < 16
      · rw [toDigits_sixteen_of_lt hn] at hc
        obtain rfl := List.mem_singleton.mp hc
        exact digitChar_plain n hn
      · rw [toDigits_sixteen hn] at hc
        rcases List.mem_append.mp hc with hc | hc
        · exact ih (n / 16) (by omega) hc
        · obtain rfl := List.mem_singleton.mp hc
          exact digitChar_plain _ (Nat.mod_lt n (by decide))

/-- The last digits agree, and so do the numbers before them. -/
theorem toDigits_sixteen_injective (m n : ℕ)
    (h : Nat.toDigits 16 m = Nat.toDigits 16 n) : m = n := by
  have hlength : ∀ k, (Nat.toDigits 16 k).length ≤ 1 ↔ k < 16 := fun k =>
    Nat.length_toDigits_le_iff (by decide) (by decide)
  induction m using Nat.strong_induction_on generalizing n with
  | _ m ih =>
      have hdigit : m < 16 ↔ n < 16 := by rw [← hlength, ← hlength, h]
      by_cases hm : m < 16
      · have hn := hdigit.mp hm
        rw [toDigits_sixteen_of_lt hm, toDigits_sixteen_of_lt hn] at h
        exact digitChar_injective m hm n hn (List.cons.inj h).1
      · have hn := mt hdigit.mpr hm
        rw [toDigits_sixteen hm, toDigits_sixteen hn] at h
        obtain ⟨hfront, hlast⟩ := List.append_inj' h rfl
        have hdiv := ih (m / 16) (by omega) (n / 16) hfront
        have hmod := digitChar_injective _ (Nat.mod_lt m (by decide)) _
          (Nat.mod_lt n (by decide)) (List.cons.inj hlast).1
        omega

/-! ## Characters -/

/-- What a character that follows a backslash stands for. -/
def unescaped : Char → Char
  | 'n' => '\n'
  | 'r' => '\r'
  | 't' => '\t'
  | '0' => '\x00'
  | c => c

/-- The ways to write a character between quotes. -/
inductive Spelt (c : Char) : List Char → Prop
  | plain (hquote : c ≠ '"') (hslash : c ≠ '\\') (hshown : isPrintable c = true) : Spelt c [c]
  | escaped (e : Char) (hpoint : e ≠ 'u') (hshown : isPrintable e = true)
      (he : unescaped e = c) : Spelt c ['\\', e]
  | codePoint : Spelt c (codePointEscape c)

theorem spelt_quoteChar (c : Char) : Spelt c (quoteChar c) := by
  rw [quoteChar.eq_def]
  split
  case h_7 hquote hslash _ _ _ _ =>
    split
    · rename_i hshown
      exact .plain hquote hslash (Bool.and_eq_true_iff.mp hshown).1
    · exact .codePoint
  all_goals exact .escaped _ (by decide) (by decide) rfl

variable {c d : Char} {cs ds s t : List Char}

theorem codePointEscape_append (c : Char) (s : List Char) :
    codePointEscape c ++ s =
      '\\' :: 'u' :: '\x7b' :: (Nat.toDigits 16 c.toNat ++ '\x7d' :: s) := by
  simp [codePointEscape]

theorem codePointEscape_cancel (h : codePointEscape c ++ s = codePointEscape d ++ t) :
    c = d ∧ s = t := by
  rw [codePointEscape_append, codePointEscape_append] at h
  have hclose : ∀ n, '\x7d' ∉ Nat.toDigits 16 n := fun n hmem =>
    (mem_toDigits_sixteen n hmem).1 rfl
  have htexts : Nat.toDigits 16 c.toNat ++ '\x7d' :: s =
      Nat.toDigits 16 d.toNat ++ '\x7d' :: t := by simpa using h
  obtain ⟨hdigits, hrest⟩ :=
    cancel_at (hclose c.toNat) (hclose d.toNat) (by simp) (by simp) htexts
  exact ⟨Char.toNat_inj.mp (toDigits_sixteen_injective _ _ hdigits),
    (List.cons.inj hrest).2⟩

/-- A spelling ends by itself and spells one character. -/
theorem Spelt.cancel (hc : Spelt c cs) (hd : Spelt d ds) (h : cs ++ s = ds ++ t) :
    c = d ∧ s = t := by
  cases hc with
  | plain _ hslash _ =>
      cases hd with
      | plain => exact List.cons.inj h
      | escaped => exact absurd (List.cons.inj h).1 hslash
      | codePoint => exact absurd (List.cons.inj h).1 hslash
  | escaped e hpoint _ he =>
      cases hd with
      | plain _ hslash _ => exact absurd (List.cons.inj h).1.symm hslash
      | escaped e' _ _ he' =>
          obtain ⟨rfl, hst⟩ := List.cons.inj (List.cons.inj h).2
          exact ⟨he.symm.trans he', hst⟩
      | codePoint =>
          exact absurd (List.cons.inj (List.cons.inj h).2).1 hpoint
  | codePoint =>
      cases hd with
      | plain _ hslash _ => exact absurd (List.cons.inj h).1.symm hslash
      | escaped e hpoint _ _ =>
          exact absurd (List.cons.inj (List.cons.inj h).2).1.symm hpoint
      | codePoint => exact codePointEscape_cancel h

theorem Spelt.ne_quote (h : Spelt c cs) : cs ++ s ≠ '"' :: t := by
  cases h with
  | plain hquote => exact fun heq => hquote (List.cons.inj heq).1
  | escaped => exact fun heq => absurd (List.cons.inj heq).1 (by decide)
  | codePoint => exact fun heq => absurd (List.cons.inj heq).1 (by decide)

theorem Spelt.printable (h : Spelt c cs) : ∀ x ∈ cs, isPrintable x = true := by
  have hslash : isPrintable '\\' = true := by decide
  cases h with
  | plain _ _ hshown => simpa using hshown
  | escaped e _ hshown _ => simpa using ⟨hslash, hshown⟩
  | codePoint =>
      intro x hx
      simp only [codePointEscape, List.mem_append, List.mem_cons, List.not_mem_nil, or_false]
        at hx
      rcases hx with ((rfl | rfl | rfl) | hx) | rfl
      · exact hslash
      · decide
      · decide
      · exact (mem_toDigits_sixteen _ hx).2
      · decide

/-! ## Texts -/

theorem flatMap_quoteChar_cancel (as bs : List Char)
    (h : as.flatMap quoteChar ++ '"' :: s = bs.flatMap quoteChar ++ '"' :: t) :
    as = bs ∧ s = t := by
  induction as generalizing bs with
  | nil =>
      cases bs with
      | nil => exact ⟨rfl, (List.cons.inj h).2⟩
      | cons b bs =>
          rw [List.flatMap_cons, List.append_assoc] at h
          exact absurd h.symm (spelt_quoteChar b).ne_quote
  | cons a as ih =>
      cases bs with
      | nil =>
          rw [List.flatMap_cons, List.append_assoc] at h
          exact absurd h (spelt_quoteChar a).ne_quote
      | cons b bs =>
          rw [List.flatMap_cons, List.flatMap_cons, List.append_assoc,
            List.append_assoc] at h
          obtain ⟨rfl, hrest⟩ := (spelt_quoteChar a).cancel (spelt_quoteChar b) h
          obtain ⟨rfl, hst⟩ := ih bs hrest
          exact ⟨rfl, hst⟩

/-- **Quoted text ends by itself**, whatever follows, and tells what was quoted. -/
theorem quoted_cancel {a b : String}
    (h : (quoted a).toList ++ s = (quoted b).toList ++ t) : a = b ∧ s = t := by
  simp only [quoted, quote, String.toList_ofList, List.cons_append, List.append_assoc,
    List.nil_append, List.cons.injEq, true_and] at h
  obtain ⟨htext, hst⟩ := flatMap_quoteChar_cancel _ _ h
  exact ⟨String.toList_inj.mp htext, hst⟩

/-- Quoted text is printable, whatever was quoted. -/
theorem printable_quoted (s : String) : ∀ c ∈ (quoted s).toList, isPrintable c = true := by
  have hquote : isPrintable '"' = true := by decide
  have hbody : ∀ c ∈ s.toList.flatMap quoteChar, isPrintable c = true := by
    intro c hc
    obtain ⟨x, -, hc⟩ := List.mem_flatMap.mp hc
    exact (spelt_quoteChar x).printable c hc
  simpa [quoted, quote, hquote, or_imp, forall_and] using hbody

end Searchlight.Text
