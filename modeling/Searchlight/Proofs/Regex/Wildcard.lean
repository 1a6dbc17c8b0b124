import Searchlight.Proofs.Regex.Match
import Searchlight.Regex.Wildcard

/-!
# Texts that wildcard patterns stand for

A pattern is turned into an expression part by part, and the expression is anchored at both ends. So
it occurs in the texts that the pattern stands for, taken as a whole, where what a star or
a question mark stands for has no line feed in it.
-/

namespace Searchlight

variable {wild : Char → Prop} {p text cs : List Char} {c : Char} {i j k n : Nat}

/-- A pattern stands for a text: a star for any number of wild characters, a question mark for one
of them, and every other character for itself. A backslash makes the next character stand for
itself, and does so at the end where there is none. -/
inductive Glob (wild : Char → Prop) : List Char → List Char → Prop
  | nil : Glob wild [] []
  | star {p cs : List Char} (part : List Char) (hpart : ∀ c ∈ part, wild c) (h : Glob wild p cs) :
      Glob wild ('*' :: p) (part ++ cs)
  | question {p cs : List Char} {c : Char} (hc : wild c) (h : Glob wild p cs) :
      Glob wild ('?' :: p) (c :: cs)
  | backslash : Glob wild ['\\'] ['\\']
  | escaped {p cs : List Char} (c : Char) (h : Glob wild p cs) :
      Glob wild ('\\' :: c :: p) (c :: cs)
  | plain {p cs : List Char} {c : Char} (hc : c ∉ ['*', '?', '\\']) (h : Glob wild p cs) :
      Glob wild (c :: p) (c :: cs)

namespace Glob

theorem nil_iff : Glob wild [] cs ↔ cs = [] := by
  constructor
  · rintro ⟨⟩
    rfl
  · rintro rfl
    exact .nil

theorem star_iff :
    Glob wild ('*' :: p) text ↔
      ∃ part cs, text = part ++ cs ∧ (∀ c ∈ part, wild c) ∧ Glob wild p cs := by
  constructor
  · intro h
    cases h with
    | star part hpart h => exact ⟨part, _, rfl, hpart, h⟩
    | plain hc => exact absurd (by simp) hc
  · rintro ⟨part, cs, rfl, hpart, h⟩
    exact .star part hpart h

theorem question_iff :
    Glob wild ('?' :: p) text ↔ ∃ c cs, text = c :: cs ∧ wild c ∧ Glob wild p cs := by
  constructor
  · intro h
    cases h with
    | question hc h => exact ⟨_, _, rfl, hc, h⟩
    | plain hc => exact absurd (by simp) hc
  · rintro ⟨c, cs, rfl, hc, h⟩
    exact .question hc h

theorem backslash_iff : Glob wild ['\\'] text ↔ text = ['\\'] := by
  constructor
  · intro h
    cases h with
    | backslash => rfl
    | plain hc => exact absurd (by simp) hc
  · rintro rfl
    exact .backslash

theorem escaped_iff :
    Glob wild ('\\' :: c :: p) text ↔ ∃ cs, text = c :: cs ∧ Glob wild p cs := by
  constructor
  · intro h
    cases h with
    | escaped _ h => exact ⟨_, rfl, h⟩
    | plain hc => exact absurd (by simp) hc
  · rintro ⟨cs, rfl, h⟩
    exact .escaped c h

theorem plain_iff (hc : c ∉ ['*', '?', '\\']) :
    Glob wild (c :: p) text ↔ ∃ cs, text = c :: cs ∧ Glob wild p cs := by
  constructor
  · intro h
    cases h with
    | star | question | backslash | escaped => exact absurd (by simp) hc
    | plain _ h => exact ⟨_, rfl, h⟩
  · rintro ⟨cs, rfl, h⟩
    exact .plain hc h

/-- Which characters are wild counts only for those of the text. -/
theorem congr {wild' : Char → Prop} (h : Glob wild p text)
    (hwild : ∀ c ∈ text, wild c → wild' c) : Glob wild' p text := by
  induction h with
  | nil => exact .nil
  | star part hpart _ ih =>
      obtain ⟨hhere, hrest⟩ := List.forall_mem_append.mp hwild
      exact .star part (fun c hc => hhere c hc (hpart c hc)) (ih hrest)
  | question hc _ ih =>
      obtain ⟨hhere, hrest⟩ := List.forall_mem_cons.mp hwild
      exact .question (hhere hc) (ih hrest)
  | backslash => exact .backslash
  | escaped c _ ih => exact .escaped c (ih (List.forall_mem_cons.mp hwild).2)
  | plain hc _ ih => exact .plain hc (ih (List.forall_mem_cons.mp hwild).2)

end Glob

namespace Regex

/-! ## Parts of expressions -/

theorem matches_sequence_cons {r : Regex} {rs : List Regex} :
    Matches text (sequence (r :: rs)) i j ↔
      ∃ k, Matches text r i k ∧ Matches text (sequence rs) k j := by
  cases rs with
  | nil => simp [sequence, Matches]
  | cons => rfl

theorem getElem?_eq_some_iff_drop :
    text[i]? = some c ↔ text.drop i = c :: text.drop (i + 1) := by
  rw [← List.head?_drop, List.head?_eq_some_iff, ← List.tail_drop]
  constructor
  · rintro ⟨rest, hdrop⟩
    rw [hdrop, List.tail_cons]
  · intro hdrop
    exact ⟨_, hdrop⟩

theorem matches_one {s : CharSet} :
    Matches text (.one s) i j ↔
      ∃ c, text.drop i = c :: text.drop j ∧ s.contains c = true ∧ j = i + 1 := by
  simp only [Matches, getElem?_eq_some_iff_drop]
  constructor
  · rintro ⟨⟨c, hdrop, hc⟩, rfl⟩
    exact ⟨c, hdrop, hc, rfl⟩
  · rintro ⟨c, hdrop, hc, rfl⟩
    exact ⟨⟨c, hdrop, hc⟩, rfl⟩

/-- A set repeated takes up characters of the set. -/
theorem times_one {s : CharSet} :
    Times (Matches text (.one s)) n i j ↔
      ∃ part, text.drop i = part ++ text.drop j ∧ (∀ c ∈ part, s.contains c = true) ∧
        part.length = n ∧ j = i + n := by
  induction n generalizing i with
  | zero =>
      rw [times_zero]
      constructor
      · rintro rfl
        exact ⟨[], rfl, by simp, rfl, rfl⟩
      · rintro ⟨-, -, -, -, hj⟩
        exact hj
  | succ n ih =>
      simp only [times_succ, ih, matches_one]
      constructor
      · rintro ⟨_, ⟨c, hdrop, hc, rfl⟩, part, hrest, hpart, rfl, rfl⟩
        refine ⟨c :: part, ?_, List.forall_mem_cons.mpr ⟨hc, hpart⟩, rfl, by omega⟩
        rw [hdrop, hrest, List.cons_append]
      · rintro ⟨part, hdrop, hpart, hlength, rfl⟩
        cases part with
        | nil => cases hlength
        | cons c part =>
            obtain ⟨hc, hpart⟩ := List.forall_mem_cons.mp hpart
            have hrest : text.drop (i + 1) = part ++ text.drop (i + (n + 1)) := by
              rw [← List.tail_drop, hdrop, List.cons_append, List.tail_cons]
            refine ⟨i + 1, ⟨c, ?_, hc, rfl⟩, part, hrest, hpart, ?_, by omega⟩
            · rw [hdrop, hrest, List.cons_append]
            · simpa using hlength

end Regex

open Regex

namespace WildcardPart

theorem inLine_ranges : inLine.ranges = [(0, 9), (11, 0xd7ff), (0xe000, 0x10ffff)] := by
  have hmerge : CharSet.merge (CharSet.single '\n').ranges CharSet.surrogates =
      [(10, 10), (0xd800, 0xdfff)] := by
    simp [CharSet.merge, CharSet.single, CharSet.surrogates]
  rw [inLine, CharSet.negated, hmerge]
  rfl

/-- The characters of a line are all but line feeds. -/
theorem contains_inLine (c : Char) : inLine.contains c = true ↔ c ≠ '\n' := by
  have hnewline : c = '\n' ↔ c.toNat = 10 := by
    constructor
    · rintro rfl
      rfl
    · intro h
      exact Char.toNat_inj.mp h
  have hvalid := c.valid
  simp only [CharSet.contains, inLine_ranges, List.any_cons, List.any_nil, Bool.or_false,
    Bool.or_eq_true, Bool.and_eq_true, decide_eq_true_eq, ne_eq, hnewline]
  have hcases : c.toNat < 0xd800 ∨ 0xdfff < c.toNat ∧ c.toNat < 0x110000 := hvalid
  omega

theorem matches_any :
    Matches text any.toRegex i j ↔
      ∃ part, text.drop i = part ++ text.drop j ∧ (∀ c ∈ part, c ≠ '\n') ∧
        j = i + part.length := by
  show (∃ n, (∀ limit ∈ none, n ≤ limit - 0) ∧ Times (Matches text (.one inLine)) (0 + n) i j) ↔ _
  simp only [times_one, contains_inLine, Nat.zero_add]
  constructor
  · rintro ⟨n, -, part, hdrop, hpart, rfl, rfl⟩
    exact ⟨part, hdrop, hpart, rfl⟩
  · rintro ⟨part, hdrop, hpart, rfl⟩
    exact ⟨part.length, by simp, part, hdrop, hpart, rfl, rfl⟩

theorem matches_single :
    Matches text single.toRegex i j ↔
      ∃ c, text.drop i = c :: text.drop j ∧ c ≠ '\n' ∧ j = i + 1 := by
  simp only [toRegex, matches_one, contains_inLine]

theorem matches_char :
    Matches text (char c).toRegex i j ↔ text.drop i = c :: text.drop j ∧ j = i + 1 := by
  simp only [toRegex, Matches, cons_prefix_drop, List.nil_prefix, and_true,
    getElem?_eq_some_iff_drop, List.length_singleton]
  constructor
  · rintro ⟨hdrop, rfl⟩
    exact ⟨hdrop, rfl⟩
  · rintro ⟨hdrop, rfl⟩
    exact ⟨hdrop, rfl⟩

end WildcardPart

/-! ## Whole patterns -/

theorem matches_textEnd (hi : i ≤ text.length) :
    Matches text (.anchor .textEnd) i j ↔ text.drop i = [] ∧ j = text.length := by
  simp only [Matches, Anchor.holdsAt, Anchor.holds, List.getElem?_toArray,
    Option.isNone_iff_eq_none, List.getElem?_eq_none_iff, List.drop_eq_nil_iff]
  omega

theorem matches_textStart (hi : i ≤ text.length) :
    Matches text (.anchor .textStart) i j ↔ i = 0 ∧ j = 0 := by
  simp only [Matches, Anchor.holdsAt, Anchor.holds, List.getElem?_toArray,
    Option.isNone_iff_eq_none]
  split
  · simp_all
  · rw [List.getElem?_eq_none_iff]
    omega

theorem drop_of_eq_append {part : List Char} (hi : i ≤ text.length)
    (h : text.drop i = part ++ cs) :
    i + part.length ≤ text.length ∧ text.drop (i + part.length) = cs := by
  have hlength := congrArg List.length h
  rw [List.length_append, List.length_drop] at hlength
  refine ⟨by omega, ?_⟩
  rw [← List.drop_drop, h, List.drop_left]

theorem drop_of_eq_cons (hi : i ≤ text.length) (h : text.drop i = c :: cs) :
    i + 1 ≤ text.length ∧ text.drop (i + 1) = cs :=
  drop_of_eq_append hi (h.trans List.singleton_append.symm)

section

/-! What parts behind it match is put together with what a star, a question mark or a character
stands for. -/

variable {P : List Char → Prop} {rs : List Regex}
  (hrest : ∀ k ≤ text.length, Matches text (sequence rs) k j ↔ P (text.drop k) ∧ j = text.length)
  (hi : i ≤ text.length)

include hrest hi

theorem matches_any_cons :
    Matches text (sequence (WildcardPart.any.toRegex :: rs)) i j ↔
      (∃ part cs, text.drop i = part ++ cs ∧ (∀ c ∈ part, c ≠ '\n') ∧ P cs) ∧
        j = text.length := by
  simp only [matches_sequence_cons, WildcardPart.matches_any]
  constructor
  · rintro ⟨k, ⟨part, hdrop, hpart, rfl⟩, hmatches⟩
    obtain ⟨hP, rfl⟩ := (hrest _ (drop_of_eq_append hi hdrop).1).mp hmatches
    exact ⟨⟨part, _, hdrop, hpart, hP⟩, rfl⟩
  · rintro ⟨⟨part, cs, hdrop, hpart, hP⟩, rfl⟩
    obtain ⟨hle, rfl⟩ := drop_of_eq_append hi hdrop
    exact ⟨i + part.length, ⟨part, hdrop, hpart, rfl⟩, (hrest _ hle).mpr ⟨hP, rfl⟩⟩

theorem matches_single_cons :
    Matches text (sequence (WildcardPart.single.toRegex :: rs)) i j ↔
      (∃ c cs, text.drop i = c :: cs ∧ c ≠ '\n' ∧ P cs) ∧ j = text.length := by
  simp only [matches_sequence_cons, WildcardPart.matches_single]
  constructor
  · rintro ⟨k, ⟨c, hdrop, hc, rfl⟩, hmatches⟩
    obtain ⟨hP, rfl⟩ := (hrest _ (drop_of_eq_cons hi hdrop).1).mp hmatches
    exact ⟨⟨c, _, hdrop, hc, hP⟩, rfl⟩
  · rintro ⟨⟨c, cs, hdrop, hc, hP⟩, rfl⟩
    obtain ⟨hle, rfl⟩ := drop_of_eq_cons hi hdrop
    exact ⟨i + 1, ⟨c, hdrop, hc, rfl⟩, (hrest _ hle).mpr ⟨hP, rfl⟩⟩

theorem matches_char_cons :
    Matches text (sequence ((WildcardPart.char c).toRegex :: rs)) i j ↔
      (∃ cs, text.drop i = c :: cs ∧ P cs) ∧ j = text.length := by
  simp only [matches_sequence_cons, WildcardPart.matches_char]
  constructor
  · rintro ⟨k, ⟨hdrop, rfl⟩, hmatches⟩
    obtain ⟨hP, rfl⟩ := (hrest _ (drop_of_eq_cons hi hdrop).1).mp hmatches
    exact ⟨⟨_, hdrop, hP⟩, rfl⟩
  · rintro ⟨⟨cs, hdrop, hP⟩, rfl⟩
    obtain ⟨hle, rfl⟩ := drop_of_eq_cons hi hdrop
    exact ⟨i + 1, ⟨hdrop, rfl⟩, (hrest _ hle).mpr ⟨hP, rfl⟩⟩

end

/-- From a place on, the parts of a pattern match what the pattern stands for. -/
theorem matches_parts (p : List Char) (hi : i ≤ text.length) :
    Matches text (sequence ((WildcardPart.ofPattern p).map WildcardPart.toRegex ++
      [.anchor .textEnd])) i j ↔ Glob (· ≠ '\n') p (text.drop i) ∧ j = text.length := by
  have hnil (k : Nat) (hk : k ≤ text.length) :
      Matches text (sequence [.anchor .textEnd]) k j ↔
        Glob (· ≠ '\n') [] (text.drop k) ∧ j = text.length := by
    rw [Glob.nil_iff]
    exact matches_textEnd hk
  fun_induction WildcardPart.ofPattern p generalizing i with
  | case1 => exact hnil i hi
  | case2 p ih =>
      rw [Glob.star_iff]
      exact matches_any_cons (fun k hk => ih hk) hi
  | case3 p ih =>
      rw [Glob.question_iff]
      exact matches_single_cons (fun k hk => ih hk) hi
  | case4 =>
      simp only [Glob.backslash_iff]
      refine (matches_char_cons hnil hi).trans (and_congr_left' ?_)
      simp [Glob.nil_iff]
  | case5 c p ih =>
      rw [Glob.escaped_iff]
      exact matches_char_cons (fun k hk => ih hk) hi
  | case6 c p hstar hquestion hend hbackslash ih =>
      have hc : c ∉ ['*', '?', '\\'] := by
        simp only [List.mem_cons, List.not_mem_nil, or_false, not_or]
        refine ⟨hstar, hquestion, fun hc => ?_⟩
        cases p with
        | nil => exact hend hc rfl
        | cons d p => exact hbackslash d p hc rfl
      rw [Glob.plain_iff hc]
      exact matches_char_cons (fun k hk => ih hk) hi

/-- **The expression of a pattern occurs in the texts that the pattern stands for**, where line
feeds are not wild. -/
theorem occursIn_wildcardRegex (p text : List Char) :
    (wildcardRegex (WildcardPart.ofPattern p)).occursIn text = true ↔ Glob (· ≠ '\n') p text := by
  rw [occursIn_iff, wildcardRegex, List.cons_append]
  simp only [matches_sequence_cons]
  constructor
  · rintro ⟨i, j, hi, k, hstart, hrest⟩
    obtain ⟨rfl, rfl⟩ := (matches_textStart hi).mp hstart
    exact ((matches_parts p hi).mp hrest).1
  · intro h
    have hzero := Nat.zero_le text.length
    exact ⟨0, text.length, hzero, 0, (matches_textStart hzero).mpr ⟨rfl, rfl⟩,
      (matches_parts p hzero).mpr ⟨h, rfl⟩⟩

end Searchlight
