import Searchlight.Token.Scan
import Searchlight.Proofs.Number.Numeral
import Searchlight.Proofs.Result

/-!
# One token

What a scanner takes does not depend on what follows, as long as that starts
with white space or with a character that ends a word. Every token takes at
least one character.
-/

namespace Searchlight.Scan

open Text

/-- Nothing, or characters that end the word before them. -/
def Boundary (cs : List Char) : Prop :=
  ∀ c ∈ cs.head?, isBlank c = true ∨ breaksWord c = true

@[simp] theorem boundary_nil : Boundary [] := by
  simp [Boundary]

@[simp] theorem boundary_cons {c : Char} {cs : List Char} :
    Boundary (c :: cs) ↔ isBlank c = true ∨ breaksWord c = true := by
  simp [Boundary]

variable {s : List Char}

/-! ## Phrases and regular expressions -/

/-- Outside escapes only the closing quote and the backslash are special. -/
theorem phraseBody_cons {c : Char} (hq : c ≠ '"') (hb : c ≠ '\\')
    (start rest : List Char) :
    phraseBody start (c :: rest) =
      (phraseBody start rest).map fun (body, after) => (c :: body, after) := by
  rw [phraseBody.eq_def]
  split <;> simp_all

theorem regexBody_cons {c : Char} (hs : c ≠ '/') (hb : c ≠ '\\')
    (start rest : List Char) :
    regexBody start (c :: rest) =
      (regexBody start rest).map fun (body, after) => (c :: body, after) := by
  rw [regexBody.eq_def]
  split <;> simp_all

/-- A character that no earlier case of a scanner takes is no backslash. -/
theorem ne_backslash {c : Char} {cs : List Char}
    (hnil : c = '\\' → cs = [] → False)
    (hcons : ∀ d ds, c = '\\' → cs = d :: ds → False) : c ≠ '\\' := by
  rintro rfl
  cases cs with
  | nil => exact hnil rfl rfl
  | cons d ds => exact hcons d ds rfl rfl

theorem phraseBody_append (start' s : List Char)
    {start cs body rest : List Char}
    (h : phraseBody start cs = .ok (body, rest)) :
    phraseBody start' (cs ++ s) = .ok (body, rest ++ s) ∧
      rest.length < cs.length := by
  fun_induction phraseBody start cs generalizing body rest with
  | case1 => cases h
  | case2 => cases h
  | case3 cs =>
      obtain ⟨rfl, rfl⟩ := Prod.mk.inj (Except.ok.inj h)
      exact ⟨by simp [phraseBody], by simp⟩
  | case4 c cs hc ih =>
      obtain ⟨⟨body, after⟩, hbody, heq⟩ := map_eq_ok.mp h
      obtain ⟨rfl, rfl⟩ := Prod.mk.inj heq
      obtain ⟨happend, hlt⟩ := ih hbody
      refine ⟨?_, by simp only [List.length_cons]; omega⟩
      simp [phraseBody, hc, happend, Except.map]
  | case5 => cases h
  | case6 c cs hnil hq hcons ih =>
      obtain ⟨⟨body, after⟩, hbody, heq⟩ := map_eq_ok.mp h
      obtain ⟨rfl, rfl⟩ := Prod.mk.inj heq
      obtain ⟨happend, hlt⟩ := ih hbody
      refine ⟨?_, by simp only [List.length_cons]; omega⟩
      rw [List.cons_append, phraseBody_cons hq (ne_backslash hnil hcons),
        happend]
      rfl

theorem regexBody_append (start' s : List Char)
    {start cs body rest : List Char}
    (h : regexBody start cs = .ok (body, rest)) :
    regexBody start' (cs ++ s) = .ok (body, rest ++ s) ∧
      rest.length < cs.length := by
  fun_induction regexBody start cs generalizing body rest with
  | case1 => cases h
  | case2 => cases h
  | case3 cs =>
      obtain ⟨rfl, rfl⟩ := Prod.mk.inj (Except.ok.inj h)
      exact ⟨by simp [regexBody], by simp⟩
  | case4 c cs ih =>
      obtain ⟨⟨body, after⟩, hbody, heq⟩ := map_eq_ok.mp h
      obtain ⟨rfl, rfl⟩ := Prod.mk.inj heq
      obtain ⟨happend, hlt⟩ := ih hbody
      refine ⟨?_, by simp only [List.length_cons]; omega⟩
      simp [regexBody, happend, Except.map]
  | case5 c cs hnil hs hcons ih =>
      obtain ⟨⟨body, after⟩, hbody, heq⟩ := map_eq_ok.mp h
      obtain ⟨rfl, rfl⟩ := Prod.mk.inj heq
      obtain ⟨happend, hlt⟩ := ih hbody
      refine ⟨?_, by simp only [List.length_cons]; omega⟩
      rw [List.cons_append, regexBody_cons hs (ne_backslash hnil hcons),
        happend]
      rfl

/-! ## Words -/

theorem word_cons {inRange started : Bool} {c : Char} (hb : c ≠ '\\')
    (rest : List Char) :
    word inRange started (c :: rest) =
      if isBlank c || breaksWord c then .ok ({}, c :: rest)
      else if c = ':' && started && !inRange then
        .ok ({ isField := true }, rest)
      else
        (word inRange true rest).map fun (w, after) => (w.addChar c, after) := by
  rw [word.eq_def]
  split <;> simp_all

/-- A word ends at a boundary. -/
theorem word_boundary (inRange started : Bool) (hs : Boundary s) :
    word inRange started s = .ok ({}, s) := by
  cases s with
  | nil => rfl
  | cons c s =>
      have hc := boundary_cons.mp hs
      have hb : c ≠ '\\' := by
        rintro rfl
        exact absurd hc (by decide)
      rw [word_cons hb, if_pos (by simpa using hc)]

theorem word_append (hs : Boundary s) {inRange started : Bool}
    {cs rest : List Char} {w : Word}
    (h : word inRange started cs = .ok (w, rest)) :
    word inRange started (cs ++ s) = .ok (w, rest ++ s) ∧
      rest.length ≤ cs.length := by
  fun_induction word inRange started cs generalizing w rest with
  | case1 started =>
      obtain ⟨rfl, rfl⟩ := Prod.mk.inj (Except.ok.inj h)
      exact ⟨word_boundary inRange started hs, Nat.le_refl _⟩
  | case2 => cases h
  | case3 started c cs ih =>
      obtain ⟨⟨w, after⟩, hword, heq⟩ := map_eq_ok.mp h
      obtain ⟨rfl, rfl⟩ := Prod.mk.inj heq
      obtain ⟨happend, hle⟩ := ih hword
      refine ⟨?_, by simp only [List.length_cons]; omega⟩
      simp [word, happend, Except.map]
  | case4 started c cs hnil hcons hend =>
      obtain ⟨rfl, rfl⟩ := Prod.mk.inj (Except.ok.inj h)
      refine ⟨?_, Nat.le_refl _⟩
      rw [List.cons_append, word_cons (ne_backslash hnil hcons), if_pos hend]
  | case5 started c cs hnil hcons hend hfield =>
      obtain ⟨rfl, rfl⟩ := Prod.mk.inj (Except.ok.inj h)
      refine ⟨?_, by simp⟩
      rw [List.cons_append, word_cons (ne_backslash hnil hcons), if_neg hend,
        if_pos hfield]
  | case6 started c cs hnil hcons hend hfield ih =>
      obtain ⟨⟨w, after⟩, hword, heq⟩ := map_eq_ok.mp h
      obtain ⟨rfl, rfl⟩ := Prod.mk.inj heq
      obtain ⟨happend, hle⟩ := ih hword
      refine ⟨?_, by simp only [List.length_cons]; omega⟩
      rw [List.cons_append, word_cons (ne_backslash hnil hcons), if_neg hend,
        if_neg hfield, happend]
      rfl

/-- A word that has not started yet takes the character in front of it. -/
theorem word_first {c : Char} (hblank : isBlank c = false)
    (hbreak : breaksWord c = false) {inRange : Bool} {cs rest : List Char}
    {w : Word} (h : word inRange false (c :: cs) = .ok (w, rest)) :
    w.text ≠ [] ∧ rest.length ≤ cs.length := by
  by_cases hb : c = '\\'
  · subst hb
    cases cs with
    | nil => cases h
    | cons d cs =>
        obtain ⟨⟨w, after⟩, hword, heq⟩ := map_eq_ok.mp h
        obtain ⟨rfl, rfl⟩ := Prod.mk.inj heq
        -- the bound does not depend on what follows, so nothing may follow
        have hle := (word_append boundary_nil hword).2
        exact ⟨by simp [Word.addEscape], Nat.le_succ_of_le hle⟩
  · rw [word_cons hb, if_neg (by simp [hblank, hbreak]), if_neg (by simp)] at h
    obtain ⟨⟨w, after⟩, hword, heq⟩ := map_eq_ok.mp h
    obtain ⟨rfl, rfl⟩ := Prod.mk.inj heq
    exact ⟨by simp [Word.addChar], (word_append boundary_nil hword).2⟩

/-! ## Numbers -/

theorem boundary_of_isAsciiDigit {c : Char} (hd : isAsciiDigit c = true) :
    isBlank c = false ∧ breaksWord c = false := by
  have hle : 48 ≤ c.toNat ∧ c.toNat ≤ 57 := by
    simpa [isAsciiDigit, Char.le_def, UInt32.le_iff_toNat_le] using hd
  constructor
  · simp [isBlank, blanks]
    omega
  · simp only [breaksWord, List.contains_eq_mem, decide_eq_false_iff_not]
    intro hc
    -- as a Boolean, so that deciding does not range over all characters
    have hnone : ['(', ')', '"', '^', '~', '[', ']', '\x7b', '\x7d'].all
        (fun d => !(48 ≤ d.toNat && d.toNat ≤ 57)) = true := by decide
    have hout := List.all_eq_true.mp hnone c hc
    simp [hle] at hout

/-- A boundary does not continue a number. -/
theorem Boundary.takeDigits (hs : Boundary s) : takeDigits s = ([], s) := by
  cases s with
  | nil => rfl
  | cons c s =>
      rw [takeDigits_cons, if_neg]
      intro hd
      obtain ⟨hblank, hbreak⟩ := boundary_of_isAsciiDigit hd
      simpa [hblank, hbreak] using boundary_cons.mp hs

theorem takeDigits_append (hs : Boundary s) : ∀ cs : List Char,
    takeDigits (cs ++ s) = ((takeDigits cs).1, (takeDigits cs).2 ++ s) ∧
      (takeDigits cs).2.length ≤ cs.length
  | [] => ⟨hs.takeDigits, Nat.le_refl _⟩
  | c :: cs => by
      obtain ⟨happend, hle⟩ := takeDigits_append hs cs
      rw [List.cons_append, takeDigits_cons, takeDigits_cons, happend]
      split
      · exact ⟨rfl, Nat.le_succ_of_le hle⟩
      · exact ⟨rfl, Nat.le_refl _⟩

theorem pointedDigits_point {cs whole rest : List Char}
    (h : takeDigits cs = (whole, '.' :: rest)) :
    pointedDigits cs =
      (whole ++ '.' :: (takeDigits rest).1, (takeDigits rest).2) := by
  simp only [pointedDigits, h]

theorem pointedDigits_whole {cs whole rest : List Char}
    (h : takeDigits cs = (whole, rest)) (hr : rest.head? ≠ some '.') :
    pointedDigits cs = (whole, rest) := by
  rw [pointedDigits.eq_def, h]
  split
  · simp_all
  · rename_i heq
    exact heq.symm

theorem Boundary.head_ne_point (hs : Boundary s) : s.head? ≠ some '.' := by
  intro h
  exact absurd (hs '.' h) (by decide)

theorem pointedDigits_append (hs : Boundary s) (cs : List Char) :
    pointedDigits (cs ++ s) =
        ((pointedDigits cs).1, (pointedDigits cs).2 ++ s) ∧
      (pointedDigits cs).2.length ≤ cs.length := by
  obtain ⟨happend, hle⟩ := takeDigits_append hs cs
  rcases hcs : takeDigits cs with ⟨whole, rest⟩
  rw [hcs] at happend hle
  by_cases hp : rest.head? = some '.'
  · obtain ⟨rest, rfl⟩ := List.head?_eq_some_iff.mp hp
    obtain ⟨happend', hle'⟩ := takeDigits_append hs rest
    have hpoint : takeDigits (cs ++ s) = (whole, '.' :: (rest ++ s)) := happend
    rw [pointedDigits_point hpoint, pointedDigits_point hcs, happend']
    simp only [List.length_cons] at hle
    exact ⟨rfl, by dsimp only; omega⟩
  · have hp' : (rest ++ s).head? ≠ some '.' := by
      cases rest with
      | nil => exact hs.head_ne_point
      | cons c rest => exact hp
    rw [pointedDigits_whole happend hp', pointedDigits_whole hcs hp]
    exact ⟨rfl, hle⟩

/-! ## Tokens -/

theorem boost_append (hs : Boundary s) {start cs rest : List Char}
    {k : TokenKind} (start' : List Char)
    (h : boost start cs = .ok (k, rest)) :
    boost start' (cs ++ s) = .ok (k, rest ++ s) ∧ rest.length ≤ cs.length := by
  obtain ⟨happend, hle⟩ := pointedDigits_append hs cs
  simp only [boost] at h ⊢
  rw [happend]
  split at h
  · cases h
  · rename_i hne
    simp only [if_neg hne]
    split at h
    · obtain ⟨rfl, rfl⟩ := Prod.mk.inj (Except.ok.inj h)
      exact ⟨rfl, hle⟩
    · cases h

theorem tilde_append (hs : Boundary s) {start cs rest : List Char}
    {k : TokenKind} (start' : List Char)
    (h : tilde start cs = .ok (k, rest)) :
    tilde start' (cs ++ s) = .ok (k, rest ++ s) ∧ rest.length ≤ cs.length := by
  obtain ⟨happend, hle⟩ := takeDigits_append hs cs
  simp only [tilde] at h ⊢
  rw [happend]
  split at h
  · rename_i hnil
    obtain ⟨rfl, rfl⟩ := Prod.mk.inj (Except.ok.inj h)
    exact ⟨if_pos hnil, hle⟩
  · rename_i hne
    rw [if_neg hne]
    split at h
    · rename_i hlt
      obtain ⟨rfl, rfl⟩ := Prod.mk.inj (Except.ok.inj h)
      exact ⟨if_pos hlt, hle⟩
    · cases h

theorem comparator_append (hs : Boundary s) (strict orEqual : Comparator)
    (cs : List Char) :
    comparator strict orEqual (cs ++ s) =
        ((comparator strict orEqual cs).1,
          (comparator strict orEqual cs).2 ++ s) ∧
      (comparator strict orEqual cs).2.length ≤ cs.length := by
  have hstrict : ∀ {ds : List Char}, ds.head? ≠ some '=' →
      comparator strict orEqual ds = (.comparator strict, ds) := by
    intro ds hd
    rw [comparator]
    rintro rest rfl
    exact hd rfl
  match cs with
  | [] =>
      have hne : s.head? ≠ some '=' := by
        intro h
        exact absurd (hs '=' h) (by decide)
      rw [List.nil_append, hstrict hne, hstrict (by simp)]
      exact ⟨rfl, Nat.le_refl _⟩
  | c :: cs =>
      by_cases hc : c = '='
      · subst hc
        exact ⟨rfl, Nat.le_succ _⟩
      · have hne : ∀ ds : List Char, (c :: ds).head? ≠ some '=' := by
          simpa using hc
        rw [List.cons_append, hstrict (hne _), hstrict (hne _)]
        exact ⟨rfl, Nat.le_refl _⟩

/-- Characters that decide at the start of a token what kind it is of. -/
def marks : List Char :=
  ['"', '/', '(', ')', '[', '\x7b', ']', '\x7d', '^', '~', '-', '>', '<']

theorem breaksWord_of_not_mark {c : Char} (hc : c ∉ marks) :
    breaksWord c = false := by
  rw [Bool.eq_false_iff]
  intro hb
  refine hc ?_
  simp only [breaksWord, List.contains_eq_mem, decide_eq_true_eq] at hb
  simp only [marks, List.mem_cons] at hb ⊢
  tauto

theorem token_of_not_mark (ctx : Context) {c : Char} (hc : c ∉ marks)
    (cs : List Char) : token ctx (c :: cs) = wordToken ctx (c :: cs) := by
  rw [token.eq_def]
  split <;> simp_all [marks]

theorem wordToken_append (hs : Boundary s) {ctx : Context}
    {cs rest : List Char} {k : TokenKind}
    (h : wordToken ctx cs = .ok (k, rest)) :
    wordToken ctx (cs ++ s) = .ok (k, rest ++ s) := by
  obtain ⟨⟨w, after⟩, hword, heq⟩ := map_eq_ok.mp h
  obtain ⟨rfl, rfl⟩ := Prod.mk.inj heq
  rw [wordToken, (word_append hs hword).1]
  rfl

theorem wordToken_lt {ctx : Context} {c : Char} (hblank : isBlank c = false)
    (hbreak : breaksWord c = false) {cs rest : List Char} {k : TokenKind}
    (h : wordToken ctx (c :: cs) = .ok (k, rest)) :
    rest.length < (c :: cs).length := by
  obtain ⟨⟨w, after⟩, hword, heq⟩ := map_eq_ok.mp h
  obtain ⟨-, rfl⟩ := Prod.mk.inj heq
  exact Nat.lt_succ_of_le (word_first hblank hbreak hword).2

/-- A mark that is a token by itself. -/
theorem append_of_single {k k' : TokenKind} {cs rest s : List Char} (c : Char)
    (h : (Except.ok (k', cs) : Step TokenKind) = .ok (k, rest)) :
    (Except.ok (k', cs ++ s) : Step TokenKind) = .ok (k, rest ++ s) ∧
      rest.length < (c :: cs).length := by
  obtain ⟨rfl, rfl⟩ := Prod.mk.inj (Except.ok.inj h)
  exact ⟨rfl, by simp⟩

/-- A comparator behind a field name, and else a word. -/
theorem comparing_append (hs : Boundary s) (strict orEqual : Comparator)
    {ctx : Context} {c : Char} (hblank : isBlank c = false)
    (hbreak : breaksWord c = false) {cs rest : List Char} {k : TokenKind}
    (h : (if ctx.afterField then .ok (comparator strict orEqual cs)
      else wordToken ctx (c :: cs)) = .ok (k, rest)) :
    (if ctx.afterField then .ok (comparator strict orEqual (cs ++ s))
      else wordToken ctx (c :: (cs ++ s))) = .ok (k, rest ++ s) ∧
        rest.length < (c :: cs).length := by
  cases hf : ctx.afterField with
  | true =>
      rw [hf, if_pos rfl] at h
      obtain ⟨happend, hle⟩ := comparator_append hs strict orEqual cs
      rw [if_pos rfl, happend, Except.ok.inj h]
      rw [Except.ok.inj h] at hle
      exact ⟨rfl, Nat.lt_succ_of_le hle⟩
  | false =>
      rw [hf, if_neg Bool.false_ne_true] at h
      rw [if_neg Bool.false_ne_true]
      exact ⟨wordToken_append hs h, wordToken_lt hblank hbreak h⟩

theorem token_append (hs : Boundary s) {ctx : Context} {c : Char}
    (hblank : isBlank c = false) {cs rest : List Char} {k : TokenKind}
    (h : token ctx (c :: cs) = .ok (k, rest)) :
    token ctx (c :: cs ++ s) = .ok (k, rest ++ s) ∧
      rest.length < (c :: cs).length := by
  by_cases hc : c ∈ marks
  · simp only [marks, List.mem_cons, List.not_mem_nil, or_false] at hc
    rcases hc with rfl | rfl | rfl | rfl | rfl | rfl | rfl | rfl | rfl | rfl |
      rfl | rfl | rfl
    · simp only [token, List.cons_append] at h ⊢
      obtain ⟨⟨body, after⟩, hbody, heq⟩ := map_eq_ok.mp h
      obtain ⟨rfl, rfl⟩ := Prod.mk.inj heq
      obtain ⟨happend, hlt⟩ := phraseBody_append ('"' :: (cs ++ s)) s hbody
      rw [happend]
      exact ⟨rfl, Nat.lt_succ_of_lt hlt⟩
    · simp only [token, List.cons_append] at h ⊢
      obtain ⟨⟨body, after⟩, hbody, heq⟩ := map_eq_ok.mp h
      obtain ⟨rfl, rfl⟩ := Prod.mk.inj heq
      obtain ⟨happend, hlt⟩ := regexBody_append ('/' :: (cs ++ s)) s hbody
      rw [happend]
      exact ⟨rfl, Nat.lt_succ_of_lt hlt⟩
    -- parentheses and brackets
    · exact append_of_single '(' h
    · exact append_of_single ')' h
    · exact append_of_single '[' h
    · exact append_of_single '\x7b' h
    · exact append_of_single ']' h
    · exact append_of_single '\x7d' h
    -- suffixes
    · obtain ⟨happend, hle⟩ := boost_append hs ('^' :: (cs ++ s)) h
      exact ⟨happend, Nat.lt_succ_of_le hle⟩
    · obtain ⟨happend, hle⟩ := tilde_append hs ('~' :: (cs ++ s)) h
      exact ⟨happend, Nat.lt_succ_of_le hle⟩
    -- characters that also start words, in the right context
    · simp only [token, List.cons_append] at h ⊢
      split at h
      · rename_i hword
        rw [if_pos hword]
        exact ⟨wordToken_append hs h, wordToken_lt hblank (by decide) h⟩
      · rename_i hword
        rw [if_neg hword]
        exact append_of_single '-' h
    · exact comparing_append hs .greater .atLeast hblank (by decide) h
    · exact comparing_append hs .less .atMost hblank (by decide) h
  · rw [List.cons_append, token_of_not_mark ctx hc]
    rw [token_of_not_mark ctx hc] at h
    exact ⟨wordToken_append hs h,
      wordToken_lt hblank (breaksWord_of_not_mark hc) h⟩

end Searchlight.Scan
