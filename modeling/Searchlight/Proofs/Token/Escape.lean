import Searchlight.Expr.Canonical
import Searchlight.Proofs.Token.Lexing

/-!
# Escaped words

An escaped text is read as one bare word that stands for the text: a term
where a boundary follows, a field name where a colon does.
-/

namespace Searchlight.Scan

open Text Canonical

variable {inRange started : Bool} {c : Char} {cs s after : List Char}

/-- A word `w` read from `written` that stands for the text `cs`, with an
ending of its own. A word without escapes is written as its text. -/
structure Spells (written cs : List Char) (ending w : Word) : Prop where
  text : w.text = cs
  wildcard : w.wildcard = ending.wildcard
  isField : w.isField = ending.isField
  unescaped : w.escaped = false → written = cs

theorem word_escape (c : Char) (cs : List Char) :
    word inRange started ('\\' :: c :: cs) =
      (word inRange true cs).map fun (w, after) => (w.addEscape c, after) := by
  rw [word]

theorem ne_of_not_special (hc : isSpecial c = false) {d : Char}
    (hd : isSpecial d = true) : c ≠ d := by
  rintro rfl
  rw [hc] at hd
  cases hd

/-- A character that is written as it is. -/
theorem word_plain (hspecial : isSpecial c = false) (hblank : isBlank c = false)
    (cs : List Char) :
    word inRange started (c :: cs) =
      (word inRange true cs).map fun (w, after) => (w.addChar c, after) := by
  have hne := fun d => ne_of_not_special (d := d) hspecial
  have hbreak : breaksWord c = false := by
    rw [Bool.eq_false_iff]
    intro hb
    simp only [breaksWord, List.contains_eq_mem, decide_eq_true_eq] at hb
    have hall : ['(', ')', '"', '^', '~', '[', ']', '\x7b', '\x7d'].all
        isSpecial = true := by decide
    exact hne c (List.all_eq_true.mp hall c hb) rfl
  rw [word_cons (hne '\\' (by decide)), if_neg (by simp [hblank, hbreak]),
    if_neg (by simp [hne ':' (by decide)])]

theorem spells_escape {ending w : Word} {written : List Char}
    (h : Spells written cs ending w) (c : Char) :
    Spells ('\\' :: c :: written) (c :: cs) ending (w.addEscape c) where
  text := by simp [Word.addEscape, h.text]
  wildcard := h.wildcard
  isField := h.isField
  unescaped := by simp [Word.addEscape]

theorem spells_plain {ending w : Word} {written : List Char}
    (h : Spells written cs ending w) (hspecial : isSpecial c = false) :
    Spells (c :: written) (c :: cs) ending (w.addChar c) where
  text := by simp [Word.addChar, h.text]
  wildcard := by
    have hne := fun d => ne_of_not_special (d := d) hspecial
    simp [Word.addChar, h.wildcard, hne '*' (by decide), hne '?' (by decide)]
  isField := h.isField
  unescaped := by
    intro hw
    rw [h.unescaped hw]

/-- What stands behind the first character of an escaped text. -/
theorem word_flatMap_escapeChar {ending : Word}
    (hs : word inRange true s = .ok (ending, after))
    (hend : ending.text = []) : ∀ cs : List Char,
    ∃ w, word inRange true (cs.flatMap escapeChar ++ s) = .ok (w, after) ∧
      Spells (cs.flatMap escapeChar) cs ending w
  | [] => ⟨ending, hs, ⟨hend, rfl, rfl, fun _ => rfl⟩⟩
  | c :: cs => by
      obtain ⟨w, hw, hspells⟩ := word_flatMap_escapeChar hs hend cs
      rw [List.flatMap_cons, escapeChar]
      split
      · refine ⟨w.addEscape c, ?_, spells_escape hspells c⟩
        rw [List.append_assoc]
        simp [word_escape, hw, Except.map]
      · rename_i hplain
        obtain ⟨hspecial, hblank⟩ : isSpecial c = false ∧ isBlank c = false := by
          simpa using hplain
        refine ⟨w.addChar c, ?_, spells_plain hspells hspecial⟩
        simp [word_plain hspecial hblank, hw, Except.map]

/-- The first character is written as it is or behind a backslash. -/
theorem escapeChars_cons (c : Char) (cs : List Char) :
    (escapeChars (c :: cs) = c :: cs.flatMap escapeChar ∧
      isSpecialFirst c = false ∧ isSpecial c = false ∧ isBlank c = false) ∨
    escapeChars (c :: cs) = '\\' :: c :: cs.flatMap escapeChar := by
  simp only [escapeChars, escapeChar]
  split
  · exact .inr rfl
  · rename_i hfirst
    split
    · exact .inr rfl
    · rename_i hplain
      refine .inl ⟨rfl, by simpa using hfirst, ?_⟩
      simpa using hplain

theorem word_escapeChars {ending : Word}
    (hs : word inRange true s = .ok (ending, after))
    (hend : ending.text = []) (hcs : cs ≠ []) :
    ∃ w, word inRange false (escapeChars cs ++ s) = .ok (w, after) ∧
      Spells (escapeChars cs) cs ending w := by
  obtain ⟨c, cs, rfl⟩ := List.exists_cons_of_ne_nil hcs
  obtain ⟨w, hw, hspells⟩ := word_flatMap_escapeChar hs hend cs
  rcases escapeChars_cons c cs with ⟨hwritten, -, hspecial, hblank⟩ | hwritten
  · refine ⟨w.addChar c, ?_, hwritten ▸ spells_plain hspells hspecial⟩
    rw [hwritten, List.cons_append, word_plain hspecial hblank, hw]
    rfl
  · refine ⟨w.addEscape c, ?_, hwritten ▸ spells_escape hspells c⟩
    rw [hwritten, List.cons_append, List.cons_append, word_escape, hw]
    rfl

/-- Operators are written in letters. -/
theorem not_isOperatorWord_escape {cs : List Char}
    (h : isOperatorWord ('\\' :: cs) = true) : False := by
  have hne : asciiLower '\\' ≠ asciiLower 'a' ∧
      asciiLower '\\' ≠ asciiLower 'o' ∧
      asciiLower '\\' ≠ asciiLower 'n' := by decide
  simp [isOperatorWord, sameIgnoringAsciiCase, hne] at h

/-- A word that is read from an escaped text is the text, and no operator. -/
theorem word_escapeWord {ending : Word}
    (hs : word inRange true s = .ok (ending, after))
    (hend : ending.text = []) (hcs : cs ≠ []) :
    ∃ w, word inRange false (escapeWord cs ++ s) = .ok (w, after) ∧
      w.text = cs ∧ w.wildcard = ending.wildcard ∧ w.isField = ending.isField ∧
      (w.escaped = false → isOperatorWord cs = false) := by
  rw [escapeWord]
  split
  · rename_i hop
    obtain ⟨c, cs, rfl⟩ := List.exists_cons_of_ne_nil hcs
    obtain ⟨w, hw, hspells⟩ := word_flatMap_escapeChar hs hend cs
    rcases escapeChars_cons c cs with ⟨hwritten, -⟩ | hwritten
    · have h := spells_escape hspells c
      refine ⟨w.addEscape c, ?_, h.text, h.wildcard, h.isField, ?_⟩
      · rw [hwritten, List.cons_append, List.cons_append, word_escape, hw]
        rfl
      · simp [Word.addEscape]
    · rw [hwritten] at hop
      exact (not_isOperatorWord_escape hop).elim
  · rename_i hop
    obtain ⟨w, hw, h⟩ := word_escapeChars hs hend hcs
    refine ⟨w, hw, h.text, h.wildcard, h.isField, fun hesc => ?_⟩
    simpa [h.unescaped hesc] using hop

/-- An escaped text starts with nothing that has a meaning of its own. -/
theorem escapeWord_start (hcs : cs ≠ []) :
    ∃ c written, escapeWord cs = c :: written ∧ c ∉ marks ∧
      isBlank c = false := by
  have hback : '\\' ∉ marks ∧ isBlank '\\' = false := by decide
  rw [escapeWord]
  split
  · exact ⟨_, _, rfl, hback⟩
  · obtain ⟨c, cs, rfl⟩ := List.exists_cons_of_ne_nil hcs
    rcases escapeChars_cons c cs with ⟨hw, hfirst, hspecial, hblank⟩ | hw
    · refine ⟨c, _, hw, fun hc => ?_, hblank⟩
      have hmarks : marks.all (fun d => isSpecialFirst d || isSpecial d) = true :=
        by decide
      simpa [hfirst, hspecial] using List.all_eq_true.mp hmarks c hc
    · exact ⟨_, _, hw, hback⟩

theorem kind_of_not_operator {w : Word} (hwild : w.wildcard = false)
    (hop : w.escaped = false → isOperatorWord w.text = false) :
    w.kind inRange = if w.isField then .field (String.ofList w.text)
      else .term (String.ofList w.text) := by
  rw [Word.kind, hwild]
  split
  · rfl
  · simp only [Bool.false_eq_true, if_false]
    split
    · rfl
    · rename_i hesc
      have hnot : isOperatorWord w.text = false := hop (by
        simp at hesc
        exact hesc.1)
      simp only [isOperatorWord, List.any_cons, List.any_nil, Bool.or_false,
        Bool.or_eq_false_iff] at hnot
      simp [hnot.1, hnot.2.1, hnot.2.2]

theorem token_escapeWord (ctx : Context) {ending : Word}
    (hs : word ctx.inRange true s = .ok (ending, after))
    (hend : ending.text = []) (hwild : ending.wildcard = false)
    (hcs : cs ≠ []) :
    token ctx (escapeWord cs ++ s) =
      .ok (if ending.isField then .field (String.ofList cs)
        else .term (String.ofList cs), after) := by
  obtain ⟨c, written, hw, hmark, -⟩ := escapeWord_start hcs
  obtain ⟨w, hword, rfl, hwild', hfield, hop⟩ := word_escapeWord hs hend hcs
  rw [hw, List.cons_append, token_of_not_mark ctx hmark, ← List.cons_append,
    ← hw, wordToken, hword, ← hfield, ← kind_of_not_operator
      (hwild'.trans hwild) hop]
  rfl

/-- An escaped text before a boundary is the term that it stands for. -/
theorem token_term (ctx : Context) (hcs : cs ≠ []) (hs : Boundary s) :
    token ctx (escapeWord cs ++ s) = .ok (.term (String.ofList cs), s) :=
  token_escapeWord ctx (word_boundary _ _ hs) rfl rfl hcs

/-- An escaped text before a colon is the field name that it stands for. -/
theorem token_field {ctx : Context} (hctx : ctx.inRange = false)
    (hcs : cs ≠ []) (s : List Char) :
    token ctx (escapeWord cs ++ ':' :: s) =
      .ok (.field (String.ofList cs), s) := by
  have hcolon : word ctx.inRange true (':' :: s) =
      .ok ({ isField := true }, s) := by
    rw [hctx, word_cons (by decide), if_neg (by decide), if_pos (by decide)]
  exact token_escapeWord ctx hcolon rfl rfl hcs

end Searchlight.Scan
