import Searchlight.Proofs.Text.Offsets
import Searchlight.Proofs.Token.Lexing

/-!
# Where tokens stand

A scan leaves nothing of a query string out: between its tokens there is only
white space, each token is a piece of the text that is not empty, and its offset
counts the bytes in front of it. A scan that fails names a character of the text
that starts what it could not read.

Every reader leaves its input at a place inside it, whether it succeeds or
fails. This is what makes the places right: a token is what lies between two
such places, and no position is counted on its own.
-/

namespace Searchlight

open Text

namespace Scan

/-- The character that a fault is about. -/
def Fault.mark : Fault → Char
  | .unclosedQuote => '"'
  | .invalidEscape _ | .incompleteEscape => '\\'
  | .unterminatedRegex => '/'
  | .missingBoost | .invalidBoost _ => '^'
  | .invalidDistance _ => '~'

variable {α β : Type} {start cs : List Char}

/-! ## One token -/

/-- A step goes on at a place behind `start`, or fails at the mark of its fault. -/
def Leaves (start : List Char) : Step α → Prop
  | .ok (_, rest) => rest <:+ start
  | .error stop => stop.rest <:+ start ∧ stop.rest.head? = some stop.fault.mark

theorem Leaves.map {x : Step α} {f : α × List Char → β × List Char}
    (h : Leaves start x) (hf : ∀ step, (f step).2 = step.2) : Leaves start (x.map f) := by
  cases x with
  | error stop => exact h
  | ok step =>
      show (f step).2 <:+ start
      rw [hf step]
      exact h

/-- A fault at the place where the token starts. -/
theorem leaves_error {fault : Fault} (hmark : start.head? = some fault.mark) :
    Leaves (α := α) start (.error ⟨fault, start⟩) :=
  ⟨List.suffix_rfl, hmark⟩

theorem suffix_of_cons_suffix {c : Char} (h : c :: cs <:+ start) : cs <:+ start :=
  (List.suffix_cons c cs).trans h

theorem leaves_phraseBody (hmark : start.head? = some '"') (hcs : cs <:+ start) :
    Leaves start (phraseBody start cs) := by
  fun_induction phraseBody start cs with
  | case1 => exact leaves_error hmark
  | case2 => exact leaves_error hmark
  | case3 cs => exact suffix_of_cons_suffix hcs
  | case4 c cs hc ih =>
      exact (ih (suffix_of_cons_suffix (suffix_of_cons_suffix hcs))).map fun _ => rfl
  | case5 c cs hc => exact ⟨hcs, rfl⟩
  | case6 c cs hnil hq hcons ih => exact (ih (suffix_of_cons_suffix hcs)).map fun _ => rfl

theorem leaves_regexBody (hmark : start.head? = some '/') (hcs : cs <:+ start) :
    Leaves start (regexBody start cs) := by
  fun_induction regexBody start cs with
  | case1 => exact leaves_error hmark
  | case2 => exact leaves_error hmark
  | case3 cs => exact suffix_of_cons_suffix hcs
  | case4 c cs ih =>
      exact (ih (suffix_of_cons_suffix (suffix_of_cons_suffix hcs))).map fun _ => rfl
  | case5 c cs hnil hs hcons ih => exact (ih (suffix_of_cons_suffix hcs)).map fun _ => rfl

theorem leaves_word (inRange started : Bool) (hcs : cs <:+ start) :
    Leaves start (word inRange started cs) := by
  fun_induction word inRange started cs with
  | case1 started => exact hcs
  | case2 started => exact ⟨hcs, rfl⟩
  | case3 started c cs ih =>
      exact (ih (suffix_of_cons_suffix (suffix_of_cons_suffix hcs))).map fun _ => rfl
  | case4 started c cs hnil hcons hend => exact hcs
  | case5 started c cs hnil hcons hend hcolon => exact suffix_of_cons_suffix hcs
  | case6 started c cs hnil hcons hend hcolon ih =>
      exact (ih (suffix_of_cons_suffix hcs)).map fun _ => rfl

theorem takeDigits_suffix : ∀ cs : List Char, (takeDigits cs).2 <:+ cs
  | [] => List.suffix_rfl
  | c :: cs => by
      rw [takeDigits_cons]
      split
      · exact (takeDigits_suffix cs).trans (List.suffix_cons c cs)
      · exact List.suffix_rfl

theorem pointedDigits_suffix (cs : List Char) : (pointedDigits cs).2 <:+ cs := by
  have hdigits := takeDigits_suffix cs
  rcases hcs : takeDigits cs with ⟨whole, rest⟩
  rw [hcs] at hdigits
  by_cases hp : rest.head? = some '.'
  · obtain ⟨rest, rfl⟩ := List.head?_eq_some_iff.mp hp
    rw [pointedDigits_point hcs]
    exact (takeDigits_suffix rest).trans (suffix_of_cons_suffix hdigits)
  · rw [pointedDigits_whole hcs hp]
    exact hdigits

theorem leaves_boost (hmark : start.head? = some '^') (hcs : cs <:+ start) :
    Leaves start (boost start cs) := by
  simp only [boost]
  split
  · exact leaves_error hmark
  · split
    · exact (pointedDigits_suffix cs).trans hcs
    · exact leaves_error hmark

theorem leaves_tilde (hmark : start.head? = some '~') (hcs : cs <:+ start) :
    Leaves start (tilde start cs) := by
  simp only [tilde]
  split
  · exact (takeDigits_suffix cs).trans hcs
  · split
    · exact (takeDigits_suffix cs).trans hcs
    · exact leaves_error hmark

theorem leaves_comparator (strict orEqual : Comparator) (hcs : cs <:+ start) :
    Leaves start (.ok (comparator strict orEqual cs)) := by
  rw [comparator.eq_def]
  split
  · exact suffix_of_cons_suffix hcs
  · exact hcs

theorem leaves_wordToken (ctx : Context) (cs : List Char) :
    Leaves cs (wordToken ctx cs) :=
  (leaves_word ctx.inRange false List.suffix_rfl).map fun _ => rfl

/-- A token starts where the text starts, and so does what cannot be read as one,
apart from a wrong escape inside of it. -/
theorem leaves_token (ctx : Context) (cs : List Char) : Leaves cs (token ctx cs) := by
  rw [token.eq_def]
  split
  · exact (leaves_phraseBody rfl (List.suffix_cons _ _)).map fun _ => rfl
  · exact (leaves_regexBody rfl (List.suffix_cons _ _)).map fun _ => rfl
  -- parentheses and brackets
  · exact List.suffix_cons _ _
  · exact List.suffix_cons _ _
  · exact List.suffix_cons _ _
  · exact List.suffix_cons _ _
  · exact List.suffix_cons _ _
  · exact List.suffix_cons _ _
  -- suffixes
  · exact leaves_boost rfl (List.suffix_cons _ _)
  · exact leaves_tilde rfl (List.suffix_cons _ _)
  -- characters that also start words
  · split
    · exact leaves_wordToken ctx _
    · exact List.suffix_cons _ _
  · split
    · exact leaves_comparator _ _ (List.suffix_cons _ _)
    · exact leaves_wordToken ctx _
  · split
    · exact leaves_comparator _ _ (List.suffix_cons _ _)
    · exact leaves_wordToken ctx _
  · exact leaves_wordToken ctx cs

/-- The text of a token and what is left behind it. -/
theorem exists_lexeme {ctx : Context} {c : Char} {rest : List Char} {k : TokenKind}
    (hblank : isBlank c = false) (h : token ctx (c :: cs) = .ok (k, rest)) :
    ∃ lexeme, lexeme ≠ [] ∧ c :: cs = lexeme ++ rest ∧
      (c :: cs).take ((c :: cs).length - rest.length) = lexeme := by
  have hleaves := leaves_token ctx (c :: cs)
  rw [h] at hleaves
  obtain ⟨lexeme, hlexeme⟩ := hleaves
  have hlt := (token_append boundary_nil hblank h).2
  rw [← hlexeme, List.length_append] at hlt
  refine ⟨lexeme, ?_, hlexeme.symm, ?_⟩
  · rintro rfl
    simp at hlt
  · rw [← hlexeme, List.length_append, Nat.add_sub_cancel, List.take_left]

end Scan

/-! ## All tokens -/

/-- The text that starts at `offset` consists of the tokens with nothing but
white space around them. -/
inductive LaidOut : Nat → String → List Token → Prop
  | blank {offset : Nat} {gap : String} (hgap : gap.toList.all isBlank = true) :
      LaidOut offset gap []
  | token {offset : Nat} {text gap rest : String} {t : Token} {ts : List Token}
      (htext : text = gap ++ t.text ++ rest)
      (hgap : gap.toList.all isBlank = true) (hne : t.text ≠ "")
      (hoffset : t.offset = offset + gap.utf8ByteSize)
      (hrest : LaidOut (t.offset + t.text.utf8ByteSize) rest ts) :
      LaidOut offset text (t :: ts)

namespace Scan

variable {ctx : Context} {cs : List Char} {fuel offset : Nat}

theorem laidOut_of_tokens {ts : List Token} (hfuel : cs.length < fuel)
    (h : tokens fuel ctx offset cs = .ok ts) : LaidOut offset (String.ofList cs) ts := by
  induction fuel generalizing ctx offset cs ts with
  | zero => omega
  | succ fuel ih =>
      have hsplit := List.takeWhile_append_dropWhile (p := isBlank) (l := cs)
      have hgap : (cs.takeWhile isBlank).all isBlank = true := List.all_takeWhile
      simp only [tokens] at h
      split at h
      · rename_i hblank
        obtain rfl := Except.ok.inj h
        rw [hblank, List.append_nil] at hsplit
        exact .blank (by rwa [String.toList_ofList, ← hsplit])
      · rename_i c start hstart
        rw [hstart] at h hsplit
        obtain ⟨⟨k, rest⟩, htoken, h⟩ := bind_eq_ok.mp h
        obtain ⟨later, hlater, h⟩ := bind_eq_ok.mp h
        obtain rfl := Except.ok.inj h
        dsimp only at hlater
        obtain ⟨lexeme, hne, hlexeme, htake⟩ :=
          exists_lexeme (Lexes.head_not_blank hstart) htoken
        have hlt := (token_append boundary_nil (Lexes.head_not_blank hstart) htoken).2
        have hle := length_start_le hstart
        have hrest := ih (by omega) hlater
        rw [htake, byteLength_eq, byteLength_eq] at hrest
        have htext : String.ofList cs =
            String.ofList (cs.takeWhile isBlank) ++ String.ofList lexeme ++ String.ofList rest := by
          rw [← String.ofList_append, ← String.ofList_append, List.append_assoc, ← hlexeme, hsplit]
        rw [htake, byteLength_eq]
        refine .token htext ?_ ?_ rfl hrest
        · rwa [String.toList_ofList]
        · simpa using hne

theorem mark_of_tokens {stop : Stop} (h : tokens fuel ctx offset cs = .error stop) :
    stop.rest <:+ cs ∧ stop.rest.head? = some stop.fault.mark := by
  induction fuel generalizing ctx offset cs with
  | zero => cases h
  | succ fuel ih =>
      have hdrop := List.dropWhile_suffix (l := cs) isBlank
      simp only [tokens] at h
      split at h
      · cases h
      · rename_i c start hstart
        rw [hstart] at h hdrop
        have hleaves := leaves_token ctx (c :: start)
        rcases bind_eq_error.mp h with h | ⟨⟨k, rest⟩, htoken, h⟩
        · rw [h] at hleaves
          exact ⟨hleaves.1.trans hdrop, hleaves.2⟩
        · rcases bind_eq_error.mp h with h | ⟨later, -, h⟩
          · rw [htoken] at hleaves
            obtain ⟨hsuffix, hmark⟩ := ih h
            exact ⟨hsuffix.trans (List.IsSuffix.trans hleaves hdrop), hmark⟩
          · cases h

end Scan

/-- A piece of the text that starts and ends between characters. -/
structure Token.Within (t : Token) (text : String) : Prop where
  starts : String.Pos.Raw.IsValid text ⟨t.offset⟩
  ends : String.Pos.Raw.IsValid text ⟨t.offset + t.text.utf8ByteSize⟩
  slice : ∃ before after, text = before ++ t.text ++ after ∧ t.offset = before.utf8ByteSize

theorem LaidOut.slice {offset : Nat} {text : String} {ts : List Token}
    (h : LaidOut offset text ts) : ∀ t ∈ ts, ∃ before after,
      text = before ++ t.text ++ after ∧ t.offset = offset + before.utf8ByteSize := by
  induction h with
  | blank hgap => simp
  | @token offset text gap rest t ts htext hgap hne hoffset hrest ih =>
      intro u hu
      rcases List.mem_cons.mp hu with rfl | hu
      · exact ⟨gap, rest, htext, hoffset⟩
      · obtain ⟨before, after, hrest, hbefore⟩ := ih u hu
        refine ⟨gap ++ t.text ++ before, after, ?_, ?_⟩
        · rw [htext, hrest]
          simp only [String.append_assoc]
        rw [hbefore, hoffset, String.utf8ByteSize_append, String.utf8ByteSize_append]
        omega

theorem Token.within_of_slice {t : Token} {text before after : String}
    (htext : text = before ++ t.text ++ after) (hoffset : t.offset = before.utf8ByteSize) :
    t.Within text where
  starts := by
    rw [hoffset]
    exact isValid_of_append (htext.trans (String.append_assoc ..))
  ends := by
    rw [hoffset, ← String.utf8ByteSize_append]
    exact isValid_of_append htext
  slice := ⟨before, after, htext, hoffset⟩

/-- What a scan says of a query string is true: the string is laid out as its
tokens say, or holds the character that its fault is about at the place that is
named. -/
def Accounted (query : String) : Except ScanError (List Token) → Prop
  | .ok ts => LaidOut 0 query ts ∧ ∀ t ∈ ts, t.Within query
  | .error e =>
      ∃ before after, query = before ++ String.singleton e.fault.mark ++ after ∧
        e.offset = before.utf8ByteSize ∧ e.fault.mark ∈ ['"', '\\', '/', '^', '~']

/-- **A scan accounts for every byte of a query string.** -/
theorem tokenize_accounted (query : String) : Accounted query (tokenize query) := by
  have hquery : String.ofList query.toList = query := String.ofList_toList
  rw [tokenize]
  split
  · rename_i ts hscan
    have hlaid := Scan.laidOut_of_tokens (Nat.lt_succ_self _) hscan
    rw [hquery] at hlaid
    refine ⟨hlaid, fun t ht => ?_⟩
    obtain ⟨before, after, htext, hoffset⟩ := hlaid.slice t ht
    exact Token.within_of_slice htext (by rw [hoffset, Nat.zero_add])
  · rename_i stop hscan
    obtain ⟨⟨before, hbefore⟩, hmark⟩ := Scan.mark_of_tokens hscan
    obtain ⟨after, hafter⟩ := List.head?_eq_some_iff.mp hmark
    refine ⟨String.ofList before, String.ofList after, ?_, ?_, ?_⟩
    · rw [← hquery, ← hbefore, hafter, String.ofList_append, String.ofList_cons,
        String.append_assoc]
    · show byteLength query.toList - byteLength stop.rest = _
      rw [← hbefore, byteLength_append, Nat.add_sub_cancel, byteLength_eq]
    · cases stop.fault <;> simp [Scan.Fault.mark]

/-- Characters of more than one byte count as such. -/
example : (tokenize "é  naïve^2").toOption.map (List.map Token.offset) = some [0, 4, 10] := by
  decide +kernel

end Searchlight
