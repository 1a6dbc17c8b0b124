import Searchlight.Proofs.Number.Shortest
import Searchlight.Proofs.Text.Words
import Searchlight.Proofs.Token.Reading
import Searchlight.Proofs.Token.Scanned

/-!
# Literals as texts

The canonical text of a literal is read as the tokens of the literal, and a
factor as its boost. What has to hold of the literal is what holds of every
literal that comes from a query. Only the bounds of a range may be anything: an
empty bound has no tokens at all.
-/

namespace Searchlight

open Scan
open Text (isBlank)

namespace Scan

open Canonical

variable {ctx : Context} {cs s : List Char}

/-! ## Phrases and regular expressions -/

theorem phraseBody_quoted (start s : List Char) : ∀ cs : List Char,
    phraseBody start (cs.flatMap (fun c =>
      if c = '"' ∨ c = '\\' then ['\\', c] else [c]) ++ '"' :: s) = .ok (cs, s)
  | [] => rfl
  | c :: cs => by
      have ih := phraseBody_quoted start s cs
      rw [List.flatMap_cons, List.append_assoc]
      split
      · rename_i hc
        simp [phraseBody, hc, ih, Except.map]
      · rename_i hc
        obtain ⟨hq, hb⟩ := not_or.mp hc
        rw [List.singleton_append, phraseBody_cons hq hb, ih]
        rfl

theorem reads_quotePhrase (hctx : ctx.inRange = false) (cs : List Char) :
    Reads ctx (quotePhrase cs) [.phrase (String.ofList cs)] := by
  intro s ks' _ h'
  have htoken : token ctx (quotePhrase cs ++ s) =
      .ok (.phrase (String.ofList cs), s) := by
    simp [quotePhrase, token, phraseBody_quoted, Except.map]
  exact .step (by decide) htoken
    (h'.alike (Context.next_neutral hctx rfl).symm)

/-- Only slashes need a backslash: the escapes in a pattern are whole. -/
theorem regexBody_escaped (start s : List Char) (h : Paired cs) :
    regexBody start (cs.flatMap (fun c =>
      if c = '/' then ['\\', '/'] else [c]) ++ '/' :: s) = .ok (cs, s) := by
  induction h with
  | nil => rfl
  | @plain c cs hc _ ih =>
      rw [List.flatMap_cons, List.append_assoc]
      split
      · rename_i hslash
        simp [regexBody, hslash, ih, Except.map]
      · rename_i hslash
        rw [List.singleton_append, regexBody_cons hslash hc, ih]
        rfl
  | @escape c cs hc _ ih =>
      simp [hc, regexBody, ih, Except.map]

theorem reads_regex (hctx : ctx.inRange = false) (h : Paired cs) :
    Reads ctx ('/' :: cs.flatMap (fun c =>
      if c = '/' then ['\\', '/'] else [c]) ++ ['/'])
      [.regex (String.ofList cs)] := by
  refine Reads.single (by decide) hctx rfl fun {s} _ => ?_
  change token ctx ('/' :: (cs.flatMap _ ++ ['/'] ++ s)) = _
  simp [token, regexBody_escaped _ _ h, Except.map]

/-! ## Numbers -/

theorem reads_tilde (hctx : ctx.inRange = false) {distance : Option ℕ}
    (h : ∀ n ∈ distance, n < 2 ^ 32) :
    Reads ctx ('~' :: (distance.map number).getD []) [.tilde distance] := by
  refine Reads.single (by decide) hctx rfl fun {s} hs => ?_
  cases distance with
  | none => simp [token, tilde, hs.takeDigits]
  | some n =>
      have htake : takeDigits (number n ++ s) = (number n, s) :=
        takeDigits_append_of_all hs.takeDigits (allDigits_toDigits n)
      have hvalue : digitsValue (number n) = n := digitsValue_toDigits n
      have hne : number n ≠ [] := Nat.toDigits_ne_nil
      have hlt : n < 0x100000000 := h n rfl
      simp [token, tilde, htake, hvalue, hne, hlt]

theorem pointedDigits_numeral {digits : ℕ} {e : ℤ} (h : Numeral cs digits e)
    (hs : Boundary s) : pointedDigits (cs ++ s) = (cs, s) := by
  cases h with
  | whole hcs hne =>
      exact pointedDigits_whole (takeDigits_append_of_all hs.takeDigits hcs)
        hs.head_ne_point
  | @pointed whole fraction hw hne hf =>
      have htake := takeDigits_append_of_all hs.takeDigits hf
      rw [List.append_assoc, List.cons_append, pointedDigits_point
        (takeDigits_append_of_all (takeDigits_point _) hw), htake]

/-- The text of a factor is the factor. -/
theorem reads_boost (hctx : ctx.inRange = false) {x : Single}
    (hfinite : x.isFinite = true) (hpos : x.isPositive = true) :
    Reads ctx ('^' :: Binary.plain.write x) [.boost x] := by
  refine Reads.single (by decide) hctx rfl fun {s} hs => ?_
  obtain ⟨digits, e, hnumeral, hx⟩ := numeral_write hfinite hpos
  obtain ⟨c, rest, hne, -⟩ := hnumeral.head_digit
  have hread := hnumeral.read_binary (f := .single)
  rw [hx] at hread
  rw [List.cons_append]
  simp only [token, boost, pointedDigits_numeral hnumeral hs, hread]
  rw [hne]
  rfl

end Scan

namespace Canonical

/-! ## The tokens of literals -/

def isClosed : Bound String → Bool
  | .exclusive _ => false
  | _ => true

def boundKinds : Bound String → List TokenKind
  | .unbounded => [.wildcard "*"]
  | .inclusive v | .exclusive v => if v = "" then [] else [.term v]

def literalKinds : Literal → List TokenKind
  | .term text => [.term text]
  | .phrase text slop =>
      .phrase text :: if 0 < slop then [.tilde (some slop)] else []
  | .range lower upper =>
      .openRange (isClosed lower) :: boundKinds lower ++
        .term "TO" :: boundKinds upper ++ [.closeRange (isClosed upper)]
  | .wildcard pattern => [.wildcard pattern]
  | .fuzzy text distance => [.term text, .tilde distance]
  | .regex pattern => [.regex pattern]

variable {ctx : Context} {cs s : List Char} {ks : List TokenKind}

theorem reads_term (hctx : ctx.inRange = false) {text : String}
    (h : text ≠ "") : Reads ctx (escapeWord text.toList) [.term text] := by
  have hcs : text.toList ≠ [] := by simpa using h
  obtain ⟨c, written, hw, -, hblank⟩ := escapeWord_start hcs
  rw [hw]
  refine Reads.single hblank hctx rfl fun {s} hs => ?_
  rw [← hw, token_term ctx hcs hs, String.ofList_toList]

/-- Between the brackets of a range, where every word is a value. -/
abbrev inBrackets : Context := { inRange := true }

theorem lexes_bound (b : Bound String) (hs : Boundary s)
    (h : Lexes inBrackets s ks) :
    Lexes inBrackets (bound b ++ s) (boundKinds b ++ ks) := by
  have hvalue : ∀ v : String, Lexes inBrackets (escapeWord v.toList ++ s)
      ((if v = "" then [] else [.term v]) ++ ks) := by
    intro v
    split
    · rename_i hv
      subst hv
      exact h
    · rename_i hv
      have hcs : v.toList ≠ [] := by simpa using hv
      obtain ⟨c, written, hw, -, hblank⟩ := escapeWord_start hcs
      have htoken := token_term inBrackets hcs hs
      rw [String.ofList_toList] at htoken
      rw [hw] at htoken ⊢
      exact .step hblank htoken (h.alike ⟨rfl, rfl, rfl⟩)
  cases b with
  | unbounded =>
      have htoken : token inBrackets ('*' :: s) = .ok (.wildcard "*", s) := by
        rw [token_of_not_mark _ (by decide), wordToken,
          word_cons (by decide), if_neg (by decide), if_neg (by decide),
          word_boundary _ _ hs]
        rfl
      exact .step (by decide) htoken (h.alike ⟨rfl, rfl, rfl⟩)
  | inclusive v => exact hvalue v
  | exclusive v => exact hvalue v

theorem lexes_separator (hs : Boundary s) (h : Lexes inBrackets s ks) :
    Lexes inBrackets (" TO".toList ++ s) (.term "TO" :: ks) := by
  have htoken : token inBrackets ("TO".toList ++ s) = .ok (.term "TO", s) :=
    token_plain rfl hs (by decide) (by decide)
  exact .blank (by decide) (.step (by decide) htoken (h.alike ⟨rfl, rfl, rfl⟩))

theorem reads_range (ctx : Context) (lower upper : Bound String) :
    Reads ctx (literal (.range lower upper))
      (literalKinds (.range lower upper)) := by
  intro s ks' hs h'
  have hclose : Lexes inBrackets (rangeClose upper :: s)
      (.closeRange (isClosed upper) :: ks') := by
    cases upper <;> exact .step rfl rfl (h'.alike ⟨rfl, rfl, rfl⟩)
  have hbracket : Boundary (rangeClose upper :: s) := by
    cases upper <;> exact boundary_cons.mpr (.inr rfl)
  have hupper := lexes_bound upper hbracket hclose
  have hseparator := lexes_separator (boundary_cons.mpr (.inl (by decide)))
    (hupper.blank (c := ' ') (by decide))
  have hlower := lexes_bound lower
    (boundary_cons.mpr (.inl (by decide))) hseparator
  have hopen : Lexes ctx (rangeOpen lower :: (bound lower ++ (" TO".toList ++
      ' ' :: (bound upper ++ rangeClose upper :: s))))
      (.openRange (isClosed lower) :: (boundKinds lower ++ .term "TO" ::
        (boundKinds upper ++ .closeRange (isClosed upper) :: ks'))) := by
    cases lower <;> exact .step rfl rfl (hlower.alike ⟨rfl, rfl, rfl⟩)
  simpa [literal, literalKinds] using hopen

end Canonical

/-! ## Literals of queries -/

/-- What holds of a literal that is read in a context. -/
def Literal.Spellable (ctx : Context) : Literal → Prop
  | .term text => text ≠ ""
  | .phrase text slop =>
      text ≠ "" ∧ Parse.phraseText text = text ∧ slop < 2 ^ 32
  | .range _ _ => True
  | .wildcard pattern =>
      ∃ c cs, pattern.toList = c :: cs ∧ isBlank c = false ∧
        token ctx (c :: cs) = .ok (.wildcard pattern, [])
  | .fuzzy text distance => text ≠ "" ∧ ∀ n ∈ distance, n ≤ maxFuzzyDistance
  | .regex pattern => pattern ≠ "" ∧ Paired pattern.toList

open Canonical in
/-- **The text of a literal is read as its tokens.** -/
theorem Literal.Spellable.reads {ctx : Context} {l : Literal}
    (h : l.Spellable ctx) (hctx : ctx.inRange = false) :
    Reads ctx (literal l) (literalKinds l) := by
  cases l with
  | term text => exact reads_term hctx h
  | phrase text slop =>
      obtain ⟨-, -, hslop⟩ := h
      have hphrase := reads_quotePhrase hctx text.toList
      rw [String.ofList_toList] at hphrase
      rw [literal, literalKinds]
      split
      · have hdistance : ∀ n ∈ some slop, n < 2 ^ 32 := by simpa using hslop
        exact hphrase.append (reads_tilde rfl hdistance)
          (boundary_cons.mpr (.inr (by decide)))
      · simpa using hphrase
  | range lower upper => exact reads_range ctx lower upper
  | wildcard pattern =>
      obtain ⟨c, cs, hp, hblank, htoken⟩ := h
      rw [literal, hp]
      exact Reads.single hblank hctx rfl fun hs =>
        (token_append hs hblank htoken).1
  | fuzzy text distance =>
      refine (reads_term hctx h.1).append (reads_tilde rfl fun n hn => ?_)
        (boundary_cons.mpr (.inr (by decide)))
      have hle := h.2 n hn
      exact Nat.lt_of_le_of_lt hle (by decide)
  | regex pattern =>
      have hregex := reads_regex hctx h.2
      rwa [String.ofList_toList] at hregex

end Searchlight
