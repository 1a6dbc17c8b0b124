import Searchlight.Proofs.Token.Lexing

/-!
# Tokens that a scan gives

Not every token stands for a text. A word is not empty, a distance fits into
its type, the escapes of a regular expression are whole, and a word with
wildcards is read again from its own pattern. These facts say what a printer
may rely on.
-/

namespace Searchlight.Scan

open Text

variable {ctx : Context} {c : Char} {cs rest : List Char} {k : TokenKind}
  {ks ks' : List TokenKind}

/-! ## Words -/

/-- A word that is no field name is what its pattern says, and can be read from
it again. -/
theorem word_pattern {inRange started : Bool} {w : Word}
    (h : word inRange started cs = .ok (w, rest)) (hfield : w.isField = false) :
    cs = w.pattern ++ rest ∧
      word inRange started w.pattern = .ok (w, []) := by
  fun_induction word inRange started cs generalizing w rest with
  | case1 started =>
      obtain ⟨rfl, rfl⟩ := Prod.mk.inj (Except.ok.inj h)
      exact ⟨rfl, rfl⟩
  | case2 => cases h
  | case3 started c cs ih =>
      obtain ⟨⟨w, after⟩, hword, heq⟩ := map_eq_ok.mp h
      obtain ⟨rfl, rfl⟩ := Prod.mk.inj heq
      obtain ⟨hcs, hagain⟩ := ih hword hfield
      refine ⟨by simp [Word.addEscape, ← hcs], ?_⟩
      simp [Word.addEscape, word, hagain, Except.map]
  | case4 started c cs hnil hcons hend =>
      obtain ⟨rfl, rfl⟩ := Prod.mk.inj (Except.ok.inj h)
      exact ⟨rfl, rfl⟩
  | case5 started c cs hnil hcons hend hcolon =>
      obtain ⟨rfl, rfl⟩ := Prod.mk.inj (Except.ok.inj h)
      cases hfield
  | case6 started c cs hnil hcons hend hcolon ih =>
      obtain ⟨⟨w, after⟩, hword, heq⟩ := map_eq_ok.mp h
      obtain ⟨rfl, rfl⟩ := Prod.mk.inj heq
      obtain ⟨hcs, hagain⟩ := ih hword hfield
      refine ⟨by simp [Word.addChar, ← hcs], ?_⟩
      change word inRange started (c :: w.pattern) = _
      rw [word_cons (ne_backslash hnil hcons), if_neg hend, if_neg hcolon,
        hagain]
      rfl

theorem kind_eq_term {inRange : Bool} {w : Word} {text : String}
    (h : w.kind inRange = .term text) : text = String.ofList w.text := by
  rw [Word.kind] at h
  repeat' split at h
  all_goals simp_all

theorem kind_eq_field {inRange : Bool} {w : Word} {name : String}
    (h : w.kind inRange = .field name) : name = String.ofList w.text := by
  rw [Word.kind] at h
  repeat' split at h
  all_goals simp_all

theorem kind_eq_wildcard {inRange : Bool} {w : Word} {pattern : String}
    (h : w.kind inRange = .wildcard pattern) :
    w.isField = false ∧ pattern = String.ofList w.pattern := by
  rw [Word.kind] at h
  repeat' split at h
  all_goals simp_all

/-- A word is a term, a field name, a pattern or an operator. -/
theorem kind_of_word {inRange : Bool} {w : Word} :
    (∀ pattern, w.kind inRange ≠ .regex pattern) ∧
      ∀ distance, w.kind inRange ≠ .tilde distance := by
  rw [Word.kind]
  constructor
  all_goals
    intro _
    repeat' split
    all_goals simp

/-! ## Regular expressions -/

/-- Every backslash has a character behind it, and that is no slash. -/
inductive Paired : List Char → Prop
  | nil : Paired []
  | plain {c : Char} {cs : List Char} (hc : c ≠ '\\') (h : Paired cs) :
      Paired (c :: cs)
  | escape {c : Char} {cs : List Char} (hc : c ≠ '/') (h : Paired cs) :
      Paired ('\\' :: c :: cs)

theorem paired_of_regexBody {start body : List Char}
    (h : regexBody start cs = .ok (body, rest)) : Paired body := by
  fun_induction regexBody start cs generalizing body rest with
  | case1 => cases h
  | case2 => cases h
  | case3 cs =>
      obtain ⟨rfl, rfl⟩ := Prod.mk.inj (Except.ok.inj h)
      exact .nil
  | case4 c cs ih =>
      obtain ⟨⟨body, after⟩, hbody, heq⟩ := map_eq_ok.mp h
      obtain ⟨rfl, rfl⟩ := Prod.mk.inj heq
      split
      · rename_i hc
        exact .plain (by simp [hc]) (ih hbody)
      · rename_i hc
        exact .escape hc (ih hbody)
  | case5 c cs hnil hs hcons ih =>
      obtain ⟨⟨body, after⟩, hbody, heq⟩ := map_eq_ok.mp h
      obtain ⟨rfl, rfl⟩ := Prod.mk.inj heq
      exact .plain (ne_backslash hnil hcons) (ih hbody)

/-! ## Tokens -/

theorem tilde_kind {start : List Char} (h : tilde start cs = .ok (k, rest)) :
    ∃ distance, k = .tilde distance ∧ ∀ n ∈ distance, n < 2 ^ 32 := by
  simp only [tilde] at h
  split at h
  · obtain ⟨rfl, -⟩ := Prod.mk.inj (Except.ok.inj h)
    exact ⟨none, rfl, by simp⟩
  · split at h
    · rename_i hlt
      obtain ⟨rfl, -⟩ := Prod.mk.inj (Except.ok.inj h)
      refine ⟨some _, rfl, fun n hn => ?_⟩
      obtain rfl := Option.some.inj hn
      exact hlt
    · cases h

/-- Tokens that are neither words nor carry a text or a number that matters
here. -/
def isMark : TokenKind → Bool
  | .term _ | .wildcard _ | .field _ | .regex _ | .tilde _ => false
  | _ => true

/-- `>` and `<` start a word, or are a mark behind a field name. -/
theorem comparing_cases {strict orEqual : Comparator}
    (htoken : ∀ ds, token ctx (c :: ds) =
      if ctx.afterField then .ok (comparator strict orEqual ds)
      else wordToken ctx (c :: ds))
    (h : token ctx (c :: cs) = .ok (k, rest)) :
    ((∀ ds, token ctx (c :: ds) = wordToken ctx (c :: ds)) ∧
      wordToken ctx (c :: cs) = .ok (k, rest)) ∨ isMark k = true := by
  cases hf : ctx.afterField with
  | true =>
      rw [htoken, if_pos hf, comparator.eq_def] at h
      right
      split at h <;>
        · obtain ⟨rfl, -⟩ := Prod.mk.inj (Except.ok.inj h)
          rfl
  | false =>
      have hword : ∀ ds, token ctx (c :: ds) = wordToken ctx (c :: ds) := by
        intro ds
        rw [htoken, hf]
        exact if_neg Bool.false_ne_true
      exact .inl ⟨hword, hword cs ▸ h⟩

/-- Where a token comes from: a word, a regular expression, a tilde, or a mark.
What reads a word is decided by its first character. -/
theorem token_cases (h : token ctx (c :: cs) = .ok (k, rest)) :
    (breaksWord c = false ∧
      (∀ ds, token ctx (c :: ds) = wordToken ctx (c :: ds)) ∧
        wordToken ctx (c :: cs) = .ok (k, rest)) ∨
    (∃ start body, regexBody start cs = .ok (body, rest) ∧
      k = .regex (String.ofList body)) ∨
    (∃ distance, k = .tilde distance ∧ ∀ n ∈ distance, n < 2 ^ 32) ∨
    isMark k = true := by
  have hmark : ∀ {k' : TokenKind} {ds : List Char}, isMark k' = true →
      (Except.ok (k', ds) : Step TokenKind) = .ok (k, rest) →
        isMark k = true := by
    intro k' ds hk heq
    obtain ⟨rfl, rfl⟩ := Prod.mk.inj (Except.ok.inj heq)
    exact hk
  by_cases hc : c ∈ marks
  · simp only [marks, List.mem_cons, List.not_mem_nil, or_false] at hc
    rcases hc with rfl | rfl | rfl | rfl | rfl | rfl | rfl | rfl | rfl | rfl |
      rfl | rfl | rfl
    · obtain ⟨⟨body, after⟩, -, heq⟩ := map_eq_ok.mp h
      exact .inr (.inr (.inr (by rw [← (Prod.mk.inj heq).1]; rfl)))
    · obtain ⟨⟨body, after⟩, hbody, heq⟩ := map_eq_ok.mp h
      obtain ⟨rfl, rfl⟩ := Prod.mk.inj heq
      exact .inr (.inl ⟨_, body, hbody, rfl⟩)
    -- parentheses and brackets
    · exact .inr (.inr (.inr (hmark rfl h)))
    · exact .inr (.inr (.inr (hmark rfl h)))
    · exact .inr (.inr (.inr (hmark rfl h)))
    · exact .inr (.inr (.inr (hmark rfl h)))
    · exact .inr (.inr (.inr (hmark rfl h)))
    · exact .inr (.inr (.inr (hmark rfl h)))
    -- suffixes
    · simp only [token, boost] at h
      split at h
      · cases h
      · split at h
        · exact .inr (.inr (.inr (hmark rfl h)))
        · cases h
    · exact .inr (.inr (.inl (tilde_kind h)))
    -- characters that also start words, in the right context
    · by_cases hword : (ctx.inRange || ctx.afterComparator) = true
      · have heq : ∀ ds, token ctx ('-' :: ds) = wordToken ctx ('-' :: ds) :=
          fun ds => if_pos hword
        exact .inl ⟨by decide, heq, heq cs ▸ h⟩
      · rw [token, if_neg hword] at h
        exact .inr (.inr (.inr (hmark rfl h)))
    · rcases comparing_cases (fun _ => rfl) h with hword | hk
      · exact .inl ⟨by decide, hword⟩
      · exact .inr (.inr (.inr hk))
    · rcases comparing_cases (fun _ => rfl) h with hword | hk
      · exact .inl ⟨by decide, hword⟩
      · exact .inr (.inr (.inr hk))
  · exact .inl ⟨breaksWord_of_not_mark hc, token_of_not_mark ctx hc,
      token_of_not_mark ctx hc cs ▸ h⟩

/-- A token that some text gives in a context. -/
def Scannable (ctx : Context) (k : TokenKind) : Prop :=
  ∃ c cs rest, isBlank c = false ∧ token ctx (c :: cs) = .ok (k, rest)

/-- The token of a word. -/
theorem Scannable.word (h : Scannable ctx k) (hmark : isMark k = false)
    (hregex : ∀ pattern, k ≠ .regex pattern)
    (htilde : ∀ distance, k ≠ .tilde distance) :
    ∃ c cs rest w, isBlank c = false ∧ breaksWord c = false ∧
      (∀ ds, token ctx (c :: ds) = wordToken ctx (c :: ds)) ∧
      word ctx.inRange false (c :: cs) = .ok (w, rest) ∧
      k = w.kind ctx.inRange := by
  obtain ⟨c, cs, rest, hblank, htoken⟩ := h
  rcases token_cases htoken with ⟨hbreak, hstart, hword⟩ | ⟨_, _, -, hk⟩ |
    ⟨_, hk, -⟩ | hk
  · obtain ⟨⟨w, after⟩, hword, heq⟩ := map_eq_ok.mp hword
    exact ⟨c, cs, after, w, hblank, hbreak, hstart, hword, (Prod.mk.inj heq).1.symm⟩
  · exact absurd hk (hregex _)
  · exact absurd hk (htilde _)
  · rw [hmark] at hk
    cases hk

theorem Scannable.term {text : String} (h : Scannable ctx (.term text)) :
    text ≠ "" := by
  obtain ⟨c, cs, rest, w, hblank, hbreak, -, hword, hk⟩ :=
    h.word rfl (by simp) (by simp)
  rw [kind_eq_term hk.symm]
  simpa using (word_first hblank hbreak hword).1

theorem Scannable.field {name : String} (h : Scannable ctx (.field name)) :
    name ≠ "" := by
  obtain ⟨c, cs, rest, w, hblank, hbreak, -, hword, hk⟩ :=
    h.word rfl (by simp) (by simp)
  rw [kind_eq_field hk.symm]
  simpa using (word_first hblank hbreak hword).1

/-- A word with wildcards is its own spelling. -/
theorem Scannable.wildcard {pattern : String}
    (h : Scannable ctx (.wildcard pattern)) :
    ∃ c cs, pattern.toList = c :: cs ∧ isBlank c = false ∧
      token ctx (c :: cs) = .ok (.wildcard pattern, []) := by
  obtain ⟨c, cs, rest, w, hblank, hbreak, hstart, hword, hk⟩ :=
    h.word rfl (by simp) (by simp)
  obtain ⟨hfield, rfl⟩ := kind_eq_wildcard hk.symm
  obtain ⟨hcs, hagain⟩ := word_pattern hword hfield
  cases hp : w.pattern with
  | nil =>
      have hle := (word_first hblank hbreak hword).2
      rw [hp, List.nil_append] at hcs
      rw [← hcs, List.length_cons] at hle
      omega
  | cons d ds =>
      rw [hp, List.cons_append] at hcs
      obtain ⟨rfl, -⟩ := List.cons.inj hcs
      refine ⟨c, ds, String.toList_ofList, hblank, ?_⟩
      rw [hp] at hagain
      rw [hstart, wordToken, hagain, ← hp, hk]
      rfl

theorem Scannable.regex {pattern : String} (h : Scannable ctx (.regex pattern)) :
    Paired pattern.toList := by
  obtain ⟨c, cs, rest, hblank, htoken⟩ := h
  rcases token_cases htoken with ⟨-, -, hword⟩ | ⟨_, body, hbody, hk⟩ |
    ⟨_, hk, -⟩ | hk
  · obtain ⟨⟨w, after⟩, -, heq⟩ := map_eq_ok.mp hword
    exact absurd (Prod.mk.inj heq).1 (kind_of_word.1 pattern)
  · obtain rfl := TokenKind.regex.inj hk
    rw [String.toList_ofList]
    exact paired_of_regexBody hbody
  · cases hk
  · cases hk

theorem Scannable.tilde {n : ℕ} (h : Scannable ctx (.tilde (some n))) :
    n < 2 ^ 32 := by
  obtain ⟨c, cs, rest, hblank, htoken⟩ := h
  rcases token_cases htoken with ⟨-, -, hword⟩ | ⟨_, _, -, hk⟩ |
    ⟨_, hk, hlt⟩ | hk
  · obtain ⟨⟨w, after⟩, -, heq⟩ := map_eq_ok.mp hword
    exact absurd (Prod.mk.inj heq).1 (kind_of_word.2 _)
  · cases hk
  · obtain rfl := TokenKind.tilde.inj hk
    exact hlt n rfl
  · cases hk

/-! ## Runs of tokens -/

/-- Tokens that some texts give one after the other. -/
def AllScannable (ctx : Context) : List TokenKind → Prop
  | [] => True
  | k :: ks => Scannable ctx k ∧ AllScannable (ctx.next k) ks

theorem allScannable_append {ctx : Context} {ks ks' : List TokenKind} :
    AllScannable ctx (ks ++ ks') ↔
      AllScannable ctx ks ∧ AllScannable (ks.foldl Context.next ctx) ks' := by
  induction ks generalizing ctx with
  | nil => simp [AllScannable]
  | cons k ks ih =>
      simp only [List.cons_append, AllScannable, ih, List.foldl_cons, and_assoc]

theorem AllScannable.alike {a b : Context} (h : AllScannable a ks)
    (hab : a.Alike b) : AllScannable b ks := by
  induction ks generalizing a b with
  | nil => trivial
  | cons k ks ih =>
      obtain ⟨⟨c, cs, rest, hblank, htoken⟩, hks⟩ := h
      exact ⟨⟨c, cs, rest, hblank, token_alike hab _ ▸ htoken⟩,
        ih hks (hab.next k)⟩

theorem Lexes.allScannable (h : Lexes ctx cs ks) : AllScannable ctx ks := by
  induction h with
  | nil => trivial
  | cons hstart htoken _ ih =>
      exact ⟨⟨_, _, _, head_not_blank hstart, htoken⟩, ih⟩

end Searchlight.Scan
