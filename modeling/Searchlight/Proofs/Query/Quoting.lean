import Mathlib.Data.List.Chain
import Searchlight.Proofs.Expr.Derivation
import Searchlight.Proofs.Query.Naming

/-!
# Quoted values

A field that is not analyzed holds its whole value as one term, and a text in quotes asks
for that term. But quotes are for phrases, and a phrase keeps one space between its words.
So a text in quotes asks for its words with single spaces between them, which is the text
itself unless it has other white space. A bare word stands for its text whatever is in it.
-/

namespace Searchlight

open Scan Grammar Canonical Resolution
open Text (isBlank words)
open Parse (phraseText)

/-! ## Single spaces -/

/-- White space is nothing but single spaces, which stand between other characters. -/
structure SinglySpaced (cs : List Char) : Prop where
  first : ∀ c ∈ cs.head?, isBlank c = false
  last : ∀ c ∈ cs.getLast?, isBlank c = false
  space : ∀ c ∈ cs, isBlank c = true → c = ' '
  apart : cs.IsChain fun c d => isBlank c = true → isBlank d = false

namespace SinglySpaced

variable {cs w : List Char} {c d : Char}

theorem nil : SinglySpaced [] := ⟨by simp, by simp, by simp, .nil⟩

theorem word (h : ∀ c ∈ w, isBlank c = false) : SinglySpaced w where
  first c hc := h c (List.mem_of_mem_head? hc)
  last c hc := h c (List.mem_of_mem_getLast? hc)
  space c hc hblank := by simp [h c hc] at hblank
  apart := by
    refine List.Pairwise.isChain (List.pairwise_of_forall_mem_list ?_)
    intro c _ d hd _
    exact h d hd

/-- A word in front of a text, with a space between them. -/
theorem append (hne : w ≠ []) (hw : ∀ c ∈ w, isBlank c = false) (hcs : SinglySpaced (c :: cs)) :
    SinglySpaced (w ++ ' ' :: c :: cs) where
  first := by
    rw [List.head?_append_of_ne_nil _ hne]
    exact (word hw).first
  last := by simpa using hcs.last
  space x hx hblank := by
    rcases List.mem_append.mp hx with hx | hx
    · exact (word hw).space x hx hblank
    · rcases List.mem_cons.mp hx with rfl | hx
      · rfl
      · exact hcs.space x hx hblank
  apart := by
    have hspace : (' ' :: c :: cs).IsChain fun c d => isBlank c = true → isBlank d = false :=
      List.isChain_cons_cons.mpr ⟨fun _ => hcs.first c rfl, hcs.apart⟩
    refine (word hw).apart.append hspace fun x hx y _ hblank => ?_
    simp [(word hw).last x hx] at hblank

theorem of_append (as : List Char) (h : SinglySpaced (as ++ cs))
    (hfirst : ∀ c ∈ cs.head?, isBlank c = false) :
    SinglySpaced cs where
  first := hfirst
  last c hc := h.last c (by rw [List.getLast?_append, hc]; rfl)
  space c hc := h.space c (List.mem_append_right as hc)
  apart := h.apart.right_of_append

end SinglySpaced

theorem intercalate_cons_head (c : Char) (w : List Char) (ws : List (List Char)) :
    [' '].intercalate ((c :: w) :: ws) = c :: [' '].intercalate (w :: ws) := by
  cases ws with
  | nil => simp
  | cons w' ws => simp [List.intercalate_cons_cons]

/-- Words with single spaces between them. -/
theorem singlySpaced_intercalate : ∀ {ws : List (List Char)},
    (∀ w ∈ ws, w ≠ [] ∧ ∀ c ∈ w, isBlank c = false) → SinglySpaced ([' '].intercalate ws)
  | [], _ => .nil
  | [w], h => by
      rw [List.intercalate_singleton]
      exact .word (h w (by simp)).2
  | _ :: [] :: _, h => absurd rfl (h [] (by simp)).1
  | w :: (c :: w') :: ws, h => by
      have ih := singlySpaced_intercalate (List.forall_mem_cons.mp h).2
      rw [intercalate_cons_head] at ih
      rw [List.intercalate_cons_cons, List.append_assoc, intercalate_cons_head]
      exact .append (h w (by simp)).1 (h w (by simp)).2 ih

theorem words_head {c : Char} (hc : isBlank c = false) (cs : List Char) :
    ∃ w ws, words (c :: cs) = (c :: w) :: ws :=
  runs_head (by simpa using hc) cs

/-- The words of a text find their places again. -/
theorem SinglySpaced.intercalate_words : ∀ {cs : List Char}, SinglySpaced cs →
    [' '].intercalate (words cs) = cs
  | [], _ => rfl
  | [c], h => by
      have hc : ∀ d ∈ [c], (!isBlank d) = true := by simpa using h.first c rfl
      rw [words, runs_self (List.cons_ne_nil c []) hc, List.intercalate_singleton]
  | c :: d :: cs, h => by
      have hc : (!isBlank c) = true := by simpa using h.first c rfl
      cases hd : isBlank d with
      | false =>
          -- the first word goes on
          have hrest : SinglySpaced (d :: cs) := h.of_append [c] (by simpa using hd)
          have ih := intercalate_words hrest
          obtain ⟨w, ws, hws⟩ := words_head hd cs
          rw [hws] at ih
          rw [words, runs_cons_join hc (by simpa using hd) hws, intercalate_cons_head, ih]
      | true =>
          -- the first word ends, and the next character but one starts another
          obtain rfl : d = ' ' := h.space d (by simp) hd
          cases cs with
          | nil => simp [h.last ' ' rfl] at hd
          | cons e cs =>
              have he : isBlank e = false :=
                (List.isChain_cons_cons.mp (List.isChain_cons_cons.mp h.apart).2).1 hd
              have hrest : SinglySpaced (e :: cs) := h.of_append [c, ' '] (by simpa using he)
              have ih := intercalate_words hrest
              obtain ⟨w, ws, hws⟩ := words_head he cs
              have hwords : words (c :: ' ' :: e :: cs) = [c] :: words (e :: cs) := by
                rw [words, runs_cons_break hc (by simpa using hd),
                  runs_cons_false (by simpa using hd), words]
              rw [hwords, hws, List.intercalate_cons_cons, ← hws, ih]
              rfl

/-- What taking a text apart into words and joining them leaves as it is. -/
theorem singlySpaced_iff {cs : List Char} :
    SinglySpaced cs ↔ [' '].intercalate (words cs) = cs := by
  refine ⟨SinglySpaced.intercalate_words, fun h => ?_⟩
  rw [← h]
  exact singlySpaced_intercalate fun w hw => by simpa using mem_runs hw

instance (cs : List Char) : Decidable (SinglySpaced cs) := decidable_of_iff' _ singlySpaced_iff

theorem phraseText_eq_self_iff {v : String} : phraseText v = v ↔ SinglySpaced v.toList := by
  rw [singlySpaced_iff, phraseText, ← String.toList_inj, String.toList_ofList]

/-! ## Values behind a field name -/

/-- A text in quotes behind a field name. -/
def quotedIn (name v : String) : String := String.ofList (fieldName name ++ quotePhrase v.toList)

/-- A text as a bare word behind a field name. -/
def bareIn (name v : String) : String := String.ofList (fieldName name ++ escapeWord v.toList)

variable {name v : String}

/-- A literal behind a field name. -/
theorem parseQuery_scoped_leaf (hname : name ≠ "") {l : Leaf} (hl : l.Admissible)
    {cs : List Char} (h : Reads (Context.next {} (.field name)) cs l.kinds) :
    parseQuery (String.ofList (fieldName name ++ cs)) =
      .ok (some (.leaf (some name) l.literal)) := by
  have hread := (h.inField hname).lexes
  have hfactor : AdmissibleFactor none := by simp [AdmissibleFactor]
  have hderives := Leaf.derives hl hfactor (some name) 0
  refine ((hderives.conjunct trivial).disjunct trivial).parsed (Nat.zero_le _) ?_
  simpa [boostKinds] using hread

theorem parseQuery_quotedIn (hname : name ≠ "") (hv : ∃ c ∈ v.toList, isBlank c = false) :
    parseQuery (quotedIn name v) = .ok (some (.leaf (some name) (.phrase (phraseText v) 0))) := by
  have hread : Reads (Context.next {} (.field name)) (quotePhrase v.toList) [.phrase v] := by
    simpa using reads_quotePhrase rfl v.toList
  exact parseQuery_scoped_leaf (l := .phrase v none) hname ⟨hv, by simp⟩ hread

theorem parseQuery_bareIn (hname : name ≠ "") (hv : v ≠ "") :
    parseQuery (bareIn name v) = .ok (some (.leaf (some name) (.term v))) :=
  parseQuery_scoped_leaf (l := .term v none) hname trivial (reads_term rfl hv)

/-! ## Exact values -/

variable (lookup : String → Option FieldMapping) (options : ResolveOptions)

/-- The query is read and resolved to `q`. -/
def Asks (query : String) (q : Query) : Prop :=
  ∃ e, parseQuery query = .ok e ∧ resolve lookup options e = .ok q

/-- The query for the fields that hold exactly the value `s`. -/
def exactQuery (m : FieldMapping) (s : String) : Query :=
  let q := inNested m.nested (.term m.toField (.text s))
  if options.asFilter then Clauses.toQuery { filter := [q] } else q

variable {lookup options} {m : FieldMapping}

theorem Asks.unique {query : String} {q q' : Query} (h : Asks lookup options query q)
    (h' : Asks lookup options query q') : q = q' := by
  obtain ⟨e, he, hq⟩ := h
  obtain ⟨e', he', hq'⟩ := h'
  obtain rfl := Except.ok.inj (he.symm.trans he')
  exact Except.ok.inj (hq.symm.trans hq')

theorem exactQuery_injective (options : ResolveOptions) (m : FieldMapping) :
    Function.Injective (exactQuery options m) := by
  have hnested : Function.Injective fun s =>
      inNested m.nested (.term m.toField (.text s)) := by
    intro s s' h
    cases hpath : m.nested <;> simpa [hpath, inNested] using h
  intro s s' h
  refine hnested ?_
  rw [exactQuery, exactQuery] at h
  split at h
  · simpa [Clauses.toQuery] using h
  · exact h

/-- A literal that comes to an exact value on its field. -/
theorem resolve_exactQuery (hm : lookup name = some m) {l : Literal} {s : String}
    (hl : literalQuery m.toField l = .ok (.term m.toField (.text s))) :
    resolve lookup options (some (.leaf (some name) l)) = .ok (exactQuery options m s) := by
  have hfield : leafField lookup options (some name) l = .ok m.toField := by
    rw [leafField_some, mapping?, hm]
    rfl
  have hscope : (some name).or none = some name := rfl
  rw [resolve, query_leaf hscope rfl, hfield]
  simp only [bind, Except.bind, hl]
  rfl

theorem termQuery_keyword (hkeyword : m.type = .keyword) (s : String) :
    termQuery m.toField s = .ok (.term m.toField (.text s)) := by
  simp [termQuery, hkeyword, FieldType.value?]

theorem asks_bareIn (hname : name ≠ "") (hm : lookup name = some m)
    (hkeyword : m.type = .keyword) (hv : v ≠ "") :
    Asks lookup options (bareIn name v) (exactQuery options m v) :=
  ⟨_, parseQuery_bareIn hname hv, resolve_exactQuery hm (termQuery_keyword hkeyword v)⟩

theorem asks_quotedIn (hname : name ≠ "") (hm : lookup name = some m)
    (hkeyword : m.type = .keyword) (hv : ∃ c ∈ v.toList, isBlank c = false) :
    Asks lookup options (quotedIn name v) (exactQuery options m (phraseText v)) := by
  refine ⟨_, parseQuery_quotedIn hname hv, resolve_exactQuery hm ?_⟩
  rw [literalQuery, if_neg (by simp [hkeyword]), termQuery_keyword hkeyword]

/-- **A quoted value is the exact value of its words.** On a keyword field a text in quotes
and a bare word ask for the same query, if the bare word is the words of the text with single
spaces between them. That is the query of the text itself just if it is singly spaced. -/
theorem quotedIn_asks_words (hname : name ≠ "") (hm : lookup name = some m)
    (hkeyword : m.type = .keyword) (hv : ∃ c ∈ v.toList, isBlank c = false) :
    Asks lookup options (quotedIn name v) (exactQuery options m (phraseText v)) ∧
      Asks lookup options (bareIn name (phraseText v)) (exactQuery options m (phraseText v)) ∧
      Asks lookup options (bareIn name v) (exactQuery options m v) ∧
      (Asks lookup options (quotedIn name v) (exactQuery options m v) ↔
        SinglySpaced v.toList) := by
  have hquoted : Asks lookup options (quotedIn name v) (exactQuery options m (phraseText v)) :=
    asks_quotedIn hname hm hkeyword hv
  have hne : v ≠ "" := by
    rintro rfl
    simp at hv
  refine ⟨hquoted, asks_bareIn hname hm hkeyword (phraseText_ne_empty_iff.mpr hv),
    asks_bareIn hname hm hkeyword hne, ?_⟩
  rw [← phraseText_eq_self_iff]
  constructor
  · intro h
    exact exactQuery_injective options m (hquoted.unique h)
  · intro h
    rwa [h] at hquoted

/-- An operator and quotes in the value, on a field of nested objects. -/
theorem quotedIn_asks_words_operator :
    let tag : FieldMapping :=
      { name := "tag", path := "tags.tag", type := .keyword, nested := "tags" }
    let lookup : String → Option FieldMapping := fun name => if name = "tag" then tag else none
    let v := "OR \"b\""
    "tag" ≠ "" ∧ lookup "tag" = some tag ∧ tag.type = .keyword ∧
      (∃ c ∈ v.toList, isBlank c = false) ∧
      quotedIn "tag" v = "tag:\"OR \\\"b\\\"\"" ∧ bareIn "tag" v = "tag:OR\\ \\\"b\\\"" ∧
      Asks lookup {} (quotedIn "tag" v) (exactQuery {} tag v) ∧
      Asks lookup {} (bareIn "tag" v) (exactQuery {} tag v) := by
  intro tag lookup v
  have hname : "tag" ≠ "" := by decide
  have hm : lookup "tag" = some tag := rfl
  have hv : ∃ c ∈ v.toList, isBlank c = false := ⟨'b', by decide, by decide⟩
  have hspaced : SinglySpaced v.toList := by decide
  obtain ⟨-, -, hbare, hquoted⟩ := @quotedIn_asks_words "tag" v lookup {} tag hname hm rfl hv
  exact ⟨hname, hm, rfl, hv, by decide, by decide, hquoted.mpr hspaced, hbare⟩

/-- Two spaces side by side are one in quotes, and stay two in a bare word. -/
theorem quotedIn_asks_other_value :
    let tag : FieldMapping := { name := "tag", path := "tag", type := .keyword }
    let lookup : String → Option FieldMapping := fun name => if name = "tag" then tag else none
    let v := "a  b"
    lookup "tag" = some tag ∧ tag.type = .keyword ∧ (∃ c ∈ v.toList, isBlank c = false) ∧
      quotedIn "tag" v = "tag:\"a  b\"" ∧ bareIn "tag" v = "tag:a\\ \\ b" ∧
      ¬Asks lookup {} (quotedIn "tag" v) (exactQuery {} tag v) ∧
      Asks lookup {} (quotedIn "tag" v) (exactQuery {} tag "a b") ∧
      Asks lookup {} (bareIn "tag" v) (exactQuery {} tag v) := by
  intro tag lookup v
  have hm : lookup "tag" = some tag := rfl
  have hv : ∃ c ∈ v.toList, isBlank c = false := ⟨'b', by decide, by decide⟩
  have hwords : phraseText v = "a b" := by decide
  have hquoted : Asks lookup {} (quotedIn "tag" v) (exactQuery {} tag "a b") :=
    hwords ▸ asks_quotedIn (by decide) hm rfl hv
  refine ⟨hm, rfl, hv, by decide, by decide, fun h => ?_, hquoted,
    asks_bareIn (by decide) hm rfl (by decide)⟩
  have heq : "a b" = v := exactQuery_injective {} tag (hquoted.unique h)
  exact absurd heq (by decide)

end Searchlight
