import Searchlight.Proofs.Toml.Strings

/-!
# Lines are read back

A text spells some statements if the reader carries them out and goes on behind it, whatever stands
there. Lines of values and headers spell one statement each, and a text put together from such texts
spells all their statements in order.
-/

namespace Searchlight.Toml

variable {cs rest text text' : List Char} {v : Toml} {s : Statement} {ss ts : List Statement}
  {word k : String} {path : List String} {nested? : Option (Reader Toml)} {fuel : ℕ}

/-! ## White space -/

/-- Texts that white space, comments and line ends are not skipped in front of. -/
def Solid (cs : List Char) : Prop :=
  ∃ c rest, cs = c :: rest ∧ isSpace c = false ∧ c ≠ '#' ∧ newline? cs = none

theorem solid_of_bare {c : Char} (h : isBareKeyChar c = true) (rest : List Char) :
    Solid (c :: rest) := by
  have hne : ∀ d, isBareKeyChar d = false → c ≠ d := by
    rintro d hd rfl
    cases h.symm.trans hd
  have hspace : isSpace c = false := by
    simp [isSpace, hne ' ' (by decide), hne '\t' (by decide)]
  refine ⟨c, rest, rfl, hspace, hne '#' (by decide), newline?_eq_none ?_ ?_⟩
  · simpa using hne '\n' (by decide)
  · simpa using hne '\r' (by decide)

theorem solid_of_quote {quote : Char} (h : quote = '"' ∨ quote = '\'') (rest : List Char) :
    Solid (quote :: rest) := by
  rcases h with rfl | rfl
  · exact ⟨_, rest, rfl, by decide, by decide, rfl⟩
  · exact ⟨_, rest, rfl, by decide, by decide, rfl⟩

theorem Solid.skipSpace (h : Solid cs) : skipSpace cs = cs := by
  obtain ⟨c, rest, rfl, hspace, -⟩ := h
  simp [Toml.skipSpace, hspace]

theorem skipAll_eq (htext : skipSpace text = cs) (h : Solid cs) : skipAll text = some cs := by
  obtain ⟨c, rest, rfl, -, hcomment, hline⟩ := h
  rw [skipAll, skipLines, htext, skipComment]
  · simp only [Option.bind_eq_bind, Option.bind_some, hline]
  · exact fun _ heq => hcomment (List.cons.inj heq).1

theorem endLine_newline (cs : List Char) : endLine ('\n' :: cs) = some cs := rfl

theorem skipAll_newline (cs : List Char) : skipAll ('\n' :: cs) = skipAll cs := rfl

theorem noQuote_of_cons {c : Char} (h : c ≠ '"') (h' : c ≠ '\'') (rest : List Char) :
    NoQuote (c :: rest) := by
  simpa [NoQuote] using ⟨h, h'⟩

/-! ## Values -/

theorem writeString_eq_cons (cs : List Char) :
    ∃ quote body, (quote = '"' ∨ quote = '\'') ∧ writeString cs = quote :: body := by
  rw [writeString]
  split_ifs
  all_goals first
    | exact ⟨'"', _, .inl rfl, rfl⟩
    | exact ⟨'\'', _, .inr rfl, rfl⟩

theorem solid_writeString (cs rest : List Char) : Solid (writeString cs ++ rest) := by
  obtain ⟨quote, body, hquote, htext⟩ := writeString_eq_cons cs
  rw [htext]
  exact solid_of_quote hquote _

theorem valueWith_writeString (hrest : NoQuote rest) (cs : List Char) :
    valueWith nested? (writeString cs ++ rest) = some (.string (String.ofList cs), rest) := by
  have hread := stringValue_writeString hrest cs
  obtain ⟨quote, body, hquote, htext⟩ := writeString_eq_cons cs
  rw [htext] at hread ⊢
  rcases hquote with rfl | rfl
  all_goals
    show (stringValue _).map _ = _
    rw [hread]
    rfl

theorem arrayItems_next {item : Reader Toml} (hskip : skipAll cs = some text)
    (hopen : text.head? ≠ some ']') (hitem : item text = some (v, rest))
    (hcomma : skipAll rest = some (',' :: text')) :
    arrayItems item (fuel + 1) cs =
      (arrayItems item fuel text').map fun (vs, rest) => (v :: vs, rest) := by
  rw [arrayItems, hskip]
  simp only [Option.bind_eq_bind, Option.bind_some]
  split
  · exact absurd rfl hopen
  · simp only [hitem, hcomma, Option.bind_some]
    cases arrayItems item fuel text' <;> rfl

theorem arrayItems_last {item : Reader Toml} (hskip : skipAll cs = some text)
    (hopen : text.head? ≠ some ']') (hitem : item text = some (v, rest))
    (hclose : skipAll rest = some (']' :: text')) :
    arrayItems item (fuel + 1) cs = some ([v], text') := by
  rw [arrayItems, hskip]
  simp only [Option.bind_eq_bind, Option.bind_some]
  split
  · exact absurd rfl hopen
  · simp only [hitem, hclose, Option.bind_some]

theorem head?_writeString_append (cs rest : List Char) :
    (writeString cs ++ rest).head? ≠ some ']' := by
  obtain ⟨quote, body, rfl | rfl, htext⟩ := writeString_eq_cons cs
  · simp [htext]
  · simp [htext]

/-- The line of a string in a longer list. -/
def itemLine (s : List Char) : List Char := "    ".toList ++ writeString s ++ [',', '\n']

theorem skipAll_itemLine (s rest : List Char) :
    skipAll ('\n' :: (itemLine s ++ rest)) = some (writeString s ++ ',' :: '\n' :: rest) := by
  have htext : itemLine s ++ rest = "    ".toList ++ (writeString s ++ ',' :: '\n' :: rest) := by
    simp [itemLine]
  have hsolid := solid_writeString s (',' :: '\n' :: rest)
  rw [skipAll_newline, htext]
  exact skipAll_eq hsolid.skipSpace hsolid

/-- The line end before the first string stands behind the bracket, the others behind a comma. -/
theorem arrayItems_lines (all : List (List Char)) (hfuel : all.length < fuel) (rest : List Char) :
    arrayItems (valueWith nested?) fuel ('\n' :: (all.flatMap itemLine ++ ']' :: rest)) =
      some (all.map fun s => .string (String.ofList s), rest) := by
  induction all generalizing fuel with
  | nil =>
      obtain ⟨fuel, rfl⟩ := Nat.exists_eq_add_of_lt hfuel
      rfl
  | cons s all ih =>
      obtain ⟨fuel, rfl⟩ := Nat.exists_eq_add_of_lt hfuel
      rw [List.flatMap_cons, List.append_assoc,
        arrayItems_next (skipAll_itemLine s _) (head?_writeString_append s _)
          (valueWith_writeString (noQuote_of_cons (by decide) (by decide) _) s)
          (skipAll_eq rfl ⟨_, _, rfl, by decide, by decide, rfl⟩),
        ih (by rw [List.length_cons]; omega)]
      rfl

/-- **A list of strings is read back from the way it is written.** -/
theorem valueWith_writeStrings (all : List (List Char)) (rest : List Char) :
    valueWith (some (valueWith nested?)) (writeStrings all ++ rest) =
      some (.array (all.map fun s => .string (String.ofList s)), rest) := by
  rw [writeStrings.eq_def]
  split
  · rfl
  · rename_i only
    have htext : '[' :: writeString only ++ [']'] ++ rest =
        '[' :: (writeString only ++ ']' :: rest) := by
      simp
    have hsolid := solid_writeString only (']' :: rest)
    rw [htext, valueWith, Option.bind_eq_bind, Option.bind_some,
      arrayItems_last (skipAll_eq hsolid.skipSpace hsolid) (head?_writeString_append only _)
        (valueWith_writeString (noQuote_of_cons (by decide) (by decide) _) only)
        (skipAll_eq rfl ⟨_, _, rfl, by decide, by decide, rfl⟩)]
    rfl
  · have htext : ['[', '\n'] ++ all.flatMap itemLine ++ [']'] ++ rest =
        '[' :: '\n' :: (all.flatMap itemLine ++ ']' :: rest) := by
      simp
    have hlength := length_le_flatMap (f := itemLine) (by simp [itemLine]) all
    refine (congrArg _ htext).trans ?_
    rw [valueWith, Option.bind_eq_bind, Option.bind_some, arrayItems_lines all]
    · rfl
    · simp only [List.length_cons, List.length_append]
      omega

/-! ## Statements -/

/-- A text that is read as a value at the end of a line. -/
structure IsValue (text : List Char) (v : Toml) : Prop where
  solid : ∀ rest, Solid (text ++ rest)
  read : ∀ rest, value maxNesting (text ++ '\n' :: rest) = some (v, '\n' :: rest)

theorem isValue_string (cs : List Char) :
    IsValue (writeString cs) (.string (String.ofList cs)) where
  solid := solid_writeString cs
  read rest := valueWith_writeString (noQuote_of_cons (by decide) (by decide) rest) cs

theorem isValue_boolean (b : Bool) :
    IsValue (if b then "true" else "false").toList (.boolean b) where
  solid rest := by
    cases b
    · exact ⟨_, _, rfl, by decide, by decide, rfl⟩
    · exact ⟨_, _, rfl, by decide, by decide, rfl⟩
  read rest := by cases b <;> rfl

theorem isValue_strings (all : List (List Char)) :
    IsValue (writeStrings all) (.array (all.map fun s => .string (String.ofList s))) where
  solid rest := by
    have hopen : ∃ body, writeStrings all = '[' :: body := by
      rw [writeStrings.eq_def]
      split <;> exact ⟨_, rfl⟩
    obtain ⟨body, hbody⟩ := hopen
    rw [hbody]
    exact ⟨_, _, rfl, by decide, by decide, rfl⟩
  read rest := valueWith_writeStrings all ('\n' :: rest)

/-- A text that spells some statements: whatever follows, it is read as them. -/
structure Spells (text : List Char) (ss : List Statement) : Prop where
  length_le : ss.length ≤ text.length
  read : ∀ fuel d rest, statements (fuel + ss.length) d (text ++ rest) =
    (ss.foldlM Document.step d).bind fun d => statements fuel d rest

namespace Spells

theorem nil : Spells [] [] := ⟨Nat.le_refl 0, fun _ _ _ => rfl⟩

theorem append (h : Spells text ss) (h' : Spells text' ts) : Spells (text ++ text') (ss ++ ts) where
  length_le := by
    rw [List.length_append, List.length_append]
    exact Nat.add_le_add h.length_le h'.length_le
  read fuel d rest := by
    rw [List.length_append, Nat.add_left_comm, Nat.add_comm, List.append_assoc, h.read,
      List.foldlM_append]
    cases ss.foldlM Document.step d with
    | none => rfl
    | some d => exact h'.read fuel d rest

theorem flatMap {α : Type} {xs : List α} {f : α → List Char} {g : α → List Statement}
    (h : ∀ x ∈ xs, Spells (f x) (g x)) : Spells (xs.flatMap f) (xs.flatMap g) := by
  induction xs with
  | nil => exact nil
  | cons x xs ih =>
      rw [List.forall_mem_cons] at h
      exact h.1.append (ih h.2)

theorem newline (h : Spells text ss) : Spells ('\n' :: text) ss where
  length_le := h.length_le.trans (Nat.le_succ _)
  read fuel d rest := by
    have hskip (fuel : ℕ) : statements fuel d ('\n' :: (text ++ rest)) =
        statements fuel d (text ++ rest) := by
      cases fuel <;> rfl
    rw [List.cons_append, hskip, h.read]

/-- A statement on a line of its own. -/
theorem line (hsolid : ∀ rest, Solid (text ++ rest))
    (hread : ∀ rest, statement (text ++ '\n' :: rest) = some (s, '\n' :: rest)) :
    Spells (text ++ ['\n']) [s] where
  length_le := by simp
  read fuel d rest := by
    have hopen := hsolid ('\n' :: rest)
    have hskip := skipAll_eq hopen.skipSpace hopen
    rw [List.append_assoc, List.singleton_append, List.length_singleton, statements, hskip]
    simp only [Option.bind_eq_bind, Option.bind_some]
    split
    · rename_i heq
      obtain ⟨_, _, hcons, -⟩ := hopen
      cases heq.symm.trans hcons
    · simp only [hread, endLine_newline, Option.bind_some, List.foldlM_cons, List.foldlM_nil]
      cases d.step s <;> rfl

end Spells

/-- A text that spells statements is a document, and they make it. -/
theorem read?_of_spells (h : Spells text ss) (hmark : text.head? ≠ some '\ufeff') :
    read? (String.ofList text) = (ss.foldlM Document.step {}).map (·.root) := by
  obtain ⟨fuel, hfuel⟩ := Nat.exists_eq_add_of_le h.length_le
  have hread := h.read (fuel + 1) {} []
  rw [List.append_nil] at hread
  rw [read?, String.toList_ofList]
  split
  · exact absurd rfl hmark
  · rw [show text.length + 1 = fuel + 1 + ss.length by omega, hread]
    cases ss.foldlM Document.step {} <;> rfl

/-! ## Assignments and headers -/

/-- Words that are keys as they stand. -/
def isPlain (word : String) : Bool :=
  word.toList ≠ [] && word.toList.all isBareKeyChar

theorem key_single (hkey : simpleKey (skipSpace cs) = some (k, rest))
    (hdot : (skipSpace rest).head? ≠ some '.') :
    key (fuel + 1) cs = some ([k], skipSpace rest) := by
  rw [key, hkey]
  simp only [Option.bind_eq_bind, Option.bind_some]
  split
  · rename_i heq
    exact absurd (by rw [heq]; rfl) hdot
  · rfl

theorem key_dotted (hkey : simpleKey (skipSpace cs) = some (k, '.' :: rest)) :
    key (fuel + 1) cs = (key fuel rest).map fun (ks, rest) => (k :: ks, rest) := by
  rw [key, hkey]
  show (key fuel rest).bind _ = _
  cases key fuel rest <;> rfl

theorem isPlain_iff : isPlain word = true ↔
    word.toList ≠ [] ∧ word.toList.all isBareKeyChar = true := by
  rw [isPlain, Bool.and_eq_true, decide_eq_true_eq]

theorem solid_plain (hword : isPlain word = true) (rest : List Char) :
    Solid (word.toList ++ rest) ∧ (word.toList ++ rest).head? ≠ some '[' := by
  obtain ⟨hne, hall⟩ := isPlain_iff.mp hword
  cases hcs : word.toList with
  | nil => exact absurd hcs hne
  | cons c cs =>
      have hc : isBareKeyChar c = true := List.all_eq_true.mp hall c (hcs ▸ List.mem_cons_self)
      refine ⟨solid_of_bare hc _, fun heq => ?_⟩
      obtain rfl := Option.some.inj heq
      cases hc

theorem simpleKey_plain (hword : isPlain word = true)
    (hrest : ∀ c ∈ rest.head?, isBareKeyChar c = false) :
    simpleKey (skipSpace (word.toList ++ rest)) = some (word, rest) := by
  obtain ⟨hne, hall⟩ := isPlain_iff.mp hword
  rw [(solid_plain hword rest).1.skipSpace, simpleKey_bare hne hall hrest, String.ofList_toList]

theorem solid_writeKey (cs rest : List Char) : Solid (writeKey cs ++ rest) := by
  rw [writeKey]
  split_ifs with h
  · cases cs with
    | nil => cases h
    | cons c cs =>
        rw [Bool.and_eq_true] at h
        exact solid_of_bare (List.all_eq_true.mp h.2 c List.mem_cons_self) _
  · exact solid_of_quote (.inl rfl) _
  · exact solid_of_quote (.inr rfl) _
  · exact solid_of_quote (.inl rfl) _

/-- A plain word as a key, up to what may follow it. -/
theorem key_plain (hword : isPlain word = true) (hrest : ∀ c ∈ rest.head?, isBareKeyChar c = false)
    (hdot : (skipSpace rest).head? ≠ some '.') :
    key (fuel + 1) (word.toList ++ rest) = some ([word], skipSpace rest) :=
  key_single (simpleKey_plain hword hrest) hdot

theorem spells_line (hword : isPlain word = true) (hvalue : IsValue text v) :
    Spells (line word text) [.assignment [word] v] := by
  have htext : line word text = word.toList ++ ' ' :: '=' :: ' ' :: text ++ ['\n'] := by
    simp [line]
  rw [htext]
  refine .line (fun rest => ?_) fun rest => ?_
  · rw [List.append_assoc]
    exact (solid_plain hword _).1
  · rw [List.append_assoc]
    simp only [List.cons_append]
    obtain ⟨-, hopen⟩ := solid_plain hword (' ' :: '=' :: ' ' :: (text ++ '\n' :: rest))
    have hkey (fuel : ℕ) :
        key (fuel + 1) (word.toList ++ ' ' :: '=' :: ' ' :: (text ++ '\n' :: rest)) =
          some ([word], '=' :: ' ' :: (text ++ '\n' :: rest)) :=
      key_plain hword (by simp [isBareKeyChar, isAsciiDigit]) (by simp [skipSpace, isSpace])
    have hvalueText : skipSpace (' ' :: (text ++ '\n' :: rest)) = text ++ '\n' :: rest :=
      (hvalue.solid ('\n' :: rest)).skipSpace
    rw [statement]
    · rw [hkey]
      show (value maxNesting (skipSpace (' ' :: (text ++ '\n' :: rest)))).bind _ = _
      rw [hvalueText, hvalue.read]
      rfl
    · exact fun _ heq => hopen (by rw [heq]; rfl)
    · exact fun _ heq => hopen (by rw [heq]; rfl)

theorem spells_header (hopen : ∀ rest, (text ++ ']' :: rest).head? ≠ some '[')
    (hpath : ∀ fuel rest, key (fuel + 2) (text ++ ']' :: rest) = some (path, ']' :: rest)) :
    Spells ('[' :: text ++ [']', '\n']) [.header path] := by
  have htext : '[' :: text ++ [']', '\n'] = '[' :: text ++ [']'] ++ ['\n'] := by simp
  rw [htext]
  refine .line (fun rest => ⟨'[', _, rfl, by decide, by decide, rfl⟩) fun rest => ?_
  have hstatement : '[' :: text ++ [']'] ++ '\n' :: rest =
      '[' :: (text ++ ']' :: '\n' :: rest) := by
    simp
  obtain ⟨fuel, hfuel⟩ : ∃ fuel, (text ++ ']' :: '\n' :: rest).length + 1 = fuel + 2 :=
    ⟨text.length + rest.length + 1, by simp only [List.length_append, List.length_cons]; omega⟩
  rw [hstatement, statement]
  · rw [hfuel, hpath]
    rfl
  · exact fun _ heq => hopen ('\n' :: rest) (by rw [heq]; rfl)

theorem spells_plainHeader (hword : isPlain word = true) :
    Spells ('[' :: word.toList ++ [']', '\n']) [.header [word]] :=
  spells_header (fun rest => (solid_plain hword _).2) fun fuel rest =>
    key_plain hword (by simp [isBareKeyChar, isAsciiDigit]) (by simp [skipSpace, isSpace])

/-- The header of a table in another one, whatever its name. -/
theorem spells_dottedHeader (hword : isPlain word = true) (name : String) :
    Spells ('[' :: (word.toList ++ '.' :: writeKey name.toList) ++ [']', '\n'])
      [.header [word, name]] := by
  refine spells_header (fun rest => ?_) fun fuel rest => ?_
  · rw [List.append_assoc]
    exact (solid_plain hword _).2
  · have hname : simpleKey (skipSpace (writeKey name.toList ++ ']' :: rest)) =
        some (name, ']' :: rest) := by
      rw [(solid_writeKey _ _).skipSpace, simpleKey_writeKey, String.ofList_toList]
      simp [isBareKeyChar, isAsciiDigit]
    rw [List.append_assoc, List.cons_append,
      key_dotted (simpleKey_plain hword (by simp [isBareKeyChar, isAsciiDigit])),
      key_single hname (by simp [skipSpace, isSpace])]
    rfl

end Searchlight.Toml
