import Searchlight.Display.Style
import Searchlight.Proofs.Query.Outline

/-!
# Styled outlines

The styler sees the text of a line and guesses what it shows: a clause label, or a
name that ends before the first parenthesis. Rows know it from the query. Both agree,
whatever stands between the parentheses, because names have no parenthesis in them
and nothing but a label ends with a colon. Where no path has an escape in it, the
outline has none, so that all escapes of the styled text are those of its tones.
-/

namespace Searchlight

open Text

namespace Display

/-! ## Lines -/

theorem linesFrom_append {line : List Char} (h : '\n' ∉ line) :
    ∀ before rest : List Char,
      linesFrom before (line ++ rest) = linesFrom (line.reverse ++ before) rest := by
  induction line with
  | nil => exact fun _ _ => rfl
  | cons c line ih =>
      intro before rest
      have hc : c ≠ '\n' := fun heq => h (heq ▸ List.mem_cons_self)
      have hline : '\n' ∉ line := fun hmem => h (List.mem_cons_of_mem c hmem)
      rw [List.cons_append, linesFrom, if_neg hc, ih hline]
      simp

/-- Lines that are not empty and end with no carriage return are found again. -/
theorem lines_joinLines {ls : List (List Char)}
    (h : ∀ line ∈ ls, '\n' ∉ line ∧ ∃ c ∈ line.getLast?, c ≠ '\r') :
    Text.lines (joinLines ls) = ls := by
  induction ls with
  | nil => rfl
  | cons line ls ih =>
      obtain ⟨⟨hline, c, hlast, hc⟩, hrest⟩ := List.forall_mem_cons.mp h
      cases ls with
      | nil =>
          have hne : line ≠ [] := by
            rintro rfl
            cases hlast
          have happend := linesFrom_append hline [] []
          rw [List.append_nil, List.append_nil] at happend
          rw [joinLines, List.intercalate_singleton, Text.lines, happend, linesFrom]
          simp [hne]
      | cons next ls =>
          have hdrop : dropReturn line = line := by
            rw [dropReturn, if_neg]
            intro hreturn
            exact hc (Option.some.inj (hlast.symm.trans hreturn))
          rw [joinLines, List.intercalate_cons_cons, List.append_assoc, Text.lines,
            linesFrom_append hline, List.append_nil, List.singleton_append, linesFrom,
            if_pos rfl, List.reverse_reverse, hdrop]
          exact congrArg (line :: ·) (ih hrest)

/-! ## What a terminal shows -/

/-- The characters of a text that a terminal shows, each with the modes that are on.
An escape goes up to the next `m`. It turns a mode on, but for the reset, which turns
all of them off. -/
def shown (pending : Option (List Char)) (modes : List (List Char)) :
    List Char → List (Char × List (List Char))
  | [] => []
  | c :: rest =>
    match pending with
    | some code =>
      if c = 'm' then shown none (if code = ['[', '0'] then [] else modes ++ [code]) rest
      else shown (some (code ++ [c])) modes rest
    | none =>
      if c = escape then shown (some []) modes rest else (c, modes) :: shown none modes rest

/-- The modes that a tone turns on. -/
def Tone.modes : Tone → List (List Char)
  | header => [['[', '1'], ['[', '3', '6']]
  | strong => [['[', '1']]
  | dim => [['[', '2']]
  | success => [['[', '3', '2']]
  | warning => [['[', '3', '3']]
  | error => [['[', '3', '1']]

/-- Without its escapes a text is what a terminal shows of it. -/
theorem map_fst_shown (cs : List Char) : ∀ pending modes,
    (shown pending modes cs).map Prod.fst = withoutEscapes pending.isSome cs := by
  induction cs with
  | nil => exact fun _ _ => rfl
  | cons c cs ih =>
      intro pending modes
      cases pending with
      | some code =>
          by_cases hc : c = 'm'
          · simp [shown, withoutEscapes, hc, ih]
          · have hinside : (c != 'm') = true := bne_iff_ne.mpr hc
            simp [shown, withoutEscapes, hc, hinside, ih]
      | none =>
          by_cases hc : c = escape <;> simp [shown, withoutEscapes, hc, ih]

theorem shown_append {cs : List Char} (h : escape ∉ cs) (modes : List (List Char))
    (rest : List Char) :
    shown none modes (cs ++ rest) = cs.map (fun c => (c, modes)) ++ shown none modes rest := by
  induction cs with
  | nil => rfl
  | cons c cs ih =>
      have hc : c ≠ escape := fun heq => h (heq ▸ List.mem_cons_self)
      have hcs : escape ∉ cs := fun hmem => h (List.mem_cons_of_mem c hmem)
      simp [shown, hc, ih hcs]

theorem shown_code (t : Tone) (rest : List Char) :
    shown none [] (t.code.toList ++ rest) = shown none t.modes rest := by
  cases t <;> simp [Tone.code, Tone.modes, mode, shown]

theorem shown_reset (modes : List (List Char)) (rest : List Char) :
    shown none modes (reset.toList ++ rest) = shown none [] rest := by
  simp [reset, mode, shown]

theorem shown_paintLine {cs : List Char} (h : escape ∉ cs) (t : Tone) (rest : List Char) :
    shown none [] (paintLine t cs ++ rest) =
      cs.map (fun c => (c, t.modes)) ++ shown none [] rest := by
  rw [paintLine, List.append_assoc, List.append_assoc, shown_code, shown_append h, shown_reset]

theorem lineFeed_notMem_paintLine {cs : List Char} (h : '\n' ∉ cs) (t : Tone) :
    '\n' ∉ paintLine t cs := by
  have hcode : '\n' ∉ t.code.toList := by cases t <;> simp [Tone.code, mode, escape]
  simp [paintLine, h, hcode, reset, mode, escape]

end Display

/-! ## Rows -/

namespace Row

open Query Display

def tone : Row → Tone
  | node _ _ => .header
  | label _ _ => .dim

/-- What is styled of a row: the name before the first parenthesis, or the whole label. -/
def emphasized : Row → List Char
  | node _ q => q.headline.toList.takeWhile (· ≠ '(')
  | label _ name => name.toList ++ [':']

/-- What comes behind the styled part. -/
def remainder : Row → List Char
  | node _ q => q.headline.toList.dropWhile (· ≠ '(')
  | label _ _ => []

/-- A row as a terminal shows it: one part has the modes of a tone, and what stands on
either side of it has none. -/
def shown (row : Row) : List (Char × List (List Char)) :=
  (List.replicate (2 * row.depth) ' ').map (fun c => (c, [])) ++
    (row.emphasized.map (fun c => (c, row.tone.modes)) ++
      row.remainder.map fun c => (c, []))

theorem emphasized_append_remainder (row : Row) : row.emphasized ++ row.remainder = row.body := by
  cases row with
  | node depth q => exact List.takeWhile_append_dropWhile
  | label depth name => exact List.append_nil _

/-- The name before the first parenthesis is the title. -/
theorem span_headline (q : Query) :
    q.headline.toList.span (· ≠ '(') = (q.title.toList, q.bracketed) := by
  rw [toList_headline]
  refine span_append (fun c hc => ?_) fun c hc => ?_
  · exact decide_eq_true (ne_of_mem_of_not_mem hc (bracket_notMem_title q))
  · exact decide_eq_false (not_not_intro (head_bracketed q c hc))

@[simp]
theorem emphasized_node (depth : ℕ) (q : Query) :
    (node depth q).emphasized = q.title.toList := by
  have hspan := span_headline q
  rw [List.span_eq_takeWhile_dropWhile] at hspan
  exact (Prod.mk.inj hspan).1

@[simp]
theorem emphasized_label (depth : ℕ) (name : String) :
    (label depth name).emphasized = name.toList ++ [':'] := rfl

theorem emphasized_ne_nil (row : Row) : row.emphasized ≠ [] := by
  cases row with
  | node depth q =>
      rw [emphasized_node]
      cases q <;> simp [title]
  | label depth name => simp

theorem mem_clauseLabels {name : String} (h : name ∈ clauseNames) :
    name.toList ++ [':'] ∈ clauseLabels := by
  have hall : ∀ name ∈ clauseNames, name.toList ++ [':'] ∈ clauseLabels := by decide
  exact hall name h

/-- Only labels end with a colon. -/
theorem headline_notMem_clauseLabels (q : Query) : q.headline.toList ∉ clauseLabels := by
  have hcolon : ∀ cs ∈ clauseLabels, cs.getLast? = some ':' := by decide
  intro h
  have hlast := hcolon _ h
  rcases getLast?_headline q with h | h
  · rw [h] at hlast
    cases hlast
  · rw [h] at hlast
    cases hlast

/-- White space ends where the text of a row begins. -/
theorem head?_body_notBlank {row : Row}
    (hlabel : ∀ depth name, row = label depth name → name ∈ clauseNames) :
    ∀ c ∈ row.body.head?, isBlank c = false := by
  cases row with
  | node depth q =>
      intro c hc
      rw [body, toList_headline] at hc
      cases q <;>
        · obtain rfl : _ = c := by simpa [title] using hc
          decide
  | label depth name =>
      have hall : ∀ name ∈ clauseNames, (name.toList ++ [':']).head?.all (!isBlank ·) = true := by
        decide
      intro c hc
      have hname := hall name (hlabel depth name rfl)
      rw [body] at hc
      rw [hc, Option.all_some] at hname
      simpa only [Bool.not_eq_true'] using hname

/-- **The styler finds the part that the row asks for.** -/
theorem styleLine_text {row : Row}
    (hlabel : ∀ depth name, row = label depth name → name ∈ clauseNames) :
    styleLine row.text.toList =
      List.replicate (2 * row.depth) ' ' ++
        (paintLine row.tone row.emphasized ++ row.remainder) := by
  have hspace : ∀ c ∈ List.replicate (2 * row.depth) ' ', isBlank c = true := by
    intro c hc
    obtain rfl := List.eq_of_mem_replicate hc
    decide
  have hspan : row.text.toList.span isBlank =
      (List.replicate (2 * row.depth) ' ', row.body) := by
    rw [toList_text]
    exact span_append hspace (head?_body_notBlank hlabel)
  rw [styleLine, hspan]
  cases row with
  | node depth q =>
      have hnode : clauseLabels.contains q.headline.toList = false := by
        simpa using headline_notMem_clauseLabels q
      have hsplit := List.span_eq_takeWhile_dropWhile (p := (· ≠ '(')) (l := q.headline.toList)
      simp only [body, hnode, hsplit, Bool.false_eq_true, if_false, List.append_assoc]
      rfl
  | label depth name =>
      have hmem : clauseLabels.contains (name.toList ++ [':']) = true := by
        simpa using mem_clauseLabels (hlabel depth name rfl)
      simp only [body, hmem, if_true, remainder, List.append_nil]
      rfl

/-- A line without escapes is shown as the row asks for. -/
theorem shown_styleLine {row : Row}
    (hlabel : ∀ depth name, row = label depth name → name ∈ clauseNames)
    (hescape : escape ∉ row.text.toList) (rest : List Char) :
    Display.shown none [] (styleLine row.text.toList ++ rest) =
      row.shown ++ Display.shown none [] rest := by
  rw [toList_text, ← emphasized_append_remainder] at hescape
  simp only [List.mem_append, not_or] at hescape
  obtain ⟨hindent, hemphasized, hremainder⟩ := hescape
  rw [styleLine_text hlabel, List.append_assoc, List.append_assoc, shown_append hindent,
    shown_paintLine hemphasized, shown_append hremainder, shown]
  simp only [List.append_assoc]

/-- What is shown of a row are the characters of its line. -/
theorem map_fst_shown (row : Row) : row.shown.map Prod.fst = row.text.toList := by
  rw [toList_text, ← emphasized_append_remainder, shown]
  simp [Function.comp_def]

theorem lineFeed_notMem_styleLine {row : Row}
    (hlabel : ∀ depth name, row = label depth name → name ∈ clauseNames)
    (hline : '\n' ∉ row.text.toList) : '\n' ∉ styleLine row.text.toList := by
  rw [toList_text, ← emphasized_append_remainder] at hline
  simp only [List.mem_append, not_or] at hline
  obtain ⟨hindent, hemphasized, hremainder⟩ := hline
  rw [styleLine_text hlabel]
  simp only [List.mem_append, not_or]
  exact ⟨hindent, lineFeed_notMem_paintLine hemphasized _, hremainder⟩

end Row

/-! ## Outlines -/

namespace Query

open Display

/-- Paths that keep an outline one line a row and free of escapes. -/
def Unescaped (q : Query) : Prop :=
  ∀ x ∈ q.nodes, ∀ path ∈ x.path?, escape ∉ path.toList ∧ '\n' ∉ path.toList

variable {q : Query}

theorem label_of_rows {row : Row} (hrow : row ∈ rows 0 q) :
    ∀ depth name, row = .label depth name → name ∈ clauseNames := by
  rintro depth name rfl
  exact mem_clauseNames_of_rows q 0 hrow

theorem notMem_row {c : Char} (hshown : isPrintable c = false)
    (hpath : ∀ x ∈ q.nodes, ∀ path ∈ x.path?, c ∉ path.toList) {row : Row}
    (hrow : row ∈ rows 0 q) : c ∉ row.text.toList := by
  refine Row.notMem_text hshown (label_of_rows hrow) fun x hx => ?_
  have hnode : x ∈ q.nodes := by
    rw [← nodes_of_rows q 0]
    exact List.mem_filterMap.mpr ⟨row, hrow, hx⟩
  exact notMem_headline hshown (hpath x hnode)

/-- Each line of an outline is styled by itself. -/
theorem toList_styleDump (h : ∀ row ∈ rows 0 q, '\n' ∉ row.text.toList) :
    (styleDump q.outline).toList =
      joinLines ((rows 0 q).map fun row => styleLine row.text.toList) := by
  have hlines : Text.lines q.outline.toList = (rows 0 q).map fun row => row.text.toList := by
    rw [toList_outline]
    refine lines_joinLines (List.forall_mem_map.mpr fun row hrow => ⟨h row hrow, ?_⟩)
    obtain ⟨c, hc, hblank, -⟩ := row.getLast?_body
    refine ⟨c, ?_, ?_⟩
    · rw [Row.toList_text, List.getLast?_append, hc]
      rfl
    · rintro rfl
      exact absurd hblank (by decide)
  rw [styleDump, mapLines, String.toList_ofList, hlines, List.map_map]
  rfl

/-- The escapes of each row are gone without those of the others. -/
theorem withoutEscapes_joinLines {styled : Row → List Char} {rs : List Row}
    (h : ∀ row ∈ rs, ∀ rest,
      shown none [] (styled row ++ rest) = row.shown ++ shown none [] rest) :
    withoutEscapes false (joinLines (rs.map styled)) =
      joinLines (rs.map fun row => row.text.toList) := by
  induction rs with
  | nil => rfl
  | cons row rs ih =>
      obtain ⟨hrow, hrs⟩ := List.forall_mem_cons.mp h
      have hplain : ∀ rest, withoutEscapes false (styled row ++ rest) =
          row.text.toList ++ withoutEscapes false rest := by
        intro rest
        have hfst := congrArg (List.map Prod.fst) (hrow rest)
        rwa [List.map_append, Row.map_fst_shown, map_fst_shown, map_fst_shown] at hfst
      cases rs with
      | nil =>
          have hend := hplain []
          rw [List.append_nil] at hend
          simpa [joinLines, withoutEscapes] using hend
      | cons next rs =>
          simp only [joinLines, List.map_cons, List.intercalate_cons_cons, List.append_assoc,
            List.singleton_append] at ih ⊢
          have hfeed : '\n' ≠ escape := by decide
          rw [hplain, withoutEscapes, if_neg Bool.false_ne_true, if_neg hfeed, ih hrs]

end Query

open Query Display

/-- **Styling an outline adds escapes and nothing else.** Where no path has an escape
or a line feed in it, the styled outline without its escapes is the outline. Its lines
are those of the outline, each a row, and a terminal shows exactly one part of each in
a tone: of a label the whole, of a node the name before the first parenthesis. -/
theorem plain_styleDump {q : Query} (h : q.Unescaped) :
    plain (styleDump q.outline) = q.outline ∧
      q.outline.toList.splitOn '\n' = ((rows 0 q).map fun row => row.text.toList) ∧
      ((styleDump q.outline).toList.splitOn '\n').map (shown none []) =
        (rows 0 q).map Row.shown ∧
      ∀ row ∈ rows 0 q, row.emphasized ≠ [] := by
  have hescape : ∀ row ∈ rows 0 q, escape ∉ row.text.toList := fun row =>
    notMem_row (by decide) fun x hx path hpath => (h x hx path hpath).1
  have hline : ∀ row ∈ rows 0 q, '\n' ∉ row.text.toList := fun row =>
    notMem_row (by decide) fun x hx path hpath => (h x hx path hpath).2
  have hshown : ∀ row ∈ rows 0 q, ∀ rest,
      shown none [] (styleLine row.text.toList ++ rest) = row.shown ++ shown none [] rest :=
    fun row hrow => Row.shown_styleLine (label_of_rows hrow) (hescape row hrow)
  refine ⟨?_, splitOn_outline hline, ?_, fun row _ => row.emphasized_ne_nil⟩
  · rw [plain, toList_styleDump hline, withoutEscapes_joinLines hshown]
    exact String.toList_inj.mp (by rw [String.toList_ofList, toList_outline, joinLines])
  · rw [toList_styleDump hline, joinLines, List.splitOn_intercalate, List.map_map]
    · refine List.map_congr_left fun row hrow => ?_
      have hend := hshown row hrow []
      rwa [List.append_nil, shown, List.append_nil] at hend
    · exact List.forall_mem_map.mpr fun row hrow =>
        Row.lineFeed_notMem_styleLine (label_of_rows hrow) (hline row hrow)
    · obtain ⟨rest, hrest⟩ := rows_eq_cons 0 q
      simp [hrest]

/-- A path that looks like a label and has a parenthesis, and a text that looks like
a styled line. -/
theorem plain_styleDump_lookalikes :
    let f : Field := { name := "note", path := "must:(a\r", type := .keyword }
    let q : Query := .bool [.exists f] [] []
      [.nested " filter:" (.boost (.term f (.text "\x1b[2mshould:\x1b[0m\n")) .nan)]
    q.Unescaped ∧ plain (styleDump q.outline) = q.outline ∧
      ((styleDump q.outline).toList.splitOn '\n').map (shown none []) =
        (rows 0 q).map Row.shown ∧
      (rows 0 q).map (fun row => String.ofList row.emphasized) =
        ["Bool", "must:", "Exists", "must_not:", "Nested", "Boost", "Term"] := by
  intro f q
  have h : q.Unescaped := by
    simp [Unescaped, q, f, nodes, nodesAll, path?, field?, escape]
  obtain ⟨hplain, -, hshown, -⟩ := plain_styleDump h
  refine ⟨h, hplain, hshown, ?_⟩
  simp [q, rows, rowsAll, labelled, title]

end Searchlight
