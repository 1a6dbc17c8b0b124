import Searchlight.Proofs.Query.Headline

/-!
# What an outline tells about its query

Each line of an outline is a node of the query or the label of a clause list, and
its indentation tells how far below the root it stands. So where one query ends and
the next begins is told by the first line that is not indented deeper, and which
clause list is left out by the label that comes next. An outline determines its
query on paths, as the document does: both tell the same queries apart.
-/

namespace Searchlight

open Text

/-! ## Rows -/

/-- A line of an outline, as what it shows and where. -/
inductive Row where
  | node (depth : ℕ) (q : Query)
  | label (depth : ℕ) (name : String)

namespace Row

def depth : Row → ℕ
  | node depth _ | label depth _ => depth

def text : Row → String
  | node depth q => Query.indent depth ++ q.headline
  | label depth name => Query.indent depth ++ name ++ ":"

/-- The query that a row shows, unless it is a label. -/
def node? : Row → Option Query
  | node _ q => some q
  | label _ _ => none

end Row

namespace Query

def clauseNames : List String := ["must", "filter", "should", "must_not"]

/-- Rows under a label, or nothing where there are none. -/
def labelled (depth : ℕ) (name : String) (rows : List Row) : List Row :=
  if rows.isEmpty then [] else .label depth name :: rows

mutual

/-- The rows of a query whose own row has the given depth. -/
def rows (depth : ℕ) : Query → List Row
  | nested path q => .node depth (nested path q) :: rows (depth + 1) q
  | bool must filter should mustNot =>
      .node depth (bool must filter should mustNot) ::
        (labelled (depth + 1) "must" (rowsAll (depth + 2) must) ++
          (labelled (depth + 1) "filter" (rowsAll (depth + 2) filter) ++
            (labelled (depth + 1) "should" (rowsAll (depth + 2) should) ++
              labelled (depth + 1) "must_not" (rowsAll (depth + 2) mustNot))))
  | boost q factor => .node depth (boost q factor) :: rows (depth + 1) q
  | q => [.node depth q]

def rowsAll (depth : ℕ) : List Query → List Row
  | [] => []
  | q :: rest => rows depth q ++ rowsAll depth rest

end

theorem rows_of_field {q : Query} {f : Field} (h : q.field? = some f) (depth : ℕ) :
    rows depth q = [.node depth q] := by
  cases q with
  | all | nested | bool | boost => cases h
  | _ => rfl

/-- A query's own row is the first. -/
theorem rows_eq_cons (depth : ℕ) (q : Query) :
    ∃ rest, rows depth q = .node depth q :: rest := by
  cases q <;> exact ⟨_, rfl⟩

theorem rowsAll_eq_flatMap (depth : ℕ) (qs : List Query) :
    rowsAll depth qs = qs.flatMap (rows depth) := by
  induction qs with
  | nil => rfl
  | cons q qs ih => rw [rowsAll, ih, List.flatMap_cons]

/-! ## Rows and lines -/

theorem clauseOutline_text (depth : ℕ) (name : String) (rows : List Row) :
    clauseOutline depth name (rows.map Row.text) = (labelled depth name rows).map Row.text := by
  cases rows <;> rfl

theorem outlinesAt_eq_rowsAll {depth : ℕ} {qs : List Query}
    (h : ∀ q ∈ qs, ∀ depth, outlineAt depth q = (rows depth q).map Row.text) :
    outlinesAt depth qs = (rowsAll depth qs).map Row.text := by
  induction qs with
  | nil => rfl
  | cons q qs ih =>
      obtain ⟨hq, hqs⟩ := List.forall_mem_cons.mp h
      rw [outlinesAt, rowsAll, List.map_append, hq, ih hqs]

theorem outlineAt_eq_rows (q : Query) :
    ∀ depth, outlineAt depth q = (rows depth q).map Row.text := by
  induction q using clauses_induction with
  | all => exact fun _ => rfl
  | leaf q f hf =>
      intro depth
      rw [rows_of_field hf]
      cases q with
      | all | nested | bool | boost => cases hf
      | _ => rfl
  | nested path q ih =>
      intro depth
      rw [outlineAt, rows, List.map_cons, ← ih]
      rfl
  | bool must filter should mustNot ih =>
      intro depth
      obtain ⟨hm, hf, hs, hn⟩ := forall_mem_clauses.mp ih
      rw [outlineAt]
      simp only [outlinesAt_eq_rowsAll hm, outlinesAt_eq_rowsAll hf, outlinesAt_eq_rowsAll hs,
        outlinesAt_eq_rowsAll hn, clauseOutline_text, rows, List.map_cons, List.map_append,
        List.append_assoc]
      rfl
  | boost q factor ih =>
      intro depth
      rw [outlineAt, rows, List.map_cons, ← ih]
      rfl

/-! ## Rows and nodes -/

theorem nodes_of_labelled (depth : ℕ) (name : String) (rows : List Row) :
    (labelled depth name rows).filterMap Row.node? = rows.filterMap Row.node? := by
  cases rows <;> rfl

theorem nodes_of_rowsAll {depth : ℕ} {qs : List Query}
    (h : ∀ q ∈ qs, ∀ depth, (rows depth q).filterMap Row.node? = q.nodes) :
    (rowsAll depth qs).filterMap Row.node? = nodesAll qs := by
  induction qs with
  | nil => rfl
  | cons q qs ih =>
      obtain ⟨hq, hqs⟩ := List.forall_mem_cons.mp h
      rw [rowsAll, List.filterMap_append, hq, ih hqs, nodesAll]

/-- The rows show each node once, in order. -/
theorem nodes_of_rows (q : Query) :
    ∀ depth, (rows depth q).filterMap Row.node? = q.nodes := by
  induction q using clauses_induction with
  | all => exact fun _ => rfl
  | leaf q f hf =>
      intro depth
      rw [rows_of_field hf, nodes_of_field hf]
      rfl
  | nested path q ih =>
      intro depth
      rw [rows, nodes, ← ih (depth + 1)]
      rfl
  | bool must filter should mustNot ih =>
      intro depth
      obtain ⟨hm, hf, hs, hn⟩ := forall_mem_clauses.mp ih
      rw [rows, nodes, List.filterMap_cons_some (f := Row.node?) rfl]
      simp only [List.filterMap_append, nodes_of_labelled, nodes_of_rowsAll hm,
        nodes_of_rowsAll hf, nodes_of_rowsAll hs, nodes_of_rowsAll hn, List.append_assoc]
  | boost q factor ih =>
      intro depth
      rw [rows, nodes, ← ih (depth + 1)]
      rfl

theorem mem_labelled {depth : ℕ} {name : String} {rs : List Row} {row : Row}
    (h : row ∈ labelled depth name rs) : row = .label depth name ∨ row ∈ rs := by
  rw [labelled] at h
  split at h
  · cases h
  · exact List.mem_cons.mp h

/-- All labels are names of clause lists. -/
theorem mem_clauseNames_of_rows {d : ℕ} {name : String} (q : Query) :
    ∀ depth, .label d name ∈ rows depth q → name ∈ clauseNames := by
  induction q using clauses_induction with
  | all =>
      intro depth h
      cases List.mem_singleton.mp h
  | leaf q f hf =>
      intro depth h
      rw [rows_of_field hf] at h
      cases List.mem_singleton.mp h
  | nested path q ih =>
      intro depth h
      rcases List.mem_cons.mp h with h | h
      · cases h
      · exact ih _ h
  | bool must filter should mustNot ih =>
      intro depth h
      have hclause : ∀ {clause : String} {qs : List Query}, clause ∈ clauseNames →
          (∀ q ∈ qs, ∀ depth, .label d name ∈ rows depth q → name ∈ clauseNames) →
          .label d name ∈ labelled (depth + 1) clause (rowsAll (depth + 2) qs) →
          name ∈ clauseNames := by
        intro clause qs hclause hqs h
        rcases mem_labelled h with h | h
        · cases h
          exact hclause
        · rw [rowsAll_eq_flatMap] at h
          obtain ⟨q, hq, h⟩ := List.mem_flatMap.mp h
          exact hqs q hq _ h
      obtain ⟨hm, hf, hs, hn⟩ := forall_mem_clauses.mp ih
      rw [rows] at h
      simp only [List.mem_cons, List.mem_append] at h
      rcases h with h | h | h | h | h
      · cases h
      · exact hclause (by decide) hm h
      · exact hclause (by decide) hf h
      · exact hclause (by decide) hs h
      · exact hclause (by decide) hn h
  | boost q factor ih =>
      intro depth h
      rcases List.mem_cons.mp h with h | h
      · cases h
      · exact ih _ h

end Query

/-! ## Rows from lines -/

namespace Row

open Query

variable {lookup : String → Option FieldMapping}

/-- A row of a well-typed query. -/
def Proper (lookup : String → Option FieldMapping) : Row → Prop
  | node _ q => q.Placed lookup
  | label _ name => name ∈ clauseNames

/-- Rows that look the same: what they show is the same on paths, but for the
queries in it. -/
inductive Same : Row → Row → Prop
  | node (depth : ℕ) {q r : Query} (h : SameLine q r) : Same (node depth q) (node depth r)
  | label (depth : ℕ) (name : String) : Same (label depth name) (label depth name)

theorem proper_of_rows {q : Query} (hq : ∀ x ∈ q.nodes, x.Placed lookup) {depth : ℕ} :
    ∀ row ∈ rows depth q, row.Proper lookup := by
  intro row hrow
  cases row with
  | node d x =>
      have hx : x ∈ q.nodes := by
        rw [← nodes_of_rows q depth]
        exact List.mem_filterMap.mpr ⟨_, hrow, rfl⟩
      exact hq x hx
  | label d name => exact mem_clauseNames_of_rows q depth hrow

/-- The row without its indentation. -/
def body : Row → List Char
  | node _ q => q.headline.toList
  | label _ name => name.toList ++ [':']

theorem toList_text (row : Row) :
    row.text.toList = List.replicate (2 * row.depth) ' ' ++ row.body := by
  cases row <;> simp [text, indent, depth, body]

theorem head?_label {name : String} (h : name ∈ clauseNames) :
    ∀ c ∈ (name.toList ++ [':']).head?, c ≠ ' ' := by
  simp only [clauseNames, List.mem_cons, List.not_mem_nil, or_false] at h
  rcases h with rfl | rfl | rfl | rfl <;> simp

theorem Proper.head?_body {row : Row} (h : row.Proper lookup) :
    ∀ c ∈ row.body.head?, c ≠ ' ' := by
  cases row with
  | node d q => exact head?_headline q
  | label d name => exact head?_label h

/-- Only labels end with a colon. -/
theorem getLast?_body (row : Row) :
    ∃ c, row.body.getLast? = some c ∧ isBlank c = false ∧ (c = ':' ↔ row.node? = none) := by
  cases row with
  | node d q =>
      rcases getLast?_headline q with h | h
      · exact ⟨_, h, by decide, by simp [node?]⟩
      · exact ⟨_, h, by decide, by simp [node?]⟩
  | label d name => exact ⟨':', by simp [body], by decide, by simp [node?]⟩

/-- A character that is not printable is in no line, unless it is in a headline. -/
theorem notMem_text {row : Row} {c : Char} (hshown : isPrintable c = false)
    (hlabel : ∀ depth name, row = label depth name → name ∈ clauseNames)
    (hnode : ∀ q ∈ row.node?, c ∉ q.headline.toList) : c ∉ row.text.toList := by
  have hne : ∀ x, isPrintable x = true → x ≠ c := by
    rintro x hx rfl
    rw [hshown] at hx
    cases hx
  have hlabels : ∀ name ∈ clauseNames, ∀ x ∈ name.toList ++ [':'], isPrintable x = true := by
    simp only [← List.all_eq_true]
    decide
  have hbody : c ∉ row.body := by
    cases row with
    | node depth q => exact hnode q rfl
    | label depth name =>
        exact fun hc => hne c (hlabels name (hlabel depth name rfl) c hc) rfl
  rw [toList_text]
  simp [hbody, (hne ' ' (by decide)).symm]

/-- **A line tells its row**, on paths. -/
theorem same_of_text (hlegible : Legible lookup) {a b : Row} (ha : a.Proper lookup)
    (hb : b.Proper lookup) (h : a.text.toList = b.text.toList) : a.Same b := by
  have hspace : ∀ n, ∀ c ∈ List.replicate n ' ', decide (c = ' ') = true :=
    fun n c hc => decide_eq_true (List.eq_of_mem_replicate hc)
  have hstart : ∀ {row : Row}, row.Proper lookup →
      ∀ c ∈ row.body.head?, decide (c = ' ') = false :=
    fun hrow c hc => decide_eq_false (hrow.head?_body c hc)
  rw [toList_text, toList_text] at h
  obtain ⟨hindent, hbody⟩ := run_cancel (p := fun c => decide (c = ' ')) (hspace _)
    (hspace _) (hstart ha) (hstart hb) h
  have hdepth : a.depth = b.depth := by
    have hlength := congrArg List.length hindent
    simp only [List.length_replicate] at hlength
    omega
  obtain ⟨c, hc, -, hlabel⟩ := getLast?_body a
  obtain ⟨c', hc', -, hlabel'⟩ := getLast?_body b
  obtain rfl : c = c' := Option.some.inj (hc.symm.trans (hbody ▸ hc'))
  cases a with
  | node d q =>
      cases b with
      | node e r =>
          obtain rfl : d = e := hdepth
          exact .node d (sameLine_of_headline hlegible ha hb hbody)
      | label e name => exact absurd (hlabel.mp (hlabel'.mpr rfl)) (by simp [node?])
  | label d name =>
      cases b with
      | node e r => exact absurd (hlabel'.mp (hlabel.mpr rfl)) (by simp [node?])
      | label e name' =>
          obtain rfl : d = e := hdepth
          obtain rfl : name = name' :=
            String.toList_inj.mp (List.append_cancel_right hbody)
          exact .label d name

end Row

/-! ## Queries from rows -/

namespace Query

open Row

/-- What may come behind rows of a depth: nothing, a row of a smaller one, or one of
some labels. -/
def Follows (depth : ℕ) (labels : List String) (rest : List Row) : Prop :=
  ∀ row ∈ rest.head?, row.depth < depth ∨ ∃ name ∈ labels, row = .label depth name

variable {depth : ℕ} {name : String} {labels : List String} {t u : List Row}

theorem follows_nil : Follows depth labels [] := by
  intro row hrow
  cases hrow

theorem Follows.deeper (h : Follows depth labels t) : Follows (depth + 1) [] t := by
  intro row hrow
  rcases h row hrow with hlt | ⟨name, -, rfl⟩
  · exact .inl (Nat.lt_succ_of_lt hlt)
  · exact .inl (Nat.lt_succ_self depth)

theorem follows_labelled (h : Follows depth labels t) (name : String) (rs : List Row) :
    Follows depth (name :: labels) (labelled depth name rs ++ t) := by
  rw [labelled]
  split
  · intro row hrow
    rcases h row hrow with hlt | ⟨other, hother, rfl⟩
    · exact .inl hlt
    · exact .inr ⟨other, List.mem_cons_of_mem _ hother, rfl⟩
  · intro row hrow
    obtain rfl := Option.some.inj hrow
    exact .inr ⟨name, List.mem_cons_self, rfl⟩

theorem follows_rowsAll (h : Follows depth [] t) (qs : List Query) :
    Follows (depth + 1) [] (rowsAll depth qs ++ t) := by
  cases qs with
  | nil => exact h.deeper
  | cons q qs =>
      obtain ⟨rest, hrest⟩ := rows_eq_cons depth q
      rw [rowsAll, hrest]
      intro row hrow
      obtain rfl := Option.some.inj hrow
      exact .inl (Nat.lt_succ_self depth)

/-- What may follow is seen. -/
theorem follows_iff (h : List.Forall₂ Same t u) :
    Follows depth labels t ↔ Follows depth labels u := by
  cases h with
  | nil => exact Iff.rfl
  | cons hsame _ =>
      cases hsame with
      | node d _ => simp [Follows, Row.depth]
      | label d name => exact Iff.rfl

theorem not_follows_node {q : Query} {rest : List Row} :
    ¬Follows depth [] (.node depth q :: rest) := by
  intro h
  rcases h _ rfl with hlt | ⟨name, hname, -⟩
  · exact absurd hlt (Nat.lt_irrefl depth)
  · cases hname

theorem not_follows_label (hname : name ∉ labels) {rest : List Row} :
    ¬Follows depth labels (.label depth name :: rest) := by
  intro h
  rcases h _ rfl with hlt | ⟨other, hother, heq⟩
  · exact absurd hlt (Nat.lt_irrefl depth)
  · obtain ⟨-, rfl⟩ := Row.label.inj heq
    exact hname hother

/-- The rows of a query tell the query on paths, and where they end. -/
def Recovered (q : Query) : Prop :=
  ∀ {depth : ℕ} {r : Query} {t u : List Row}, Follows (depth + 1) [] t →
    Follows (depth + 1) [] u →
    List.Forall₂ Same (rows depth q ++ t) (rows depth r ++ u) →
      q.reduced = r.reduced ∧ List.Forall₂ Same t u

/-- No row of the depth comes behind a list of queries, so that its length is told. -/
theorem rowsAll_cancel {qs : List Query} (hqs : ∀ q ∈ qs, Recovered q) :
    ∀ {rs : List Query} {t u : List Row}, Follows depth [] t → Follows depth [] u →
      List.Forall₂ Same (rowsAll depth qs ++ t) (rowsAll depth rs ++ u) →
        reducedAll qs = reducedAll rs ∧ List.Forall₂ Same t u := by
  induction qs with
  | nil =>
      intro rs t u ht hu h
      cases rs with
      | nil => exact ⟨rfl, h⟩
      | cons r rs =>
          obtain ⟨rest, hrest⟩ := rows_eq_cons depth r
          have hfollows := (follows_iff h).mp ht
          rw [rowsAll, hrest] at hfollows
          exact (not_follows_node hfollows).elim
  | cons q qs ih =>
      intro rs t u ht hu h
      obtain ⟨hq, hqs⟩ := List.forall_mem_cons.mp hqs
      cases rs with
      | nil =>
          obtain ⟨rest, hrest⟩ := rows_eq_cons depth q
          have hfollows := (follows_iff h).mpr hu
          rw [rowsAll, hrest] at hfollows
          exact (not_follows_node hfollows).elim
      | cons r rs =>
          rw [rowsAll, rowsAll, List.append_assoc, List.append_assoc] at h
          obtain ⟨hqr, h⟩ := hq (follows_rowsAll ht qs) (follows_rowsAll hu rs) h
          obtain ⟨hrest, h⟩ := ih hqs ht hu h
          rw [reducedAll, reducedAll, hqr, hrest]
          exact ⟨rfl, h⟩

theorem labelled_rowsAll_cons (q : Query) (qs : List Query) :
    labelled depth name (rowsAll (depth + 1) (q :: qs)) =
      .label depth name :: rowsAll (depth + 1) (q :: qs) := by
  obtain ⟨rest, hrest⟩ := rows_eq_cons (depth + 1) q
  rw [rowsAll, hrest]
  rfl

/-- A clause list that is left out is told by what comes instead of its label. -/
theorem labelled_cancel (hname : name ∉ labels) {qs rs : List Query}
    (hqs : ∀ q ∈ qs, Recovered q) (ht : Follows depth labels t)
    (hu : Follows depth labels u)
    (h : List.Forall₂ Same (labelled depth name (rowsAll (depth + 1) qs) ++ t)
      (labelled depth name (rowsAll (depth + 1) rs) ++ u)) :
    reducedAll qs = reducedAll rs ∧ List.Forall₂ Same t u := by
  cases qs with
  | nil =>
      cases rs with
      | nil => exact ⟨rfl, h⟩
      | cons r rs =>
          have hfollows := (follows_iff h).mp ht
          rw [labelled_rowsAll_cons] at hfollows
          exact (not_follows_label hname hfollows).elim
  | cons q qs =>
      cases rs with
      | nil =>
          have hfollows := (follows_iff h).mpr hu
          rw [labelled_rowsAll_cons] at hfollows
          exact (not_follows_label hname hfollows).elim
      | cons r rs =>
          rw [labelled_rowsAll_cons, labelled_rowsAll_cons, List.cons_append,
            List.cons_append, List.forall₂_cons] at h
          exact rowsAll_cancel hqs ht.deeper hu.deeper h.2

theorem sameLine_of_rows {q r : Query}
    (h : List.Forall₂ Same (rows depth q ++ t) (rows depth r ++ u)) : SameLine q r := by
  obtain ⟨rest, hq⟩ := rows_eq_cons depth q
  obtain ⟨rest', hr⟩ := rows_eq_cons depth r
  rw [hq, hr, List.cons_append, List.cons_append, List.forall₂_cons] at h
  cases h.1 with
  | node _ hline => exact hline

theorem recovered_bool {must filter should mustNot : List Query}
    (ih : ∀ q ∈ must ++ filter ++ should ++ mustNot, Recovered q) :
    Recovered (bool must filter should mustNot) := by
  intro depth r t u ht hu h
  have hline := sameLine_of_rows h
  cases hline with
  | leaf hq => cases hq
  | bool m f s n m' f' s' n' =>
      obtain ⟨hm, hf, hs, hn⟩ := forall_mem_clauses.mp ih
      have hbehind : ∀ {t : List Row} (s n : List Query), Follows (depth + 1) [] t →
          Follows (depth + 1) ["must_not"]
            (labelled (depth + 1) "must_not" (rowsAll (depth + 2) n) ++ t) ∧
          Follows (depth + 1) ["should", "must_not"]
            (labelled (depth + 1) "should" (rowsAll (depth + 2) s) ++
              (labelled (depth + 1) "must_not" (rowsAll (depth + 2) n) ++ t)) :=
        fun s n ht => ⟨follows_labelled ht _ _, follows_labelled (follows_labelled ht _ _) _ _⟩
      obtain ⟨htn, hts⟩ := hbehind should mustNot ht
      obtain ⟨hun, hus⟩ := hbehind s' n' hu
      simp only [rows, List.cons_append, List.append_assoc, List.forall₂_cons] at h
      obtain ⟨-, h⟩ := h
      have hfirst : "must" ∉ ["filter", "should", "must_not"] := by decide
      obtain ⟨hmust, h⟩ := labelled_cancel hfirst hm (follows_labelled hts _ _)
        (follows_labelled hus _ _) h
      obtain ⟨hfilter, h⟩ := labelled_cancel (by decide) hf hts hus h
      obtain ⟨hshould, h⟩ := labelled_cancel (by decide) hs htn hun h
      obtain ⟨hmustNot, h⟩ := labelled_cancel (by decide) hn ht hu h
      rw [reduced, reduced, hmust, hfilter, hshould, hmustNot]
      exact ⟨rfl, h⟩

/-- **A query is recovered from its rows.** -/
theorem recovered (q : Query) : Recovered q := by
  induction q using clauses_induction with
  | all =>
      intro depth r t u ht hu h
      have hline := sameLine_of_rows h
      cases hline with
      | leaf hq => cases hq
      | all => exact ⟨rfl, (List.forall₂_cons.mp h).2⟩
  | leaf q f hf =>
      intro depth r t u ht hu h
      have hline := sameLine_of_rows h
      cases hline with
      | leaf hq hr heq =>
          rw [rows_of_field hq, rows_of_field hr] at h
          exact ⟨heq, (List.forall₂_cons.mp h).2⟩
      | _ => cases hf
  | nested path q ih =>
      intro depth r t u ht hu h
      have hline := sameLine_of_rows h
      cases hline with
      | leaf hq => cases hq
      | nested path q r =>
          obtain ⟨hqr, h⟩ := ih ht.deeper hu.deeper (List.forall₂_cons.mp h).2
          rw [reduced, reduced, hqr]
          exact ⟨rfl, h⟩
  | bool must filter should mustNot ih => exact recovered_bool ih
  | boost q factor ih =>
      intro depth r t u ht hu h
      have hline := sameLine_of_rows h
      cases hline with
      | leaf hq => cases hq
      | boost q r factor =>
          obtain ⟨hqr, h⟩ := ih ht.deeper hu.deeper (List.forall₂_cons.mp h).2
          rw [reduced, reduced, hqr]
          exact ⟨rfl, h⟩

/-! ## Outlines -/

theorem outlinesAt_reduced {qs : List Query}
    (h : ∀ q ∈ qs, ∀ depth, outlineAt depth q.reduced = outlineAt depth q) (depth : ℕ) :
    outlinesAt depth (reducedAll qs) = outlinesAt depth qs := by
  induction qs with
  | nil => rfl
  | cons q qs ih =>
      obtain ⟨hq, hqs⟩ := List.forall_mem_cons.mp h
      rw [reducedAll, outlinesAt, outlinesAt, hq, ih hqs]

theorem outlineAt_reduced (q : Query) :
    ∀ depth, outlineAt depth q.reduced = outlineAt depth q := by
  induction q using clauses_induction with
  | all => exact fun _ => rfl
  | leaf q f hf =>
      cases q with
      | all | nested | bool | boost => cases hf
      | _ => exact fun _ => rfl
  | nested path q ih =>
      intro depth
      rw [reduced, outlineAt, outlineAt, headline, headline]
      simp only [ih]
  | bool must filter should mustNot ih =>
      intro depth
      obtain ⟨hm, hf, hs, hn⟩ := forall_mem_clauses.mp ih
      rw [reduced, outlineAt, outlineAt, headline, headline]
      simp only [outlinesAt_reduced hm, outlinesAt_reduced hf, outlinesAt_reduced hs,
        outlinesAt_reduced hn]
  | boost q factor ih =>
      intro depth
      rw [reduced, outlineAt, outlineAt, headline, headline]
      simp only [ih]

theorem outline_reduced (q : Query) : q.reduced.outline = q.outline := by
  rw [outline, outline, outlineAt_reduced]

variable {lookup : String → Option FieldMapping} {q r : Query}

theorem lineFeed_notMem_text (hlegible : Legible lookup) {row : Row}
    (hrow : row.Proper lookup) : '\n' ∉ row.text.toList := by
  refine Row.notMem_text (by decide) ?_ ?_
  · rintro depth name rfl
    exact hrow
  · intro x hx
    cases row with
    | node depth q =>
        obtain rfl := Option.some.inj hx
        exact lineFeed_notMem_headline hlegible hrow
    | label depth name => cases hx

theorem toList_outline (q : Query) :
    q.outline.toList = ['\n'].intercalate ((rows 0 q).map fun row => row.text.toList) := by
  rw [outline, outlineAt_eq_rows, String.toList_intercalate, List.map_map]
  rfl

/-- The lines of an outline are its rows, where no row has a line feed in it. -/
theorem splitOn_outline (h : ∀ row ∈ rows 0 q, '\n' ∉ row.text.toList) :
    q.outline.toList.splitOn '\n' = (rows 0 q).map fun row => row.text.toList := by
  rw [toList_outline, List.splitOn_intercalate]
  · exact List.forall_mem_map.mpr h
  · obtain ⟨rest, hrest⟩ := rows_eq_cons 0 q
    simp [hrest]

theorem outline_lines (hlegible : Legible lookup) (hq : ∀ x ∈ q.nodes, x.Placed lookup) :
    q.outline.toList.splitOn '\n' = (rows 0 q).map fun row => row.text.toList :=
  splitOn_outline fun row hrow => lineFeed_notMem_text hlegible (proper_of_rows hq row hrow)

theorem same_of_texts (hlegible : Legible lookup) {as : List Row} :
    ∀ {bs : List Row}, (∀ a ∈ as, a.Proper lookup) → (∀ b ∈ bs, b.Proper lookup) →
      (as.map fun row => row.text.toList) = (bs.map fun row => row.text.toList) →
        List.Forall₂ Same as bs := by
  induction as with
  | nil =>
      intro bs _ _ h
      cases bs with
      | nil => exact .nil
      | cons b bs => cases h
  | cons a as ih =>
      intro bs ha hb h
      cases bs with
      | nil => cases h
      | cons b bs =>
          obtain ⟨ha, has⟩ := List.forall_mem_cons.mp ha
          obtain ⟨hb, hbs⟩ := List.forall_mem_cons.mp hb
          obtain ⟨hline, hlines⟩ := List.cons.inj h
          exact .cons (same_of_text hlegible ha hb hline) (ih has hbs hlines)

/-- One outline is of one query, on paths. -/
theorem reduced_of_outline (hlegible : Legible lookup)
    (hq : ∀ x ∈ q.nodes, x.Placed lookup) (hr : ∀ x ∈ r.nodes, x.Placed lookup)
    (h : q.outline = r.outline) : q.reduced = r.reduced := by
  have hlines := outline_lines hlegible hq
  rw [h, outline_lines hlegible hr] at hlines
  have hsame : List.Forall₂ Same (rows 0 q ++ []) (rows 0 r ++ []) := by
    rw [List.append_nil, List.append_nil]
    exact same_of_texts hlegible (proper_of_rows hq) (proper_of_rows hr) hlines.symm
  exact (recovered q follows_nil follows_nil hsame).1

end Query

open Query

/-- **An outline tells as much of a query as its document.** Two queries that are
resolved over the same legible fields have one outline just if they are the same on
paths; and where both have a document, just if these are the same. The lines of an
outline are its rows, which are the nodes, each once and in order, and labels of
clause lists; and none ends in white space. -/
theorem outline_determines {lookup : String → Option FieldMapping}
    (hlegible : Legible lookup) {options options' : ResolveOptions}
    {e e' : Option Expr} {q q' : Query} (h : resolve lookup options e = .ok q)
    (h' : resolve lookup options' e' = .ok q') :
    (q.outline = q'.outline ↔ q.reduced = q'.reduced) ∧
      (∀ {d d'}, q.document = .ok d → q'.document = .ok d' →
        (q.outline = q'.outline ↔ d = d') ∧
          (q.outline = q'.outline ↔ d.compactText = d'.compactText)) ∧
      q.outline.toList.splitOn '\n' = ((rows 0 q).map fun row => row.text.toList) ∧
      (rows 0 q).filterMap Row.node? = q.nodes ∧
      (∀ depth name, .label depth name ∈ rows 0 q → name ∈ clauseNames) ∧
      ∀ line ∈ q.outline.toList.splitOn '\n', ∃ c ∈ line.getLast?, isBlank c = false := by
  have hplaced := (wellTyped_of_resolve h).placed q
  have hplaced' := (wellTyped_of_resolve h').placed q'
  have hreduced : q.outline = q'.outline ↔ q.reduced = q'.reduced := by
    constructor
    · exact reduced_of_outline hlegible hplaced hplaced'
    · intro heq
      rw [← outline_reduced q, heq, outline_reduced]
  have hlines := outline_lines hlegible hplaced
  refine ⟨hreduced, ?_, hlines, nodes_of_rows q 0, ?_, ?_⟩
  · intro d d' hd hd'
    have hs := settled_of_resolve h
    have hs' := settled_of_resolve h'
    have hdocument : q.outline = q'.outline ↔ d = d' := by
      rw [hreduced]
      constructor
      · intro heq
        have hdd : q.document = q'.document := by
          rw [document, document, ← documentWith_reduced q, heq, documentWith_reduced]
        exact Except.ok.inj (hd.symm.trans (hdd.trans hd'))
      · rintro rfl
        exact determined q hs hs' hd hd'
    refine ⟨hdocument, hdocument.trans ⟨fun heq => by rw [heq], fun htext => ?_⟩⟩
    exact Json.compactText_injective (finite_document q hs hd) (finite_document q' hs' hd')
      htext
  · exact fun depth name hmem => mem_clauseNames_of_rows q 0 hmem
  · intro line hline
    rw [hlines] at hline
    obtain ⟨row, -, rfl⟩ := List.mem_map.mp hline
    obtain ⟨c, hc, hblank, -⟩ := row.getLast?_body
    refine ⟨c, ?_, hblank⟩
    rw [Row.toList_text, List.getLast?_append, hc]
    rfl

/-- Two mappings of one path, of which the outline shows no more than that. -/
theorem outline_determines_renamed :
    let title (name : String) : FieldMapping := { name := name, path := "title", type := .text }
    let author : FieldMapping :=
      { name := "author", path := "comments.author", type := .keyword, nested := "comments" }
    let lookup (name : String) : Option FieldMapping :=
      if name = "author" then some author else some (title name)
    let e (name : String) : Expr := .bool .and
      [.boosted (.leaf (some name) (.phrase "a b" 0)) (.nearest false 3 2),
        .not (.leaf (some "author") (.wildcard "x*"))]
    let q (name : String) : Query := .bool
      [.boost (.phrase (title name).toField "a b" 0) (.nearest false 3 2)] [] []
      [.nested "comments" (.wildcard author.toField "x*")]
    Legible lookup ∧ resolve lookup {} (some (e "title")) = .ok (q "title") ∧
      resolve lookup {} (some (e "heading")) = .ok (q "heading") ∧
      (q "title").outline = (q "heading").outline ∧
      (rows 0 (q "title")).map Row.depth = [0, 1, 2, 3, 1, 2, 3] ∧
      (q "title").outline.toList.splitOn '\n' =
        (rows 0 (q "title")).map fun row => row.text.toList := by
  intro title author lookup e q
  have hmapped : ∀ {f}, Mapped lookup f →
      f = author.toField ∨ ∃ name, f = (title name).toField := by
    rintro f ⟨name, mapping, hname, rfl⟩
    by_cases hauthor : name = "author"
    · obtain rfl := Option.some.inj ((if_pos hauthor).symm.trans hname)
      exact .inl rfl
    · obtain rfl := Option.some.inj ((if_neg hauthor).symm.trans hname)
      exact .inr ⟨name, rfl⟩
  have hlegible : Legible lookup := by
    constructor
    · intro f g hf hg hpath
      rcases hmapped hf with rfl | ⟨name, rfl⟩
      · rcases hmapped hg with rfl | ⟨other, rfl⟩
        · rfl
        · exact absurd hpath (by simp [author, title])
      · rcases hmapped hg with rfl | ⟨other, rfl⟩
        · exact absurd hpath (by simp [author, title])
        · rfl
    · intro f hf
      rcases hmapped hf with rfl | ⟨name, rfl⟩ <;> simp [author, title]
    · intro f hf
      rcases hmapped hf with rfl | ⟨name, rfl⟩ <;> simp [author, title]
  have h : resolve lookup {} (some (e "title")) = .ok (q "title") := rfl
  have h' : resolve lookup {} (some (e "heading")) = .ok (q "heading") := rfl
  have hreduced : (q "title").reduced = (q "heading").reduced := rfl
  obtain ⟨houtline, -, hlines, -⟩ := outline_determines hlegible h h'
  exact ⟨hlegible, h, h', houtline.mpr hreduced, rfl, hlines⟩

end Searchlight
