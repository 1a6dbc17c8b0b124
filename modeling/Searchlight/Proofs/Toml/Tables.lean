import Mathlib.Data.List.Nodup
import Searchlight.Toml.Basic

/-!
# Tables filled line by line

A header opens a table at the end of a document, and assignments of keys that are not there yet fill
it in their order. So a section leaves its entries behind in a new table, and sections of one table,
each under a name of its own, leave theirs behind in tables inside it.
-/

namespace Searchlight.Toml

variable {key name sub : String} {v w : Toml} {before done es inner : List (String × Toml)}
  {path : List String} {origin o : Origin} {d : Document}
  {f : Origin → List (String × Toml) → Option (List (String × Toml))}

theorem setEntry_append (h : done.lookup key = none) (v w : Toml) :
    setEntry key v (done ++ [(key, w)]) = done ++ [(key, v)] := by
  induction done with
  | nil => simp [setEntry]
  | cons e done ih =>
      obtain ⟨k, x⟩ := e
      have hne : ¬k = key := by
        rintro rfl
        simp at h
      rw [List.lookup_cons, beq_eq_false_iff_ne.mpr (Ne.symm hne)] at h
      rw [List.cons_append, setEntry, if_neg hne, ih h, List.cons_append]

theorem lookup_append_last (h : done.lookup key = none) (v : Toml) :
    (done ++ [(key, v)]).lookup key = some v := by
  rw [List.lookup_append, h]
  simp

theorem assign_new (h : es.lookup key = none) (v : Toml) :
    assign .header es false [key] v = some (es ++ [(key, v)]) := by
  rw [assign, h]
  rfl

/-- A change inside the last table of a document. -/
theorem within_last (h : before.lookup name = none) (ho : o ≠ .inline) (rest : List String) :
    within f origin (before ++ [(name, .table o inner)]) (name :: rest) =
      (within f o inner rest).map fun inner => before ++ [(name, .table o inner)] := by
  have hset (inner' : List (String × Toml)) :
      setEntry name (.table o inner') (before ++ [(name, .table o inner)]) =
        before ++ [(name, .table o inner')] := setEntry_append h _ _
  rw [within, lookup_append_last h]
  cases o with
  | inline => exact absurd rfl ho
  | header => simp only [hset]
  | path => simp only [hset]
  | dotted => simp only [hset]

/-- A change inside a table that is not there yet. -/
theorem within_new (h : before.lookup name = none) (rest : List String) :
    within f origin before (name :: rest) =
      (within f .path [] rest).map fun inner => before ++ [(name, .table .path inner)] := by
  rw [within, h]

theorem openTable_new (h : before.lookup name = none) :
    openTable name before = some (before ++ [(name, .table .header [])]) := by
  rw [openTable, h]

/-! ## Assignments -/

def assignments (es : List (String × Toml)) : List Statement :=
  es.map fun e => .assignment [e.1] e.2

/-- A header and the assignments under it. -/
def underHeader (path : List String) (es : List (String × Toml)) : List Statement :=
  .header path :: assignments es

/-- The tables that sections leave behind. -/
def headed (sections : List (String × List (String × Toml))) : List (String × Toml) :=
  sections.map fun e => (e.1, .table .header e.2)

/-- A document as a function of the entries of its open table. -/
def Fills (doc : List (String × Toml) → Document) : Prop :=
  ∀ es key v, es.lookup key = none →
    (doc es).step (.assignment [key] v) = some (doc (es ++ [(key, v)]))

/-- The entries before another one of different names. -/
theorem lookup_of_nodup (h : ((done ++ (key, v) :: es).map (·.1)).Nodup) :
    done.lookup key = none := by
  rw [List.lookup_eq_none_iff]
  intro e he
  rw [List.map_append, List.nodup_append] at h
  have hne := h.2.2 e.1 (List.mem_map_of_mem he) key (List.mem_map_of_mem List.mem_cons_self)
  simpa using Ne.symm hne

theorem Fills.foldlM {doc : List (String × Toml) → Document} (h : Fills doc)
    (hnames : ((done ++ es).map (·.1)).Nodup) :
    (assignments es).foldlM Document.step (doc done) = some (doc (done ++ es)) := by
  induction es generalizing done with
  | nil => simp [assignments]
  | cons e es ih =>
      obtain ⟨key, v⟩ := e
      have hassoc : done ++ (key, v) :: es = done ++ [(key, v)] ++ es := by simp
      have hstep := h done key v (lookup_of_nodup hnames)
      rw [assignments, List.map_cons, List.foldlM_cons, hstep]
      rw [hassoc] at hnames ⊢
      exact ih hnames

theorem fills_section (h : before.lookup name = none) :
    Fills fun es => ⟨[name], before ++ [(name, .table .header es)]⟩ := by
  intro es key v hkey
  rw [Document.step]
  simp only [Option.bind_eq_bind]
  rw [within_last h (by decide), within]
  simp [assign_new hkey]

theorem fills_subsection (h : before.lookup name = none) (hsub : done.lookup sub = none) :
    Fills fun es =>
      ⟨[name, sub], before ++ [(name, .table .path (done ++ [(sub, .table .header es)]))]⟩ := by
  intro es key v hkey
  rw [Document.step]
  simp only [Option.bind_eq_bind]
  rw [within_last h (by decide), within_last hsub (by decide), within]
  simp [assign_new hkey]

/-! ## Sections -/

theorem step_header (hroot : d.root = before) (h : before.lookup name = none) :
    d.step (.header [name]) = some ⟨[name], before ++ [(name, .table .header [])]⟩ := by
  subst hroot
  simp [Document.step, within, openTable_new h]

/-- **A section leaves its entries behind in a new table.** -/
theorem run_section (hroot : d.root = before) (h : before.lookup name = none)
    (hes : (es.map (·.1)).Nodup) :
    (underHeader [name] es).foldlM Document.step d =
      some ⟨[name], before ++ [(name, .table .header es)]⟩ := by
  rw [underHeader, List.foldlM_cons, step_header hroot h]
  exact (fills_section h).foldlM hes

/-- The entries of a document with tables inside one at its end, which is there if they are. -/
def withTables (before : List (String × Toml)) (name : String) (tables : List (String × Toml)) :
    List (String × Toml) :=
  if tables.isEmpty then before else before ++ [(name, .table .path tables)]

theorem withTables_append (before : List (String × Toml)) (name : String)
    (done : List (String × Toml)) (e : String × Toml) :
    withTables before name (done ++ [e]) = before ++ [(name, .table .path (done ++ [e]))] :=
  if_neg (by simp)

theorem step_subheader (hroot : d.root = withTables before name done)
    (h : before.lookup name = none) (hsub : done.lookup sub = none) :
    d.step (.header [name, sub]) =
      some ⟨[name, sub], withTables before name (done ++ [(sub, .table .header [])])⟩ := by
  rw [withTables_append, Document.step, hroot, withTables]
  simp only [Option.bind_eq_bind]
  cases done with
  | nil => simp [within_new h, within, openTable_new hsub]
  | cons e done =>
      rw [if_neg (by simp)]
      simp [within_last h, within, openTable_new hsub]

/-- **Sections of one table leave their entries behind in tables inside it.** -/
theorem run_subsections {sections : List (String × List (String × Toml))}
    (hroot : d.root = withTables before name done) (h : before.lookup name = none)
    (hnames : ((done ++ headed sections).map (·.1)).Nodup)
    (hes : ∀ e ∈ sections, (e.2.map (·.1)).Nodup) :
    ∃ current, (sections.flatMap fun e => underHeader [name, e.1] e.2).foldlM Document.step d =
      some ⟨current, withTables before name (done ++ headed sections)⟩ := by
  induction sections generalizing d done with
  | nil => exact ⟨d.current, by simp [headed, ← hroot]⟩
  | cons e sections ih =>
      obtain ⟨sub, es⟩ := e
      rw [List.forall_mem_cons] at hes
      have hsub : done.lookup sub = none := lookup_of_nodup hnames
      have hfill : (assignments es).foldlM Document.step
          ⟨[name, sub], before ++ [(name, .table .path (done ++ [(sub, .table .header [])]))]⟩ =
            some ⟨[name, sub],
              before ++ [(name, .table .path (done ++ [(sub, .table .header es)]))]⟩ :=
        (fills_subsection h hsub).foldlM hes.1
      have hassoc : done ++ headed ((sub, es) :: sections) =
          done ++ [(sub, .table .header es)] ++ headed sections := by
        simp [headed]
      rw [hassoc] at hnames ⊢
      obtain ⟨current, hrest⟩ :=
        ih (d := ⟨[name, sub], withTables before name _⟩) rfl hnames hes.2
      refine ⟨current, ?_⟩
      rw [List.flatMap_cons, underHeader, List.cons_append, List.foldlM_cons,
        step_subheader hroot h hsub, Option.bind_eq_bind, Option.bind_some, List.foldlM_append,
        withTables_append, hfill, ← withTables_append]
      exact hrest

end Searchlight.Toml
