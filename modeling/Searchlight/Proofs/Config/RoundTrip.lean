import Searchlight.Proofs.Config.Precedence
import Searchlight.Proofs.File.Canonical
import Searchlight.Proofs.Toml.Lines
import Searchlight.Proofs.Toml.Tables

/-!
# The configuration in effect as a file

What is in effect can be written as one configuration file. The file leaves out what its reader
takes for granted, the path of a field that is its name and an empty list of aliases, and is read as
sections that make the same settings and fields again.
-/

namespace Searchlight.Config

open Toml

variable {place place' : Place} {sources : List Source} {c : Config} {f : FieldMapping}
  {s : FieldSection} {settings : List (String × Option Toml)} {key name path m : String}

/-! ## Settings that are there -/

/-- The entries of the settings that are there. -/
def present (settings : List (String × Option Toml)) : List (String × Toml) :=
  settings.filterMap fun (key, v) => v.map (key, ·)

theorem present_cons (key : String) (v : Option Toml) (settings : List (String × Option Toml)) :
    present ((key, v) :: settings) = (v.map (key, ·)).toList ++ present settings := by
  cases v <;> rfl

theorem map_fst_present (settings : List (String × Option Toml)) :
    ((present settings).map (·.1)).Sublist (settings.map (·.1)) := by
  induction settings with
  | nil => exact .slnil
  | cons e settings ih =>
      obtain ⟨key, v⟩ := e
      cases v with
      | none => exact ih.cons key
      | some v => exact ih.cons_cons key

theorem lookup_present (hkeys : (settings.map (·.1)).Nodup) (key : String) :
    (present settings).lookup key = (settings.lookup key).join := by
  induction settings with
  | nil => rfl
  | cons e settings ih =>
      obtain ⟨k, v⟩ := e
      obtain ⟨hk, hrest⟩ := List.nodup_cons.mp hkeys
      have hnone : (present settings).lookup k = none :=
        lookup_eq_none.mpr fun hmem => hk ((map_fst_present settings).subset hmem)
      rw [present_cons, lookup_entry]
      cases v with
      | none => by_cases h : key = k <;> simp [h, hnone, ih hrest]
      | some v =>
          rw [Option.map_some, Option.toList_some, List.singleton_append, lookup_entry]
          by_cases h : key = k <;> simp [h, ih hrest]

theorem onlyKeys_present (settings : List (String × Option Toml)) :
    onlyKeys (settings.map (·.1)) (present settings) = true := by
  rw [onlyKeys, List.all_eq_true]
  intro e he
  have hmem := (map_fst_present settings).subset (List.mem_map_of_mem he)
  simpa using hmem

/-- A setting is read as it was written, present or not. -/
theorem setting_lookup_present {α : Type} {read : Toml → Option α} {o : Option α}
    (write : α → Toml) (hkeys : (settings.map (·.1)).Nodup)
    (hentry : settings.lookup key = some (o.map write)) (hread : ∀ x, read (write x) = some x) :
    setting read ((present settings).lookup key) = some o := by
  rw [lookup_present hkeys, hentry]
  cases o with
  | none => rfl
  | some x => simp [setting, hread]

/-! ## What is written -/

def indexEntries (s : IndexSettings) : List (String × Option Toml) :=
  [("name", some (.string s.name)), ("default_field", s.defaultField.map .string),
    ("as_filter", some (.boolean s.asFilter)), ("mapping", s.mapping.map .string)]

/-- The section that a field is written as. -/
def sectionOf (f : FieldMapping) : FieldSection where
  type := f.type
  analyzer := f.analyzer
  aliases := f.aliases
  nested := f.nested
  path := if f.path = f.name then none else some f.path

def fieldEntries (f : FieldMapping) : List (String × Option Toml) :=
  [("type", some (.string f.type.name)), ("analyzer", f.analyzer.map .string),
    ("aliases", if f.aliases.isEmpty then none else some (.array (f.aliases.map .string))),
    ("nested", f.nested.map .string), ("path", (sectionOf f).path.map .string)]

theorem spells_optionalLine (hkey : isPlain key = true) (o : Option String) :
    Spells (optionalLine key o) (assignments (present [(key, o.map .string)])) := by
  cases o with
  | none => exact .nil
  | some x =>
      have hvalue := isValue_string x.toList
      rw [String.ofList_toList] at hvalue
      exact spells_line hkey hvalue

theorem spells_aliases (aliases : List String) :
    Spells
      (if aliases.isEmpty then []
       else line "aliases" (writeStrings (aliases.map String.toList)))
      (assignments (present [("aliases",
        if aliases.isEmpty then none else some (.array (aliases.map .string)))])) := by
  split
  · exact .nil
  · have hvalue := isValue_strings (aliases.map String.toList)
    simp only [List.map_map, Function.comp_def, String.ofList_toList] at hvalue
    exact spells_line (by decide) hvalue

theorem assignments_present_cons (key : String) (v : Option Toml)
    (settings : List (String × Option Toml)) :
    assignments (present ((key, v) :: settings)) =
      assignments (present [(key, v)]) ++ assignments (present settings) := by
  rw [assignments, assignments, assignments, ← List.map_append, present_cons, present_cons key v []]
  simp [present]

theorem spells_indexText (s : IndexSettings) :
    Spells (indexText s) (underHeader ["index"] (present (indexEntries s))) := by
  have hheader : Spells "[index]\n".toList [.header ["index"]] := by
    have htext : "[index]\n".toList = '[' :: "index".toList ++ [']', '\n'] := by decide
    rw [htext]
    exact spells_plainHeader (by decide)
  have hname : Spells (line "name" (writeString s.name.toList))
      (assignments (present [("name", some (.string s.name))])) :=
    spells_optionalLine (by decide) (some s.name)
  have hfield := spells_optionalLine (show isPlain "default_field" = true by decide) s.defaultField
  have hfilter : Spells (line "as_filter" (if s.asFilter then "true" else "false").toList)
      (assignments (present [("as_filter", some (.boolean s.asFilter))])) :=
    spells_line (by decide) (isValue_boolean s.asFilter)
  have hmapping := spells_optionalLine (show isPlain "mapping" = true by decide) s.mapping
  unfold indexText
  rw [underHeader, indexEntries, assignments_present_cons, assignments_present_cons "default_field",
    assignments_present_cons "as_filter", ← List.singleton_append, ← List.append_assoc,
    ← List.append_assoc, ← List.append_assoc]
  exact (((hheader.append hname).append hfield).append hfilter).append hmapping

theorem spells_fieldText (f : FieldMapping) :
    Spells (fieldText f) (underHeader ["fields", f.name] (present (fieldEntries f))) := by
  have hheader : Spells ("\n[fields.".toList ++ writeKey f.name.toList ++ "]\n".toList)
      [.header ["fields", f.name]] := by
    have htext : "\n[fields.".toList = '\n' :: '[' :: "fields".toList ++ ['.'] := by decide
    have hend : "]\n".toList = [']', '\n'] := by decide
    have hspells := (spells_dottedHeader (show isPlain "fields" = true by decide) f.name).newline
    rw [htext, hend]
    simpa using hspells
  have htype : Spells (line "type" (writeString f.type.name.toList))
      (assignments (present [("type", some (.string f.type.name))])) :=
    spells_optionalLine (by decide) (some f.type.name)
  have hanalyzer := spells_optionalLine (show isPlain "analyzer" = true by decide) f.analyzer
  have haliases := spells_aliases f.aliases
  have hnested := spells_optionalLine (show isPlain "nested" = true by decide) f.nested
  have hpath := spells_optionalLine (show isPlain "path" = true by decide) (sectionOf f).path
  unfold fieldText
  rw [underHeader, fieldEntries, assignments_present_cons, assignments_present_cons "analyzer",
    assignments_present_cons "aliases", assignments_present_cons "nested",
    ← List.singleton_append, ← List.append_assoc, ← List.append_assoc, ← List.append_assoc,
    ← List.append_assoc]
  exact ((((hheader.append htype).append hanalyzer).append haliases).append hnested).append hpath

/-- The sections of fields. -/
def fieldSections (fields : List FieldMapping) : List (String × List (String × Toml)) :=
  fields.map fun f => (f.name, present (fieldEntries f))

/-- The statements that a configuration is written as. -/
def toStatements (c : Config) : List Statement :=
  underHeader ["index"] (present (indexEntries c.index)) ++
    if c.fields.isEmpty then [.header ["fields"]]
    else (fieldSections c.fields).flatMap fun e => underHeader ["fields", e.1] e.2

theorem spells_toToml (c : Config) : Spells (toToml c).toList (toStatements c) := by
  rw [toToml, String.toList_ofList, toStatements]
  refine (spells_indexText c.index).append ?_
  split
  · have htext : "\n[fields]\n".toList = '\n' :: ('[' :: "fields".toList ++ [']', '\n']) := by
      decide
    rw [htext]
    exact (spells_plainHeader (by decide)).newline
  · rw [fieldSections, List.flatMap_map]
    exact .flatMap fun f _ => spells_fieldText f

/-! ## What it makes -/

theorem nodup_present (hkeys : (settings.map (·.1)).Nodup) : ((present settings).map (·.1)).Nodup :=
  (map_fst_present settings).nodup hkeys

theorem nodup_indexEntries (s : IndexSettings) : ((indexEntries s).map (·.1)).Nodup := by
  show ["name", "default_field", "as_filter", "mapping"].Nodup
  decide

theorem nodup_fieldEntries (f : FieldMapping) : ((fieldEntries f).map (·.1)).Nodup := by
  show ["type", "analyzer", "aliases", "nested", "path"].Nodup
  decide

/-- The table of settings, as it stands before there are fields. -/
def indexRoot (s : IndexSettings) : List (String × Toml) :=
  [("index", .table .header (present (indexEntries s)))]

/-- The tables that the statements of a configuration leave behind. -/
theorem run_toStatements (hnames : (c.fields.map (·.name)).Nodup) :
    ∃ o, ((toStatements c).foldlM Document.step {}).map (·.root) =
      some (indexRoot c.index ++ [("fields", .table o (headed (fieldSections c.fields)))]) := by
  have hindex : (underHeader ["index"] (present (indexEntries c.index))).foldlM
      Document.step {} = some ⟨["index"], indexRoot c.index⟩ :=
    run_section (d := {}) rfl rfl (nodup_present (nodup_indexEntries c.index))
  have hnone : (indexRoot c.index).lookup "fields" = none := by simp [indexRoot, lookup_entry]
  rw [toStatements, List.foldlM_append, hindex, Option.bind_eq_bind, Option.bind_some]
  split
  · rename_i hempty
    rw [List.foldlM_cons, step_header rfl hnone, List.isEmpty_iff.mp hempty]
    exact ⟨.header, rfl⟩
  · rename_i hsome
    have hsections : ((([] : List (String × Toml)) ++
        headed (fieldSections c.fields)).map (·.1)).Nodup := by
      simpa [headed, fieldSections, List.map_map, Function.comp_def] using hnames
    have hentries : ∀ e ∈ fieldSections c.fields, (e.2.map (·.1)).Nodup := by
      intro e he
      obtain ⟨f, -, rfl⟩ := List.mem_map.mp he
      exact nodup_present (nodup_fieldEntries f)
    obtain ⟨current, hrun⟩ :=
      run_subsections (d := ⟨["index"], indexRoot c.index⟩) rfl hnone hsections hentries
    refine ⟨.path, ?_⟩
    rw [hrun, Option.map_some, List.nil_append, withTables, if_neg]
    simpa [headed, fieldSections] using hsome

/-! ## What is read -/

/-- What is read from a configuration that has been written. -/
def asFile (c : Config) : File where
  root := none
  index := some ⟨some c.index.name, c.index.defaultField, some c.index.asFilter, c.index.mapping⟩
  fields := some (c.fields.map fun f => (f.name, sectionOf f))

theorem readIndex_present (s : IndexSettings) :
    readIndex (.table .header (present (indexEntries s))) =
      some ⟨some s.name, s.defaultField, some s.asFilter, s.mapping⟩ := by
  have hkeys : onlyKeys ["name", "default_field", "as_filter", "mapping"]
      (present (indexEntries s)) = true := onlyKeys_present (indexEntries s)
  have hnodup := nodup_indexEntries s
  have hname : setting string? ((present (indexEntries s)).lookup "name") = some (some s.name) :=
    setting_lookup_present Toml.string hnodup (by simp [indexEntries]) fun _ => rfl
  have hfield : setting string? ((present (indexEntries s)).lookup "default_field") =
      some s.defaultField :=
    setting_lookup_present Toml.string hnodup (by simp [indexEntries, lookup_entry]) fun _ => rfl
  have hfilter : setting boolean? ((present (indexEntries s)).lookup "as_filter") =
      some (some s.asFilter) :=
    setting_lookup_present Toml.boolean hnodup (by simp [indexEntries, lookup_entry]) fun _ => rfl
  have hmapping : setting string? ((present (indexEntries s)).lookup "mapping") = some s.mapping :=
    setting_lookup_present Toml.string hnodup (by simp [indexEntries, lookup_entry]) fun _ => rfl
  show (if onlyKeys _ _ then indexSection _ _ _ _ else none) = _
  rw [if_pos hkeys, indexSection, hname, hfield, hfilter, hmapping]
  rfl

theorem readType_name (type : FieldType) : readType (.string type.name) = some type := by
  cases type <;> decide

theorem readStrings_array (strings : List String) :
    readStrings (.array (strings.map .string)) = some strings := by
  show (strings.map Toml.string).mapM string? = some strings
  induction strings with
  | nil => rfl
  | cons x strings ih => simp [List.mapM_cons, ih, string?]

theorem readField_present (f : FieldMapping) :
    readField (.table .header (present (fieldEntries f))) = some (sectionOf f) := by
  have hkeys : onlyKeys ["type", "analyzer", "aliases", "nested", "path"]
      (present (fieldEntries f)) = true := onlyKeys_present (fieldEntries f)
  have hnodup := nodup_fieldEntries f
  have htype : (present (fieldEntries f)).lookup "type" = some (.string f.type.name) := by
    rw [lookup_present hnodup]
    simp [fieldEntries]
  have hanalyzer : setting string? ((present (fieldEntries f)).lookup "analyzer") =
      some f.analyzer :=
    setting_lookup_present Toml.string hnodup (by simp [fieldEntries, lookup_entry]) fun _ => rfl
  have haliases : setting readStrings ((present (fieldEntries f)).lookup "aliases") =
      some (if f.aliases.isEmpty then none else some f.aliases) := by
    refine setting_lookup_present (fun strings => .array (strings.map .string)) hnodup ?_
      readStrings_array
    cases hempty : f.aliases.isEmpty <;> simp [fieldEntries, lookup_entry, hempty]
  have hnested : setting string? ((present (fieldEntries f)).lookup "nested") = some f.nested :=
    setting_lookup_present Toml.string hnodup (by simp [fieldEntries, lookup_entry]) fun _ => rfl
  have hpath : setting string? ((present (fieldEntries f)).lookup "path") =
      some (sectionOf f).path :=
    setting_lookup_present Toml.string hnodup (by simp [fieldEntries, lookup_entry]) fun _ => rfl
  have hgetD : (if f.aliases.isEmpty then none else some f.aliases).getD [] = f.aliases := by
    cases f.aliases <;> rfl
  show (if onlyKeys _ _ then _ else none) = _
  rw [if_pos hkeys, htype, Option.bind_eq_bind, Option.bind_some, fieldSection, readType_name,
    hanalyzer, haliases, hnested, hpath]
  simp only [Option.bind_eq_bind, Option.bind_some, hgetD]
  rfl

theorem readFields_headed (o : Origin) {fields : List FieldMapping}
    (h : InOrder (fields.map fun f => (f.name, sectionOf f))) :
    readFields (.table o (headed (fieldSections fields))) =
      some (fields.map fun f => (f.name, sectionOf f)) := by
  have hread : (headed (fieldSections fields)).mapM (fun e => (readField e.2).map (e.1, ·)) =
      some (fields.map fun f => (f.name, sectionOf f)) := by
    clear h
    induction fields with
    | nil => rfl
    | cons f fields ih =>
        rw [headed, fieldSections] at ih ⊢
        simp only [List.map_cons, List.mapM_cons, readField_present, ih]
        rfl
  have hfold := foldl_insertNamed (show InOrder ([] ++ fields.map _) from h)
  simp only [readFields, entries?, Option.bind_eq_bind, Option.bind_some, hread]
  exact congrArg some hfold

theorem head?_toToml (c : Config) : (toToml c).toList.head? = some '[' := by
  rw [toToml, String.toList_ofList]
  unfold indexText
  rw [List.append_assoc, List.append_assoc, List.append_assoc, List.append_assoc]
  rfl

/-- **A configuration is read back from the file that it is written as.** -/
theorem read?_toToml (h : InOrder (c.fields.map fun f => (f.name, sectionOf f))) :
    File.read? (toToml c) = some (asFile c) := by
  have hnames : (c.fields.map (·.name)).Nodup := by
    rw [InOrder, List.pairwise_map] at h
    exact List.pairwise_map.mpr (h.imp fun hlt => ne_of_lt hlt)
  obtain ⟨o, hroot⟩ := run_toStatements hnames
  have hread := read?_of_spells (spells_toToml c) (by simp [head?_toToml])
  rw [String.ofList_toList, hroot] at hread
  rw [File.read?, hread, Option.bind_some, ofEntries, if_pos]
  · simp [indexRoot, lookup_entry, setting, readIndex_present, readFields_headed o h, asFile]
  · simp [indexRoot, onlyKeys]

/-! ## What it comes to -/

/-- A field passes again every check that it passed. -/
theorem fieldOf_sectionOf (h : fieldOf name s = .ok f) : fieldOf name (sectionOf f) = .ok f := by
  obtain ⟨hname, hpath, hnested, halias, rfl⟩ := fieldOf_eq_ok_iff.mp h
  have hsame : (if s.path.getD name = name then none else some (s.path.getD name)).getD name =
      s.path.getD name := by
    split
    · rename_i heq
      exact heq.symm
    · rfl
  refine fieldOf_eq_ok_iff.mpr ⟨hname, ?_, hnested, halias, ?_⟩
  · -- a path that is not left out was given, so it has been checked
    show (if s.path.getD name = name then none else some (s.path.getD name)).any _ = false
    split
    · rfl
    · rename_i hne
      cases hgiven : s.path with
      | none => exact absurd (by rw [hgiven]; rfl) hne
      | some path => rwa [hgiven] at hpath
  · simp only [sectionOf, hsame]

/-- Sections in order of their names make their fields one after another. -/
theorem addFields_sectionOf {known fields : List (String × FieldMapping)}
    (hmade : ∀ e ∈ fields, fieldOf e.1 (sectionOf e.2) = .ok e.2)
    (horder : InOrder (known ++ fields)) :
    addFields known (fields.map fun e => (e.1, sectionOf e.2)) = .ok (known ++ fields) := by
  induction fields generalizing known with
  | nil => simp [addFields]
  | cons e fields ih =>
      obtain ⟨n, f⟩ := e
      obtain ⟨hf, hmade⟩ := List.forall_mem_cons.mp hmade
      have hbelow := horder.lt_of_append
      have hnone : known.lookup n = none := by
        refine lookup_eq_none.mpr fun hmem => ?_
        obtain ⟨e, he, rfl⟩ := List.mem_map.mp hmem
        exact lt_irrefl _ (hbelow e he)
      have hassoc : known ++ (n, f) :: fields = known ++ [(n, f)] ++ fields := by simp
      rw [hassoc] at horder ⊢
      rw [List.map_cons, addFields, hnone, if_neg (by simp)]
      simp only [hf]
      rw [insertNamed_last hbelow]
      exact ih hmade horder

/-- The path that a mapping document resolved to resolves to itself, from any directory, where it
is still a file. -/
theorem resolveMapping_canonical {directory : String}
    (h : resolveMapping place path directory = .ok m) (hfile : place'.files.isFile m = true)
    (directory' : String) : resolveMapping place' m directory' = .ok m := by
  obtain ⟨expanded, -, h⟩ := bind_eq_ok.mp h
  obtain ⟨whole, hcanonical⟩ : ∃ whole, place.files.canonicalize whole = .ok m := by
    simp only at h
    split at h
    · cases h
    · rename_i canonical hcanonical
      split at h
      · exact Except.ok.inj h ▸ ⟨_, hcanonical⟩
      · cases h
  have habsolute := FileTree.isAbsolute_of_canonicalize hcanonical
  obtain ⟨cs, hcs⟩ := Path.isAbsolute_iff.mp habsolute
  have hexpand : expandHome place'.home m = .ok m := by
    rw [expandHome, hcs]
    rfl
  refine bind_eq_ok.mpr ⟨m, hexpand, ?_⟩
  simp only [habsolute, if_true, FileTree.canonicalize_canonical hcanonical hfile, hfile]

/-- What is known of a configuration that files were merged to. -/
structure IsMerged (c : Config) : Prop where
  inOrder : InOrder (c.fields.map fun f => (f.name, f))
  made : ∀ f ∈ c.fields, ∃ s, fieldOf f.name s = .ok f
  resolved : ∀ m, c.index.mapping = some m →
    ∃ place path directory, resolveMapping place path directory = .ok m

theorem isMerged_of_merge (h : merge place sources = .ok c) : IsMerged c := by
  obtain ⟨hfault, fs, hfs, rfl⟩ := merge_eq_ok.mp h
  have hnamed : (fs.map (·.2)).map (fun f => (f.name, f)) = fs := by
    rw [List.map_map]
    refine (List.map_congr_left fun e he => ?_).trans (List.map_id fs)
    rw [Function.comp_apply, (section_of_mem hfs he).1]
    rfl
  refine ⟨?_, ?_, ?_⟩
  · rw [hnamed]
    exact inOrder_addFields .nil hfs
  · intro f hf
    obtain ⟨⟨name, _⟩, hmem, rfl⟩ := List.mem_map.mp hf
    obtain ⟨rfl, s, -, hs⟩ := section_of_mem hfs hmem
    exact ⟨s, hs⟩
  · intro m hm
    obtain ⟨r, hr, hok⟩ := Option.bind_eq_some_iff.mp hm
    obtain ⟨s, hs, hresolved⟩ := List.exists_of_findSome?_eq_some hr
    obtain ⟨path, -, rfl⟩ := Option.map_eq_some_iff.mp hresolved
    obtain ⟨m', hm'⟩ := farthestFault?_eq_none.mp hfault s hs _ hresolved
    rw [hm'] at hok
    obtain rfl := Option.some.inj hok
    exact ⟨place, path, directoryOf s.path, hm'⟩

/-- The one file that a configuration is written as makes it again. -/
theorem merge_asFile (h : IsMerged c) (path : String)
    (hmapping : ∀ m, c.index.mapping = some m → place'.files.isFile m = true) :
    merge place' [⟨path, asFile c⟩] =
      .ok { c with directory := Path.parent? path, sources := [path] } := by
  have hresolved : Source.resolved? place' ⟨path, asFile c⟩ = c.index.mapping.map .ok := by
    show c.index.mapping.map _ = _
    refine Option.map_congr fun m hm => ?_
    obtain ⟨place, given, directory, hgiven⟩ := h.resolved m hm
    exact resolveMapping_canonical hgiven (hmapping m hm) _
  have hfault : farthestFault? place' [⟨path, asFile c⟩] = none := by
    rw [farthestFault?, farthestFault?, Source.mappingFault?, hresolved]
    cases c.index.mapping <;> rfl
  have hindex : firstSettings place' [⟨path, asFile c⟩] = c.index := by
    have hmapping' : ([(⟨path, asFile c⟩ : Source)].findSome? (Source.resolved? place')).bind
        Except.toOption = c.index.mapping := by
      rw [List.findSome?_singleton, hresolved]
      cases c.index.mapping <;> rfl
    rw [firstSettings, hmapping']
    simp [Source.name?, Source.defaultField?, Source.asFilter?, asFile]
  have hfields : addFields [] ([(⟨path, asFile c⟩ : Source)].flatMap Source.sections) =
      .ok (c.fields.map fun f => (f.name, f)) := by
    have hmade : ∀ e ∈ c.fields.map fun f => (f.name, f),
        fieldOf e.1 (sectionOf e.2) = .ok e.2 := by
      intro e he
      obtain ⟨f, hf, rfl⟩ := List.mem_map.mp he
      obtain ⟨s, hs⟩ := h.made f hf
      exact fieldOf_sectionOf hs
    have hadd : addFields [] _ = .ok ([] ++ c.fields.map fun f => (f.name, f)) :=
      addFields_sectionOf hmade h.inOrder
    rw [List.map_map] at hadd
    rw [List.flatMap_singleton]
    exact hadd
  refine merge_eq_ok.mpr ⟨hfault, _, hfields, ?_⟩
  rw [hindex, List.map_map]
  simp [Function.comp_def]

/-- **The configuration in effect survives being written to a file.** Whatever files it was merged
from, it is written as a text that is read as a configuration file. That file alone, wherever it
lies and whatever else has changed, makes the same settings and the same fields, if the mapping
document is still a file. -/
theorem merge_toToml (h : merge place sources = .ok c) (place' : Place)
    (hmapping : ∀ m, c.index.mapping = some m → place'.files.isFile m = true) (path : String) :
    ∃ file c', File.read? (toToml c) = some file ∧ merge place' [⟨path, file⟩] = .ok c' ∧
      c'.index = c.index ∧ c'.fields = c.fields := by
  have hmerged := isMerged_of_merge h
  have hsections : InOrder (c.fields.map fun f => (f.name, sectionOf f)) := by
    have horder := hmerged.inOrder
    rw [InOrder, List.pairwise_map] at horder ⊢
    exact horder
  exact ⟨asFile c, _, read?_toToml hsections, merge_asFile hmerged path hmapping, rfl, rfl⟩

/-- Names and texts that have to be quoted or escaped, a path that is the name, and a mapping
document that has changed since. -/
theorem merge_toToml_quoted :
    let place : Place :=
      ⟨⟨[([['m'], ['w']], .file "[]"), ([['p'], ['w']], .directory), ([['w']], .directory)]⟩, none⟩
    let place' : Place := ⟨⟨[([['m'], ['w']], .binary), ([['w']], .directory)]⟩, "/home"⟩
    let near : Source := ⟨"/w/p/.ftq.toml",
      { index := some { defaultField := "title" }
        fields := some [("a \"b\".c", { type := .text, analyzer := "two\nlines" }),
          ("title", { type := .keyword, aliases := ["it's", "'''\"\"\"\\"], path := "title" })] }⟩
    let far : Source := ⟨"/w/.ftq.toml",
      { index := some { asFilter := true, mapping := "p/./../m" } }⟩
    let c : Config :=
      { index := { defaultField := "title", asFilter := true, mapping := "/w/m" }
        fields := [
          { name := "a \"b\".c", path := "a \"b\".c", type := .text, analyzer := "two\nlines" },
          { name := "title", path := "title", type := .keyword
            aliases := ["it's", "'''\"\"\"\\"] }]
        directory := "/w/p"
        sources := ["/w/p/.ftq.toml", "/w/.ftq.toml"] }
    merge place [near, far] = .ok c ∧ place'.files.isFile "/w/m" = true ∧
      ∃ file c', File.read? (toToml c) = some file ∧
        merge place' [⟨"/x/.ftq.toml", file⟩] = .ok c' ∧
        c'.index = c.index ∧ c'.fields = c.fields := by
  intro place place' near far c
  have hfs : addFields [] ([near, far].flatMap Source.sections) =
      .ok (c.fields.map fun f => (f.name, f)) := by decide
  have hindex : firstSettings place [near, far] = c.index := by decide
  have hdirectory : Path.parent? near.path = c.directory := by decide
  have hmerge : merge place [near, far] = .ok c := by
    refine merge_eq_ok.mpr ⟨by decide, _, hfs, ?_⟩
    rw [hindex, List.head?_cons, Option.bind_some, hdirectory]
    rfl
  have hfile : place'.files.isFile "/w/m" = true := by decide
  exact ⟨hmerge, hfile, merge_toToml hmerge place' (fun m hm => Option.some.inj hm ▸ hfile) _⟩

end Searchlight.Config
