import Searchlight.Proofs.Config.Merging

/-!
# The first definition wins

A merge succeeds where every mapping document named in any file resolves and every first section of
a name makes a field. Then each setting is that of the nearest file that has it, and each field is
made from the nearest section of its name alone.
-/

namespace Searchlight.Config

variable {place : Place} {sources : List Source} {fs : List (String × FieldMapping)} {c : Config}

theorem merge_eq_ok :
    merge place sources = .ok c ↔
      farthestFault? place sources = none ∧
        ∃ fs, addFields [] (sources.flatMap Source.sections) = .ok fs ∧
          c = { index := firstSettings place sources
                fields := fs.map (·.2)
                directory := sources.head?.bind fun s => Path.parent? s.path
                sources := sources.map (·.path) } := by
  rw [merge, mergeIndex_eq, bind_eq_ok]
  simp only [bind_eq_ok, mergeFields_eq]
  cases farthestFault? place sources with
  | some e => simp
  | none =>
      constructor
      · rintro ⟨index, hindex, fs, hfs, hc⟩
        obtain rfl := Except.ok.inj hindex
        exact ⟨rfl, fs, hfs, (Except.ok.inj hc).symm⟩
      · rintro ⟨-, fs, hfs, rfl⟩
        exact ⟨_, rfl, fs, hfs, rfl⟩

/-- Every field comes from the first section of its name. -/
theorem section_of_mem {entries : List (String × FieldSection)}
    (h : addFields [] entries = .ok fs) {name : String} {f : FieldMapping}
    (hf : (name, f) ∈ fs) :
    f.name = name ∧ ∃ s, entries.lookup name = some s ∧ fieldOf name s = .ok f := by
  have hlookup : fs.lookup name = some f :=
    (inOrder_addFields .nil h).lookup_of_mem hf
  rcases lookup_addFields h name with ⟨hknown, -⟩ | ⟨-, -, hnone⟩ | ⟨s, f', -, hs, hf', hfs⟩
  · cases hknown
  · cases hnone.symm.trans hlookup
  · obtain rfl := Option.some.inj (hfs.symm.trans hlookup)
    exact ⟨by rw [fieldOf_eq_ok hf'], s, hs, hf'⟩

/-- The names of the fields are those of the sections. -/
theorem mem_names_of_addFields {entries : List (String × FieldSection)}
    (h : addFields [] entries = .ok fs) (name : String) :
    name ∈ fs.map (·.1) ↔ name ∈ entries.map (·.1) := by
  rw [← not_iff_not, ← lookup_eq_none, ← lookup_eq_none]
  rcases lookup_addFields h name with ⟨hknown, -⟩ | ⟨-, hno, hnone⟩ | ⟨s, f, -, hs, -, hf⟩
  · cases hknown
  · exact iff_of_true hnone hno
  · simp [hs, hf]

/-- **A merge takes the first definition of everything.** It succeeds where all mapping documents
resolve and the first section of each name makes a field. Its index settings are those of the
nearest files that have them, the mapping document resolved from the directory of its own file. Its
fields increase by name, there is one for each name that has a section anywhere, and each takes
everything from the nearest section of its name. -/
theorem merge_first_defined (place : Place) (sources : List Source) :
    ((∀ s ∈ sources, ∀ r, s.resolved? place = some r → ∃ path, r = .ok path) →
      (∀ name s, sources.findSome? (·.section? name) = some s → ∃ f, fieldOf name s = .ok f) →
        ∃ c, merge place sources = .ok c) ∧
    ∀ c, merge place sources = .ok c →
      c.index.name = (sources.findSome? Source.name?).getD "default" ∧
      c.index.defaultField = sources.findSome? Source.defaultField? ∧
      c.index.asFilter = (sources.findSome? Source.asFilter?).getD false ∧
      sources.findSome? (Source.resolved? place) = c.index.mapping.map .ok ∧
      c.fields.Pairwise (fun f g => f.name < g.name) ∧
      (∀ name, name ∈ c.fields.map (·.name) ↔ ∃ s ∈ sources, name ∈ s.sections.map (·.1)) ∧
      (∀ f ∈ c.fields, ∃ s, sources.findSome? (·.section? f.name) = some s ∧
        fieldOf f.name s = .ok f ∧
        f = { name := f.name, path := s.path.getD f.name, type := s.type, analyzer := s.analyzer,
              nested := s.nested, aliases := s.aliases }) ∧
      c.sources = sources.map (·.path) := by
  constructor
  · intro hmappings hfields
    have hfault : farthestFault? place sources = none := farthestFault?_eq_none.mpr hmappings
    obtain ⟨fs, hfs⟩ : ∃ fs, addFields [] (sources.flatMap Source.sections) = .ok fs :=
      exists_addFields_iff.mpr fun name s _ hs => hfields name s (lookup_sections sources name ▸ hs)
    exact ⟨_, merge_eq_ok.mpr ⟨hfault, fs, hfs, rfl⟩⟩
  · intro c hc
    obtain ⟨hfault, fs, hfs, rfl⟩ := merge_eq_ok.mp hc
    have hnames : (fs.map (·.2)).map (·.name) = fs.map (·.1) := by
      rw [List.map_map]
      exact List.map_congr_left fun e he => (section_of_mem hfs he).1
    refine ⟨rfl, rfl, rfl, ?_, ?_, ?_, ?_, rfl⟩
    · cases hfirst : sources.findSome? (Source.resolved? place) with
      | none => simp [firstSettings, hfirst]
      | some r =>
          obtain ⟨s, hs, hr⟩ := List.exists_of_findSome?_eq_some hfirst
          obtain ⟨path, rfl⟩ := farthestFault?_eq_none.mp hfault s hs r hr
          simp [firstSettings, hfirst, Except.toOption]
    · rw [← List.pairwise_map, hnames, List.pairwise_map]
      exact inOrder_addFields .nil hfs
    · intro name
      rw [hnames, mem_names_of_addFields hfs, List.map_flatMap, List.mem_flatMap]
    · intro f hf
      obtain ⟨⟨name, _⟩, hmem, rfl⟩ := List.mem_map.mp hf
      obtain ⟨rfl, s, hs, hmade⟩ := section_of_mem hfs hmem
      exact ⟨s, lookup_sections sources _ ▸ hs, hmade, fieldOf_eq_ok hmade⟩

/-- A setting of either file, a mapping document of the farther one, and a field of which the
farther section says more. -/
theorem merge_first_defined_two_files :
    let place : Place := ⟨⟨[([['m'], ['w']], .file "{}"), ([['w']], .directory)]⟩, none⟩
    let near : Source := ⟨"/w/p/.ftq.toml",
      { index := some { defaultField := "title" }
        fields := some [("title", { type := .keyword })] }⟩
    let far : Source := ⟨"/w/.ftq.toml",
      { index := some { name := "logs", defaultField := "body", mapping := "m" }
        fields := some [("body", { type := .text, path := "b" }),
          ("title", { type := .text, aliases := ["heading"] })] }⟩
    let body : FieldMapping := { name := "body", path := "b", type := .text }
    let title : FieldMapping := { name := "title", path := "title", type := .keyword }
    let c : Config :=
      { index := { name := "logs", defaultField := "title", mapping := "/w/m" }
        fields := [body, title]
        directory := "/w/p"
        sources := ["/w/p/.ftq.toml", "/w/.ftq.toml"] }
    (∃ c, merge place [near, far] = .ok c) ∧
      merge place [near, far] = .ok c ∧
      [near, far].findSome? Source.name? = some c.index.name ∧
      [near, far].findSome? Source.defaultField? = some "title" ∧
      [near, far].findSome? (Source.resolved? place) = some (.ok "/w/m") ∧
      ∃ s, [near, far].findSome? (·.section? "title") = some s ∧ fieldOf "title" s = .ok title ∧
        title.aliases = s.aliases := by
  intro place near far body title c
  have hfault : farthestFault? place [near, far] = none := by decide
  have hfs : addFields [] ([near, far].flatMap Source.sections) =
      .ok [("body", body), ("title", title)] := by decide
  have hindex : firstSettings place [near, far] = c.index := by decide
  have hdirectory : Path.parent? near.path = c.directory := by decide
  have hmerge : merge place [near, far] = .ok c := by
    refine merge_eq_ok.mpr ⟨hfault, _, hfs, ?_⟩
    rw [hindex, List.head?_cons, Option.bind_some, hdirectory]
    rfl
  obtain ⟨hsucceeds, hfirst⟩ := merge_first_defined place [near, far]
  obtain ⟨hname, hfield, -, hmapping, -, -, hfields, -⟩ := hfirst c hmerge
  obtain ⟨s, hs, hmade, heq⟩ := hfields title (by decide)
  refine ⟨hsucceeds (farthestFault?_eq_none.mp hfault) ?_, hmerge, by rw [hname]; rfl, hfield.symm,
    hmapping, s, hs, hmade, congrArg FieldMapping.aliases heq⟩
  intro name s hs
  exact exists_addFields_iff.mp ⟨_, hfs⟩ name s rfl (lookup_sections _ name ▸ hs)

end Searchlight.Config
