import Searchlight.Proofs.Config.Merging

/-!
# Settings that a nearer file shadows

Two lists of files may differ in what no one is meant to see: settings and field sections of which
a nearer file has one of the same name. A merge gives the same for both, but for one thing. Every
mapping document that is named is looked up, also behind one that shadows it, and where such a
document does not resolve its fault is all that the merge gives.
-/

namespace Searchlight.Config

variable {α : Type} {place : Place} {get : Source → Option α} {a b s : Source}
  {as bs sources : List Source} {xs ys : List (String × FieldSection)}
  {known fs : List (String × FieldMapping)}

/-! ## Files that differ in shadowed entries only -/

/-- What two lists of files have for an entry is the same in every file before which no nearer one
has it. -/
def AgreeUnshadowed (get : Source → Option α) (as bs : List Source) : Prop :=
  ∀ i, (∀ s ∈ as.take i, get s = none) → as[i]?.bind get = bs[i]?.bind get

/-- The same files, but for entries of which a nearer file has one of the same name. -/
structure SameUnshadowed (as bs : List Source) : Prop where
  paths : as.map (·.path) = bs.map (·.path)
  roots : as.map (·.file.root) = bs.map (·.file.root)
  name : AgreeUnshadowed Source.name? as bs
  defaultField : AgreeUnshadowed Source.defaultField? as bs
  asFilter : AgreeUnshadowed Source.asFilter? as bs
  mapping : AgreeUnshadowed Source.mapping? as bs
  section_ : ∀ name, AgreeUnshadowed (·.section? name) as bs

theorem agreeUnshadowed_cons :
    AgreeUnshadowed get (a :: as) (b :: bs) ↔
      get a = get b ∧ (get a = none → AgreeUnshadowed get as bs) := by
  constructor
  · intro h
    refine ⟨by simpa using h 0 (by simp), fun ha i hopen => ?_⟩
    have hall : ∀ s ∈ (a :: as).take (i + 1), get s = none := by
      rw [List.take_succ_cons]
      exact List.forall_mem_cons.mpr ⟨ha, hopen⟩
    simpa using h (i + 1) hall
  · rintro ⟨hhead, htail⟩ (_ | i) hopen
    · simpa using hhead
    · rw [List.take_succ_cons, List.forall_mem_cons] at hopen
      simpa using htail hopen.1 i hopen.2

/-- So the nearest file that has the entry has the same in both. -/
theorem AgreeUnshadowed.findSome?_eq (h : AgreeUnshadowed get as bs)
    (hlength : as.length = bs.length) : as.findSome? get = bs.findSome? get := by
  induction as generalizing bs with
  | nil => rw [List.length_eq_zero_iff.mp hlength.symm]
  | cons a as ih =>
      cases bs with
      | nil => cases hlength
      | cons b bs =>
          obtain ⟨hhead, htail⟩ := agreeUnshadowed_cons.mp h
          rw [List.findSome?_cons, List.findSome?_cons, ← hhead]
          cases ha : get a with
          | some v => rfl
          | none => exact ih (htail ha) (Nat.succ.inj hlength)

theorem SameUnshadowed.length_eq (h : SameUnshadowed as bs) : as.length = bs.length := by
  simpa using congrArg List.length h.paths

/-- Files of the same place that name the same document resolve it in the same way. -/
theorem SameUnshadowed.resolved (h : SameUnshadowed as bs) (place : Place) :
    AgreeUnshadowed (Source.resolved? place) as bs := by
  intro i hopen
  have hpath : as[i]?.map (·.path) = bs[i]?.map (·.path) := by
    rw [← List.getElem?_map, ← List.getElem?_map, h.paths]
  have hmapping := h.mapping i fun s hs => Option.map_eq_none_iff.mp (hopen s hs)
  cases ha : as[i]? with
  | none =>
      rw [ha, Option.map_none, eq_comm, Option.map_eq_none_iff] at hpath
      rw [hpath]
  | some a =>
      rw [ha, Option.map_some, eq_comm, Option.map_eq_some_iff] at hpath
      obtain ⟨b, hb, hsame⟩ := hpath
      rw [ha, hb, Option.bind_some, Option.bind_some] at hmapping
      rw [hb, Option.bind_some, Option.bind_some, Source.resolved?, Source.resolved?, hmapping,
        hsame]

/-! ## Mapping documents -/

/-- The fault of the farthest mapping document that does not resolve, among those that a nearer one
shadows. -/
def shadowedFault? (place : Place) : List Source → Option Error
  | [] => none
  | s :: farther =>
    if s.mapping?.isSome then farthestFault? place farther else shadowedFault? place farther

/-- Shadowed documents come before the one that counts. -/
theorem farthestFault?_eq (place : Place) (sources : List Source) :
    farthestFault? place sources = (shadowedFault? place sources).or
      ((sources.findSome? (Source.resolved? place)).bind failure?) := by
  induction sources with
  | nil => rfl
  | cons s farther ih =>
      rw [farthestFault?, shadowedFault?, List.findSome?_cons, Source.mappingFault?,
        Source.resolved?]
      cases s.mapping? with
      | some path => rfl
      | none => rw [ih]; simp

/-- There is none if all documents behind one that shadows them resolve. -/
theorem shadowedFault?_eq_none :
    shadowedFault? place sources = none ↔
      ∀ nearer s farther, sources = nearer ++ s :: farther →
        (∃ t ∈ nearer, t.mapping?.isSome) →
          ∀ r, s.resolved? place = some r → ∃ path, r = .ok path := by
  induction sources with
  | nil => simp [shadowedFault?]
  | cons t rest ih =>
      rw [shadowedFault?]
      split
      · rename_i ht
        rw [farthestFault?_eq_none]
        constructor
        · rintro hall (_ | ⟨_, nearer⟩) s farther heq ⟨u, hu, -⟩
          · cases hu
          · obtain ⟨rfl, rfl⟩ := List.cons.inj heq
            exact hall s (by simp)
        · intro hall s hs
          obtain ⟨nearer, farther, rfl⟩ := List.append_of_mem hs
          exact hall (t :: nearer) s farther rfl ⟨t, List.mem_cons_self, ht⟩
      · rename_i ht
        rw [ih]
        constructor
        · rintro hall (_ | ⟨_, nearer⟩) s farther heq ⟨u, hu, husome⟩
          · cases hu
          · obtain ⟨rfl, rfl⟩ := List.cons.inj heq
            rcases List.mem_cons.mp hu with rfl | hu
            · exact absurd husome ht
            · exact hall nearer s farther rfl ⟨u, hu, husome⟩
        · rintro hall nearer s farther rfl ⟨u, hu, husome⟩
          exact hall (t :: nearer) s farther rfl ⟨u, List.mem_cons_of_mem t hu, husome⟩

/-! ## Fields -/

/-- Sections of names that are known are passed over. -/
theorem addFields_filter (known : List (String × FieldMapping))
    (xs : List (String × FieldSection)) :
    addFields known xs = addFields known (xs.filter fun e => (known.lookup e.1).isNone) := by
  -- more and more names become known, so the filter is only asked to keep enough
  suffices hkeep : ∀ (keep : String → Bool) known,
      (∀ name, keep name = false → (known.lookup name).isSome) →
        addFields known xs = addFields known (xs.filter fun e => keep e.1) from
    hkeep (fun name => (known.lookup name).isNone) known fun name => by simp
  intro keep
  induction xs with
  | nil => exact fun _ _ => rfl
  | cons e rest ih =>
      intro known hknown
      obtain ⟨n, s⟩ := e
      rw [List.filter_cons]
      cases hn : keep n with
      | false => rw [addFields, if_pos (hknown n hn), if_neg (by simp), ih known hknown]
      | true =>
          rw [if_pos rfl, addFields, addFields]
          split
          · exact ih known hknown
          · cases fieldOf n s with
            | error fault => rfl
            | ok f =>
                refine ih _ fun name hname => ?_
                rw [lookup_insertNamed]
                split
                · rfl
                · exact hknown name hname

/-- Two files whose sections of new names are the same add the same fields. -/
theorem addFields_congr (hx : InOrder xs) (hy : InOrder ys)
    (h : ∀ name, known.lookup name = none → xs.lookup name = ys.lookup name) :
    addFields known xs = addFields known ys := by
  rw [addFields_filter known xs, addFields_filter known ys]
  refine congrArg _ (InOrder.ext (hx.filter _) (hy.filter _) fun name => ?_)
  rw [lookup_filter fun n => (known.lookup n).isNone,
    lookup_filter fun n => (known.lookup n).isNone]
  split
  · exact h name (Option.isNone_iff_eq_none.mp ‹_›)
  · rfl

/-- A name that is still open behind a file was open before it, and has no section there. -/
theorem open_of_addFields (h : addFields known xs = .ok fs) {name : String}
    (hopen : fs.lookup name = none) : known.lookup name = none ∧ xs.lookup name = none := by
  rcases lookup_addFields h name with ⟨hsome, hkept⟩ | ⟨hnone, hno, -⟩ | ⟨s, f, -, -, -, hf⟩
  · rw [← hkept, hopen] at hsome
    cases hsome
  · exact ⟨hnone, hno⟩
  · cases hf.symm.trans hopen

theorem mergeFields_congr (hlength : as.length = bs.length)
    (ha : ∀ s ∈ as, InOrder s.sections) (hb : ∀ s ∈ bs, InOrder s.sections)
    (h : ∀ name, known.lookup name = none → AgreeUnshadowed (·.section? name) as bs) :
    mergeFields known as = mergeFields known bs := by
  induction as generalizing bs known with
  | nil => rw [List.length_eq_zero_iff.mp hlength.symm]
  | cons a as ih =>
      cases bs with
      | nil => cases hlength
      | cons b bs =>
          obtain ⟨ha, has⟩ := List.forall_mem_cons.mp ha
          obtain ⟨hb, hbs⟩ := List.forall_mem_cons.mp hb
          have hhere : addFields known a.sections = addFields known b.sections :=
            addFields_congr ha hb fun name hname => (agreeUnshadowed_cons.mp (h name hname)).1
          rw [mergeFields, mergeFields]
          show (addFields known a.sections >>= _) = (addFields known b.sections >>= _)
          rw [← hhere]
          cases hadded : addFields known a.sections with
          | error e => rfl
          | ok known' =>
              refine ih (Nat.succ.inj hlength) has hbs fun name hopen => ?_
              obtain ⟨hknown, hnone⟩ := open_of_addFields hadded hopen
              exact (agreeUnshadowed_cons.mp (h name hknown)).2 hnone

/-! ## The whole -/

/-- What a merge comes to as long as no shadowed mapping document fails. -/
def effective (place : Place) (sources : List Source) : Except Error Config :=
  match (sources.findSome? (Source.resolved? place)).bind failure? with
  | some e => .error e
  | none => do
    let fields ← mergeFields [] sources
    .ok {
      index := firstSettings place sources
      fields := fields.map (·.2)
      directory := sources.head?.bind fun s => Path.parent? s.path
      sources := sources.map (·.path) }

theorem merge_eq (place : Place) (sources : List Source) :
    merge place sources =
      (shadowedFault? place sources).elim (effective place sources) .error := by
  rw [merge, mergeIndex_eq, farthestFault?_eq]
  cases shadowedFault? place sources with
  | some e => rfl
  | none =>
      rw [Option.none_or, Option.elim_none, effective]
      cases (sources.findSome? (Source.resolved? place)).bind failure? <;> rfl

/-- Shadowed entries do not count for it. -/
theorem effective_congr (place : Place) (h : SameUnshadowed as bs)
    (ha : ∀ s ∈ as, InOrder s.sections) (hb : ∀ s ∈ bs, InOrder s.sections) :
    effective place as = effective place bs := by
  have hresolved : as.findSome? (Source.resolved? place) = bs.findSome? (Source.resolved? place) :=
    (h.resolved place).findSome?_eq h.length_eq
  have hsettings : firstSettings place as = firstSettings place bs := by
    rw [firstSettings, firstSettings, h.name.findSome?_eq h.length_eq,
      h.defaultField.findSome?_eq h.length_eq, h.asFilter.findSome?_eq h.length_eq, hresolved]
  have hfields : mergeFields [] as = mergeFields [] bs :=
    mergeFields_congr h.length_eq ha hb fun name _ => h.section_ name
  have hdirectory : (as.head?.bind fun s => Path.parent? s.path) =
      bs.head?.bind fun s => Path.parent? s.path := by
    have hhead := congrArg (fun paths => paths.head?.bind Path.parent?) h.paths
    simpa [List.head?_map, Option.bind_map, Function.comp_def] using hhead
  rw [effective, effective, hresolved, hsettings, hfields, hdirectory, h.paths]

/-- **Shadowed entries change nothing unless a shadowed mapping document does not resolve.** Files
that are the same but for shadowed entries have one outcome in common, settings and fields or a
fault. A merge gives it, unless some mapping document that a nearer one shadows does not resolve;
then it gives the fault of the farthest of these. -/
theorem merge_unshadowed (place : Place) (h : SameUnshadowed as bs)
    (ha : ∀ s ∈ as, InOrder s.sections) (hb : ∀ s ∈ bs, InOrder s.sections) :
    ∃ outcome, merge place as = (shadowedFault? place as).elim outcome .error ∧
      merge place bs = (shadowedFault? place bs).elim outcome .error :=
  ⟨effective place as, merge_eq place as,
    effective_congr place h ha hb ▸ merge_eq place bs⟩

/-- Settings, sections and a mapping document of the farther file that the nearer one has too: taken
out, they are not missed. -/
theorem merge_unshadowed_two_files :
    let place : Place := ⟨⟨[([['m'], ['w']], .file "{}"), ([['w']], .directory)]⟩, none⟩
    let title : String × FieldSection := ("title", { type := .keyword })
    let near : Source := ⟨"/w/p/.ftq.toml",
      { index := some { defaultField := "title", mapping := "/w/m" }, fields := some [title] }⟩
    let far : Source := ⟨"/w/.ftq.toml",
      { index := some { name := "logs", defaultField := "body", mapping := "m" }
        fields := some [("body", { type := .text }), ("title", { type := .long, path := " " })] }⟩
    let bare : Source := ⟨"/w/.ftq.toml",
      { index := some { name := "logs" }, fields := some [("body", { type := .text })] }⟩
    SameUnshadowed [near, far] [near, bare] ∧
      (∀ s ∈ [near, far], InOrder s.sections) ∧ (∀ s ∈ [near, bare], InOrder s.sections) ∧
      shadowedFault? place [near, far] = none ∧ shadowedFault? place [near, bare] = none ∧
      (merge place [near, far] = merge place [near, bare]) := by
  intro place title near far bare
  have hsame : SameUnshadowed [near, far] [near, bare] := by
    refine ⟨rfl, rfl, ?_, ?_, ?_, ?_, fun name => ?_⟩
    all_goals rw [agreeUnshadowed_cons, agreeUnshadowed_cons]
    · exact ⟨rfl, fun _ => ⟨rfl, fun h => by cases h⟩⟩
    · exact ⟨rfl, fun h => by cases h⟩
    · exact ⟨rfl, fun _ => ⟨rfl, fun _ _ _ => rfl⟩⟩
    · exact ⟨rfl, fun h => by cases h⟩
    · refine ⟨rfl, fun hnear => ⟨?_, fun _ _ _ => rfl⟩⟩
      have hname : name ≠ "title" := by
        rintro rfl
        cases hnear
      simp [Source.section?, Source.sections, far, bare, lookup_entry, hname]
  -- the sections are in order as the files can be read
  have hnear : File.read? ("[index]\ndefault_field = \"title\"\nmapping = \"/w/m\"\n" ++
      "[fields.title]\ntype = \"keyword\"\n") = some near.file := by decide +kernel
  have hfar : File.read? ("[index]\nname = \"logs\"\ndefault_field = \"body\"\n" ++
      "mapping = \"m\"\n[fields.title]\ntype = \"long\"\npath = \" \"\n[fields.body]\ntype = \"text\"\n") =
        some far.file := by decide +kernel
  have hbare : File.read? "[index]\nname = \"logs\"\n[fields.body]\ntype = \"text\"\n" =
      some bare.file := by decide +kernel
  have hfars : ∀ s ∈ [near, far], InOrder s.sections := by
    rw [List.forall_mem_cons, List.forall_mem_singleton]
    exact ⟨inOrder_of_read hnear, inOrder_of_read hfar⟩
  have hbares : ∀ s ∈ [near, bare], InOrder s.sections := by
    rw [List.forall_mem_cons, List.forall_mem_singleton]
    exact ⟨inOrder_of_read hnear, inOrder_of_read hbare⟩
  have hfault : shadowedFault? place [near, far] = none := by decide
  have hfault' : shadowedFault? place [near, bare] = none := by decide
  refine ⟨hsame, hfars, hbares, hfault, hfault', ?_⟩
  obtain ⟨outcome, heq, heq'⟩ := merge_unshadowed place hsame hfars hbares
  rw [heq, heq', hfault, hfault']

/-- A document that does not exist, named behind a file that names one that does: the merge fails,
although it succeeds without that entry. -/
theorem merge_fails_on_shadowed_mapping :
    let place : Place := ⟨⟨[([['m'], ['w']], .file "{}"), ([['w']], .directory)]⟩, none⟩
    let near : Source := ⟨"/w/p/.ftq.toml", { index := some { mapping := "/w/m" } }⟩
    let far : Source := ⟨"/w/.ftq.toml", { index := some { mapping := "n" } }⟩
    let bare : Source := ⟨"/w/.ftq.toml", { index := some {} }⟩
    (SameUnshadowed [near, far] [near, bare] ∧
      (∀ s ∈ [near, far], InOrder s.sections) ∧ ∀ s ∈ [near, bare], InOrder s.sections) ∧
      merge place [near, far] = .error (.unresolved "/w/n" .notFound) ∧
      (∃ c, merge place [near, bare] = .ok c) ∧
      merge place [near, far] ≠ merge place [near, bare] := by
  intro place near far bare
  have hsame : SameUnshadowed [near, far] [near, bare] := by
    refine ⟨rfl, rfl, ?_, ?_, ?_, ?_, fun name => ?_⟩
    all_goals rw [agreeUnshadowed_cons, agreeUnshadowed_cons]
    · exact ⟨rfl, fun _ => ⟨rfl, fun _ _ _ => rfl⟩⟩
    · exact ⟨rfl, fun _ => ⟨rfl, fun _ _ _ => rfl⟩⟩
    · exact ⟨rfl, fun _ => ⟨rfl, fun _ _ _ => rfl⟩⟩
    · exact ⟨rfl, fun h => by cases h⟩
    · exact ⟨rfl, fun _ => ⟨rfl, fun _ _ _ => rfl⟩⟩
  have hfault : shadowedFault? place [near, far] = some (.unresolved "/w/n" .notFound) := by decide
  have hfar : merge place [near, far] = .error (.unresolved "/w/n" .notFound) := by
    rw [merge_eq, hfault]
    rfl
  have hbare : ∃ c, merge place [near, bare] = .ok c := by
    have hindex : mergeIndex place [near, bare] = .ok { mapping := "/w/m" } := by decide
    exact ⟨_, by rw [merge, hindex]; rfl⟩
  refine ⟨⟨hsame, ?_, ?_⟩, hfar, hbare, ?_⟩
  · simp [InOrder, Source.sections, near, far]
  · simp [InOrder, Source.sections, near, bare]
  · obtain ⟨c, hc⟩ := hbare
    rw [hfar, hc]
    simp

end Searchlight.Config
