import Searchlight.Config.Merge
import Searchlight.Proofs.Config.Entries
import Searchlight.Proofs.Result

/-!
# What a merge comes to

Index settings are laid over each other from the farthest file on, and every mapping document
named on the way has to resolve. Where all do, the nearest file that has a setting decides. Field
sections are gone through in the other direction, as if all files were one list of sections, of
which the first of each name counts.
-/

namespace Searchlight.Config

/-! ## What a file says -/

namespace Source

def name? (s : Source) : Option String := s.file.index.bind (·.name)

def defaultField? (s : Source) : Option String := s.file.index.bind (·.defaultField)

def asFilter? (s : Source) : Option Bool := s.file.index.bind (·.asFilter)

def mapping? (s : Source) : Option String := s.file.index.bind (·.mapping)

def sections (s : Source) : List (String × FieldSection) := s.file.fields.getD []

def section? (s : Source) (name : String) : Option FieldSection := s.sections.lookup name

/-- What comes of resolving the mapping document that a file names. -/
def resolved? (place : Place) (s : Source) : Option (Except Error String) :=
  s.mapping?.map fun path => resolveMapping place path (directoryOf s.path)

/-- The fault of the mapping document that a file names. -/
def mappingFault? (place : Place) (s : Source) : Option Error :=
  (s.resolved? place).bind failure?

end Source

variable {place : Place} {sources : List Source} {known fs : List (String × FieldMapping)}
  {entries : List (String × FieldSection)} {name : String} {f : FieldMapping} {s : FieldSection}

/-! ## Index settings -/

/-- The settings of the nearest files that have them. -/
def firstSettings (place : Place) (sources : List Source) : IndexSettings where
  name := (sources.findSome? Source.name?).getD "default"
  defaultField := sources.findSome? Source.defaultField?
  asFilter := (sources.findSome? Source.asFilter?).getD false
  mapping := (sources.findSome? (Source.resolved? place)).bind Except.toOption

/-- The fault of the farthest mapping document that does not resolve. -/
def farthestFault? (place : Place) : List Source → Option Error
  | [] => none
  | s :: farther => (farthestFault? place farther).or (s.mappingFault? place)

/-- A mapping document that resolves is laid over the one below; one that does not fails. -/
theorem layOver_firstSettings (place : Place) (s : Source) (farther : List Source) :
    layOver place (firstSettings place farther) s =
      match s.mappingFault? place with
      | some e => .error e
      | none => .ok (firstSettings place (s :: farther)) := by
  rw [layOver]
  cases hindex : s.file.index with
  | none =>
      simp [firstSettings, Source.mappingFault?, Source.resolved?, Source.name?,
        Source.defaultField?, Source.asFilter?, Source.mapping?, hindex]
  | some section_ =>
      obtain ⟨name, defaultField, asFilter, mapping⟩ := section_
      have hname : (firstSettings place (s :: farther)).name =
          name.getD (firstSettings place farther).name := by
        cases name <;> simp [firstSettings, List.findSome?_cons, Source.name?, hindex]
      have hfield : (firstSettings place (s :: farther)).defaultField =
          defaultField.or (firstSettings place farther).defaultField := by
        cases defaultField <;>
          simp [firstSettings, List.findSome?_cons, Source.defaultField?, hindex]
      have hfilter : (firstSettings place (s :: farther)).asFilter =
          asFilter.getD (firstSettings place farther).asFilter := by
        cases asFilter <;> simp [firstSettings, List.findSome?_cons, Source.asFilter?, hindex]
      have hmapping : (firstSettings place (s :: farther)).mapping =
          match s.resolved? place with
          | none => (firstSettings place farther).mapping
          | some r => r.toOption := by
        show ((s :: farther).findSome? (Source.resolved? place)).bind Except.toOption = _
        rw [List.findSome?_cons]
        cases s.resolved? place <;> rfl
      have hresolved : s.resolved? place =
          mapping.map fun path => resolveMapping place path (directoryOf s.path) := by
        simp [Source.resolved?, Source.mapping?, hindex]
      have heta (t : IndexSettings) :
          t = ⟨t.name, t.defaultField, t.asFilter, t.mapping⟩ := rfl
      rw [heta (firstSettings place (s :: farther)), hname, hfield, hfilter, hmapping,
        Source.mappingFault?, hresolved]
      cases mapping with
      | none => rfl
      | some path =>
          simp only [Option.map_some, Option.bind_some]
          cases resolveMapping place path (directoryOf s.path) <;> rfl

theorem mergeIndex_eq (place : Place) (sources : List Source) :
    mergeIndex place sources =
      match farthestFault? place sources with
      | some e => .error e
      | none => .ok (firstSettings place sources) := by
  induction sources with
  | nil => rfl
  | cons s farther ih =>
      rw [mergeIndex, ih, farthestFault?]
      cases farthestFault? place farther with
      | some e => rfl
      | none => exact layOver_firstSettings place s farther

theorem farthestFault?_eq_none :
    farthestFault? place sources = none ↔
      ∀ s ∈ sources, ∀ r, s.resolved? place = some r → ∃ path, r = .ok path := by
  induction sources with
  | nil => simp [farthestFault?]
  | cons s farther ih =>
      rw [farthestFault?, Option.or_eq_none_iff, ih, List.forall_mem_cons, and_comm]
      refine and_congr_left fun _ => ?_
      rw [Source.mappingFault?, Option.bind_eq_none_iff]
      exact forall₂_congr fun r _ => failure?_eq_none

/-! ## Fields -/

/-- A section makes a field if it passes four checks. -/
theorem fieldOf_eq_ok_iff :
    fieldOf name s = .ok f ↔
      isBlankText name = false ∧ s.path.any isBlankText = false ∧
        s.nested.any isBlankText = false ∧ s.aliases.contains name = false ∧
        f = { name := name, path := s.path.getD name, type := s.type, analyzer := s.analyzer,
              nested := s.nested, aliases := s.aliases } := by
  rw [fieldOf]
  split_ifs with hname hpath hnested halias
  · simp [hname]
  · simp [hpath]
  · simp [hnested]
  · simp only [halias, Bool.true_eq_false, false_and, and_false]
  · simp only [Bool.not_eq_true] at hname hpath hnested halias
    simp only [hname, hpath, hnested, halias, true_and, Except.ok.injEq]
    exact eq_comm

/-- A field that a section makes takes nothing from anywhere else. -/
theorem fieldOf_eq_ok (h : fieldOf name s = .ok f) :
    f = { name := name, path := s.path.getD name, type := s.type, analyzer := s.analyzer,
          nested := s.nested, aliases := s.aliases } :=
  (fieldOf_eq_ok_iff.mp h).2.2.2.2

theorem addFields_append (known : List (String × FieldMapping))
    (xs ys : List (String × FieldSection)) :
    addFields known (xs ++ ys) = addFields known xs >>= fun known => addFields known ys := by
  induction xs generalizing known with
  | nil => rfl
  | cons x rest ih =>
      obtain ⟨n, s⟩ := x
      rw [List.cons_append, addFields, addFields]
      split
      · exact ih known
      · cases fieldOf n s with
        | error fault => rfl
        | ok f => exact ih (insertNamed n f known)

/-- The sections of all files are gone through as one list. -/
theorem mergeFields_eq (known : List (String × FieldMapping)) (sources : List Source) :
    mergeFields known sources = addFields known (sources.flatMap Source.sections) := by
  induction sources generalizing known with
  | nil => rfl
  | cons s farther ih =>
      rw [mergeFields, List.flatMap_cons, addFields_append]
      exact congrArg _ (funext ih)

theorem lookup_sections (sources : List Source) (name : String) :
    (sources.flatMap Source.sections).lookup name = sources.findSome? (·.section? name) := by
  induction sources with
  | nil => rfl
  | cons s farther ih =>
      rw [List.flatMap_cons, List.lookup_append, ih, List.findSome?_cons, Source.section?]
      cases s.sections.lookup name <;> rfl

/-- A name keeps the field that it has; without one, its first section makes the field. -/
theorem lookup_addFields (h : addFields known entries = .ok fs) (name : String) :
    (known.lookup name).isSome ∧ fs.lookup name = known.lookup name ∨
      known.lookup name = none ∧ entries.lookup name = none ∧ fs.lookup name = none ∨
      ∃ s f, known.lookup name = none ∧ entries.lookup name = some s ∧
        fieldOf name s = .ok f ∧ fs.lookup name = some f := by
  induction entries generalizing known with
  | nil =>
      obtain rfl := Except.ok.inj h
      cases known.lookup name <;> simp
  | cons e rest ih =>
      obtain ⟨n, s⟩ := e
      rw [addFields] at h
      rw [lookup_entry]
      split at h
      · rename_i hn
        by_cases hname : name = n
        · subst hname
          rcases ih h with hknown | ⟨hnone, -⟩ | ⟨-, -, hnone, -⟩
          · exact .inl hknown
          · simp [hnone] at hn
          · simp [hnone] at hn
        · rw [if_neg hname]
          exact ih h
      · rename_i hn
        split at h
        · cases h
        · rename_i f hf
          by_cases hname : name = n
          · subst hname
            have hnone : known.lookup name = none := Option.not_isSome_iff_eq_none.mp hn
            have hhere : (insertNamed name f known).lookup name = some f := by
              rw [lookup_insertNamed, if_pos rfl]
            rcases ih h with ⟨-, hkept⟩ | ⟨hno, -⟩ | ⟨-, -, hno, -⟩
            · exact .inr (.inr ⟨s, f, hnone, if_pos rfl, hf, hkept.trans hhere⟩)
            · cases hhere.symm.trans hno
            · cases hhere.symm.trans hno
          · have hother : (insertNamed n f known).lookup name = known.lookup name := by
              rw [lookup_insertNamed, if_neg hname]
            rw [if_neg hname, ← hother]
            exact ih h

theorem inOrder_addFields (hknown : InOrder known) (h : addFields known entries = .ok fs) :
    InOrder fs := by
  induction entries generalizing known with
  | nil => exact Except.ok.inj h ▸ hknown
  | cons e rest ih =>
      obtain ⟨n, s⟩ := e
      rw [addFields] at h
      split at h
      · exact ih hknown h
      · split at h
        · cases h
        · exact ih (hknown.insertNamed _ _) h

/-- Only the first section of a name that is not known has to make a field. -/
theorem exists_addFields_iff :
    (∃ fs, addFields known entries = .ok fs) ↔
      ∀ name s, known.lookup name = none → entries.lookup name = some s →
        ∃ f, fieldOf name s = .ok f := by
  induction entries generalizing known with
  | nil => simp [addFields]
  | cons e rest ih =>
      obtain ⟨n, s⟩ := e
      rw [addFields]
      split
      · rename_i hn
        rw [ih]
        refine forall₂_congr fun name s' => imp_congr_right fun hnone => ?_
        have hne : name ≠ n := by
          rintro rfl
          simp [hnone] at hn
        rw [lookup_entry, if_neg hne]
      · rename_i hn
        have hnone : known.lookup n = none := Option.not_isSome_iff_eq_none.mp hn
        cases hf : fieldOf n s with
        | error fault =>
            refine iff_of_false (by simp) fun hall => ?_
            obtain ⟨f, hf'⟩ := hall n s hnone (by rw [lookup_entry, if_pos rfl])
            cases hf.symm.trans hf'
        | ok f =>
            rw [ih]
            refine forall₂_congr fun name s' => ?_
            rw [lookup_insertNamed, lookup_entry]
            by_cases hname : name = n
            · subst hname
              simpa [hnone] using fun h : s = s' => h ▸ ⟨f, hf⟩
            · simp [hname]

end Searchlight.Config
