import Searchlight.Proofs.Field.Lookup
import Searchlight.Config.Check

/-!
# What the check warns about

Each warning comes from one part of the check: the mappings as a whole, the default field,
the walk through the aliases, or a single field.
-/

namespace Searchlight.Config

variable {default : Option String} {m : Mappings} {f : FieldMapping} {w : Warning}

theorem mem_fieldWarnings :
    w ∈ fieldWarnings f ↔
      (∃ nested, f.nested = some nested ∧ ¬(nested ++ ".").toList <+: f.path.toList ∧
        w = .nestedNotPrefix f.name nested f.path) ∨
      ∃ analyzer, f.analyzer = some analyzer ∧ analyzer ∉ knownAnalyzers ∧
        w = .unknownAnalyzer f.name analyzer := by
  rw [fieldWarnings, List.mem_append]
  refine or_congr ?_ ?_
  · cases f.nested <;> simp
  · cases f.analyzer <;> simp

theorem fieldWarnings_eq_nil :
    fieldWarnings f = [] ↔
      (∀ nested, f.nested = some nested → (nested ++ ".").toList <+: f.path.toList) ∧
        ∀ analyzer, f.analyzer = some analyzer → analyzer ∈ knownAnalyzers := by
  rw [fieldWarnings, List.append_eq_nil_iff]
  refine and_congr ?_ ?_
  · cases f.nested <;> simp
  · cases f.analyzer <;> simp

theorem aliasCollisions_of_no_fields (h : m.fields = []) : aliasCollisions m = [] := by
  rw [aliasCollisions, h]
  rfl

/-- A warning that is not about the mappings as a whole or the default field. -/
theorem mem_warnings_iff (hfields : w ≠ .noFields)
    (hdefault : ∀ field, w ≠ .unmappedDefault field) :
    w ∈ warnings default m ↔ w ∈ aliasCollisions m ∨ ∃ f ∈ m.fields, w ∈ fieldWarnings f := by
  rw [warnings.eq_def]
  by_cases hempty : m.fields = []
  · simp [hempty, hfields, aliasCollisions_of_no_fields hempty]
  · rw [if_neg (by simpa using hempty), List.mem_append, List.mem_append, List.mem_flatMap,
      or_assoc]
    refine or_iff_right ?_
    cases default with
    | none => simp
    | some field =>
        simp only
        split
        · simpa using hdefault field
        · simp

/-- What the check finds nothing wrong with. -/
theorem warnings_eq_nil :
    warnings default m = [] ↔
      m.fields ≠ [] ∧ (∀ field, default = some field → (m.lookup field).isSome = true) ∧
        aliasCollisions m = [] ∧ ∀ f ∈ m.fields, fieldWarnings f = [] := by
  rw [warnings.eq_def]
  by_cases hfields : m.fields = []
  · simp [hfields]
  · rw [if_neg (by simpa using hfields), List.append_eq_nil_iff, List.append_eq_nil_iff,
      List.flatMap_eq_nil_iff, and_assoc, and_iff_right hfields]
    refine and_congr_left fun _ => ?_
    cases default <;> simp [Option.isSome_iff_ne_none]

end Searchlight.Config
