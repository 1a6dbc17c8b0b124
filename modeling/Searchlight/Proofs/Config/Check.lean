import Searchlight.Expr.Parse
import Searchlight.Proofs.Analysis.Highlight
import Searchlight.Proofs.Config.Warnings
import Searchlight.Proofs.Query.Failure
import Searchlight.Proofs.Query.Typing

/-!
# Configurations that pass the check

A configuration without warnings has no names left that could fail later. Its
default field finds a mapping, so every leaf finds one. The analyzers that its
mappings ask for exist, and so do those of the types that they leave it to, so
every value can be analyzed. And as a resolved query is about mapped fields only,
highlighting meets no other analyzers.
-/

namespace Searchlight

/-! ## Analyzers -/

namespace Analysis

/-- The analyzers that the check knows are those there are. -/
theorem isSome_ofName?_iff {name : String} :
    (Analyzer.ofName? name).isSome = true ↔ name ∈ Config.knownAnalyzers := by
  rw [Analyzer.ofName?.eq_def]
  split <;> simp_all [Config.knownAnalyzers]

theorem exists_analyzerOf {f : FieldMapping} (h : Config.fieldWarnings f = []) :
    ∃ a, analyzerOf f.toField = .ok a := by
  have hknown : f.toField.analyzerName ∈ Config.knownAnalyzers := by
    rw [Field.analyzerName]
    cases hexplicit : f.analyzer with
    | some analyzer => exact (Config.fieldWarnings_eq_nil.mp h).2 analyzer hexplicit
    | none => cases f.type <;> decide
  obtain ⟨a, ha⟩ := Option.isSome_iff_exists.mp (isSome_ofName?_iff.mpr hknown)
  exact ⟨a, by rw [analyzerOf, ha]⟩

/-- A leaf whose field has an analyzer does not miss one. -/
theorem leafHits_ne_unknownAnalyzer {leaf : Query} {f : Field} {ps : List Posting}
    {a : Analyzer} (ha : analyzerOf f = .ok a) (name : String) :
    leafHits leaf f ps ≠ .error (.unknownAnalyzer name) := by
  intro h
  rcases bind_eq_error.mp h with h | ⟨a', -, h⟩
  · cases ha.symm.trans h
  · cases leaf with
    | wildcard =>
        simp only at h
        split at h <;> cases h
    | regex =>
        simp only at h
        split at h <;> cases h
    | _ => cases h

end Analysis

/-- Every leaf of a well-typed query is on a mapped field. -/
theorem Query.PositiveIn.mapped {lookup : String → Option FieldMapping} {leaf q : Query}
    (hleaf : leaf.PositiveIn q) (hq : q.WellTyped lookup) :
    ∃ name mapping, lookup name = some mapping ∧ leaf.field? = some mapping.toField := by
  induction hleaf with
  | self hfield =>
      have htyped : leaf.IsTypedLeaf lookup none := by
        cases leaf <;> first | exact hq | cases hfield
      obtain ⟨name, mapping, hname, hmapped, -⟩ := htyped
      exact ⟨name, mapping, hname, hmapped⟩
  | nested path hleaf =>
      -- only a leaf stands inside of a nested object
      obtain ⟨name, mapping, hname, hmapped, -⟩ := hq
      obtain rfl := (Query.positiveIn_of_field hmapped).mp hleaf
      exact ⟨name, mapping, hname, hmapped⟩
  | boost factor _ ih => exact ih hq
  | bool mustNot hmem _ ih =>
      exact ih ((Query.clausewise_wellTyped lookup).bool.mp hq _
        (List.mem_append_left _ hmem))

/-! ## What the check is for -/

/-- **Nothing that passes the check fails on names later**: where the default
field is used, no expression fails to resolve for want of a field; every value of
every mapping can be analyzed; and highlighting a resolved query finds the
analyzer of every leaf. -/
theorem names_of_warnings_eq_nil {c : Config} {m : Mappings}
    (h : Config.warnings c.index.defaultField m = []) :
    (∀ (options : ResolveOptions) (text : String) (e : Option Expr),
      c.index.defaultField.isSome = true →
        options.defaultField = c.index.defaultField → parseQuery text = .ok e →
          (∀ name, resolve m.lookup options e ≠ .error (.unknownField name)) ∧
            ∀ literal, resolve m.lookup options e ≠ .error (.noDefaultField literal)) ∧
      (∀ f ∈ m.fields, ∀ value, ∃ a : Analysis.Analyzer,
        Analysis.analyzeField f.toField value = .ok (a.analyze f.path value)) ∧
      ∀ (options : ResolveOptions) (text : String) (e : Option Expr) (q : Query),
        parseQuery text = .ok e → resolve m.lookup options e = .ok q →
          ∀ fields name,
            Analysis.highlight q fields ≠ .error (.unknownAnalyzer name) := by
  obtain ⟨-, hdefault, -, hfields⟩ := Config.warnings_eq_nil.mp h
  refine ⟨?_, ?_, ?_⟩
  · intro options text e hset hoptions _
    obtain ⟨default, hset⟩ := Option.isSome_iff_exists.mp hset
    obtain ⟨mapping, hmapped⟩ := Option.isSome_iff_exists.mp (hdefault default hset)
    have hnaming {err : ResolveError} (hfail : resolve m.lookup options e = .error err) :
        ¬err.IsNaming :=
      Resolution.not_isNaming_of_resolve (hoptions.trans hset) hmapped hfail
    exact ⟨fun name hfail => hnaming hfail trivial,
      fun literal hfail => hnaming hfail trivial⟩
  · intro f hf value
    obtain ⟨a, ha⟩ := Analysis.exists_analyzerOf (hfields f hf)
    exact ⟨a, by rw [Analysis.analyzeField, ha]; rfl⟩
  · intro options text e q _ hq fields name hfail
    have htyped := wellTyped_of_resolve hq
    obtain ⟨leaf, f, analyzed, hleaf, hf, -, -, hhits⟩ :=
      Analysis.exists_of_highlight_eq_error hfail
    obtain ⟨target, mapping, hlookup, hmapped⟩ := hleaf.mapped htyped
    obtain rfl := Option.some.inj (hf.symm.trans hmapped)
    obtain ⟨a, ha⟩ := Analysis.exists_analyzerOf
      (hfields mapping (Mappings.mem_of_lookup hlookup))
    exact Analysis.leafHits_ne_unknownAnalyzer ha name hhits

/-- A name that is not mapped goes to the default field, given by an alias, and
so to its analyzer. -/
theorem names_of_warnings_eq_nil_unmapped :
    let body : FieldMapping :=
      { name := "body", path := "text", type := .text, analyzer := "simple", aliases := ["b"] }
    let tag : FieldMapping :=
      { name := "tag", path := "tags.name", type := .keyword, nested := "tags" }
    let c : Config := { index := { defaultField := "b" } }
    let m := Mappings.ofFields [body, tag]
    let options : ResolveOptions := { defaultField := "b" }
    let e : Option Expr := some (.bool .and
      [.leaf (some "nope") (.term "x"), .leaf (some "tag") (.wildcard "y*")])
    let q : Query := .bool [.fullText body.toField "x",
      .nested "tags" (.wildcard tag.toField "y*")] [] [] []
    Config.warnings c.index.defaultField m = [] ∧
      (parseQuery "nope:x tag:y*" = .ok e ∧
        ∀ name, resolve m.lookup options e ≠ .error (.unknownField name)) ∧
      (tag ∈ m.fields ∧ ∃ a : Analysis.Analyzer,
        Analysis.analyzeField tag.toField "z" = .ok (a.analyze "tags.name" "z")) ∧
      resolve m.lookup options e = .ok q ∧
        ∀ fields name, Analysis.highlight q fields ≠ .error (.unknownAnalyzer name) := by
  intro body tag c m options e q
  have hcheck : Config.warnings c.index.defaultField m = [] := by decide
  have hparse : parseQuery "nope:x tag:y*" = .ok e := by decide +kernel
  have hresolve : resolve m.lookup options e = .ok q := by rfl
  have htag : tag ∈ m.fields := by decide
  obtain ⟨hnames, hanalyze, hhighlight⟩ := names_of_warnings_eq_nil hcheck
  exact ⟨hcheck, ⟨hparse, (hnames options _ e rfl rfl hparse).1⟩,
    ⟨htag, hanalyze tag htag "z"⟩, hresolve, hhighlight options _ e q hparse hresolve⟩

end Searchlight
