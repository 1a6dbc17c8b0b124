import Searchlight.Proofs.Query.Occurrence
import Searchlight.Proofs.Query.Operands

/-!
# Failing to resolve

An expression fails to resolve just if one of its leaves does, and with the
error of the first one. How leaves are grouped, negated and boosted makes no
difference to that. Where the default field is a mapped one, the error is never
about a name.
-/

namespace Searchlight

namespace Resolution

variable (lookup : String → Option FieldMapping) (options : ResolveOptions)

/-- The error of the first leaf that does not resolve. -/
def firstFailure (os : List (Occurrence ScopedLiteral)) : Option ResolveError :=
  os.findSome? fun o =>
    failure? (leaf lookup options o.leaf.scope o.leaf.field o.leaf.literal)

variable {lookup options}

theorem firstFailure_map {f : Occurrence ScopedLiteral → Occurrence ScopedLiteral}
    (hf : ∀ o, (f o).leaf = o.leaf) (os : List (Occurrence ScopedLiteral)) :
    firstFailure lookup options (os.map f) = firstFailure lookup options os := by
  simp only [firstFailure, List.findSome?_map, Function.comp_def, hf]

/-- Only the leaves count, not what is above them. -/
theorem firstFailure_eq (os : List (Occurrence ScopedLiteral)) :
    firstFailure lookup options os = (os.map Occurrence.leaf).findSome? fun l =>
      failure? (leaf lookup options l.scope l.field l.literal) := by
  rw [List.findSome?_map]
  rfl

theorem firstFailure_congr {os os' : List (Occurrence ScopedLiteral)}
    (h : os.map Occurrence.leaf = os'.map Occurrence.leaf) :
    firstFailure lookup options os = firstFailure lookup options os' := by
  rw [firstFailure_eq, firstFailure_eq, h]

theorem failure?_signed_of_whole {scope : Option String} {e : Expr}
    (h : e.whole false = true) (negated : Bool) :
    failure? (query lookup options scope (e.signed negated)) =
      failure? (query lookup options scope e) := by
  cases negated with
  | false => rfl
  | true => rw [Expr.signed_true, query_not_of_whole h, failure?_map]

mutual

theorem failure?_query : ∀ (negated : Bool) {scope : Option String} (e : Expr),
    failure? (query lookup options scope (e.signed negated)) =
      firstFailure lookup options (e.occurrences scope)
  | negated, scope, .leaf field literal => by
      rw [failure?_signed_of_whole rfl]
      simp [query, Expr.occurrences, firstFailure]
  | negated, scope, .inField name body => by
      rw [query_signed_inField, Expr.occurrences]
      exact failure?_query negated body
  | negated, scope, .boosted body factor => by
      rw [failure?_signed_of_whole rfl, query, failure?_map, Expr.occurrences,
        firstFailure_map (by intro o; rfl)]
      exact failure?_query false body
  | negated, scope, .bool .and operands => by
      rw [failure?_signed_of_whole rfl, query_and, failure?_map, Expr.occurrences]
      · exact failure?_queries operands
      · simp
  | negated, scope, .bool .or operands => by
      have hor : (Expr.bool .or operands).occurrences scope =
          Expr.occurrencesAll scope operands := by
        simp [Expr.occurrences]
      rw [hor, ← failure?_queries operands]
      cases negated with
      | false => rw [Expr.signed_false, query, failure?_map]
      | true => rw [Expr.signed_true, query_not_or, failure?_map]
  | negated, scope, .bool .not [only] => by
      rw [← Expr.not, query_signed_not, Expr.occurrences_not,
        firstFailure_map (by intro o; rfl)]
      exact failure?_query (!negated) only
  | negated, scope, .bool .not [] => by
      cases negated <;> rfl
  | negated, scope, .bool .not (a :: b :: operands) => by
      rw [Expr.occurrences, firstFailure_map (by intro o; rfl),
        ← failure?_queries (a :: b :: operands)]
      cases negated with
      | false => rw [Expr.signed_false, query_many (by simp), failure?_map]
      | true => rw [Expr.signed_true, query_not_many (by simp), failure?_map]

theorem failure?_queries : ∀ {scope : Option String} (es : List Expr),
    failure? (queries lookup options scope es) =
      firstFailure lookup options (Expr.occurrencesAll scope es)
  | scope, [] => rfl
  | scope, e :: es => by
      rw [queries, failure?_both, Expr.occurrencesAll, firstFailure,
        List.findSome?_append]
      exact congrArg₂ Option.or (failure?_query false e) (failure?_queries es)

end

/-- **An expression fails to resolve just if a leaf does**, with the error of
the first one. -/
theorem resolve_eq_error {e : Expr} {err : ResolveError} :
    resolve lookup options (some e) = .error err ↔
      firstFailure lookup options (e.occurrences none) = some err := by
  rw [resolve, map_eq_error, ← failure?_eq_some]
  exact Eq.congr_left (failure?_query false e)

end Resolution

/-! ## The first leaf that fails -/

/-- The leaves of an expression from left to right, each with the scope closest
around it and with nothing else that is above it. -/
def Expr.leaves (e : Expr) : List ScopedLiteral :=
  (e.occurrences none).map Occurrence.leaf

/-- What a leaf resolves to on its own. -/
def ScopedLiteral.query (lookup : String → Option FieldMapping) (options : ResolveOptions)
    (l : ScopedLiteral) : Resolved Query :=
  Resolution.leaf lookup options l.scope l.field l.literal

theorem resolve_eq_error_iff {lookup : String → Option FieldMapping} {options : ResolveOptions}
    {e : Expr} {err : ResolveError} :
    resolve lookup options (some e) = .error err ↔
      e.leaves.findSome? (fun l => failure? (l.query lookup options)) = some err := by
  rw [Resolution.resolve_eq_error, Resolution.firstFailure_eq]
  rfl

/-- **Resolving fails just if a leaf does**, in the scope closest around it. The
error is that of the leftmost leaf that fails, and expressions with the same
leaves fail alike, however these are grouped, negated, scoped and boosted. -/
theorem resolve_fails_at_leftmost (lookup : String → Option FieldMapping)
    (options : ResolveOptions) (e : Expr) :
    ((∃ err, resolve lookup options (some e) = .error err) ↔
      ∃ l ∈ e.leaves, ∃ err, l.query lookup options = .error err) ∧
    (∀ err, resolve lookup options (some e) = .error err ↔
      ∃ before l after, e.leaves = before ++ l :: after ∧
        l.query lookup options = .error err ∧
        ∀ l' ∈ before, ∃ q, l'.query lookup options = .ok q) ∧
    ∀ e' : Expr, e'.leaves = e.leaves → ∀ err,
      (resolve lookup options (some e') = .error err ↔
        resolve lookup options (some e) = .error err) := by
  refine ⟨?_, ?_, ?_⟩
  · simp only [resolve_eq_error_iff, ← Option.isSome_iff_exists, List.findSome?_isSome_iff]
    simp only [Option.isSome_iff_exists, failure?_eq_some]
  · intro err
    simp only [resolve_eq_error_iff, List.findSome?_eq_some_iff, failure?_eq_some,
      failure?_eq_none]
  · intro e' hleaves err
    rw [resolve_eq_error_iff, resolve_eq_error_iff, hleaves]

/-- Of two leaves that fail it is the first one, under a negation of a negation
as in a plain conjunction. -/
theorem resolve_fails_at_leftmost_negated :
    let lookup (name : String) : Option FieldMapping :=
      some { name := name, path := name, type := if name = "views" then .long else .text }
    let options : ResolveOptions := { defaultField := "body" }
    let a : Expr := .leaf none (.term "a")
    let x : Expr := .leaf none (.term "x")
    let y : Expr := .leaf (some "views") (.term "y")
    let e : Expr := .not (.not (.bool .or [a, .not (.inField "views" x), .boosted y .one]))
    let e' : Expr := .bool .and [a, .inField "views" x, y]
    let views : Field := { name := "views", path := "views", type := .long }
    e'.leaves = e.leaves ∧
      resolve lookup options (some e) = .error (.termType views "x") ∧
      resolve lookup options (some e') = .error (.termType views "x") := by
  intro lookup options a x y e e' views
  have hleaves : e'.leaves = e.leaves := rfl
  obtain ⟨-, hfirst, harranged⟩ := resolve_fails_at_leftmost lookup options e
  have h : resolve lookup options (some e) = .error (.termType views "x") := by
    refine (hfirst _).mpr
      ⟨[⟨none, none, .term "a"⟩], ⟨some "views", none, .term "x"⟩, _, rfl, rfl, ?_⟩
    intro l hl
    obtain rfl := List.mem_singleton.mp hl
    exact ⟨_, rfl⟩
  exact ⟨hleaves, h, (harranged e' hleaves _).mpr h⟩

/-! ## Names -/

namespace ResolveError

/-- The error is about a name and not about what its field is asked for. -/
def IsNaming : ResolveError → Prop
  | unknownField _ | noDefaultField _ => True
  | unorderedRange _ _ | rangeType _ _ | termType _ _ | notString _ _ => False

end ResolveError

namespace Resolution

variable {lookup : String → Option FieldMapping} {options : ResolveOptions}
  {f : Field} {err : ResolveError}

theorem not_isNaming_of_termQuery {text : String}
    (h : termQuery f text = .error err) : ¬err.IsNaming := by
  rw [termQuery] at h
  split at h
  · cases h
  · split at h
    · cases h
    · obtain rfl := Except.error.inj h
      exact id

theorem not_isNaming_of_bound {b : Bound String} (h : bound f b = .error err) :
    ¬err.IsNaming := by
  have hvalue : ∀ text, boundValue f text = .error err → ¬err.IsNaming := by
    intro text h
    rw [boundValue] at h
    split at h
    · cases h
    · obtain rfl := Except.error.inj h
      exact id
  cases b with
  | unbounded => cases h
  | inclusive text | exclusive text => exact hvalue text (map_eq_error.mp h)

theorem not_isNaming_of_rangeQuery {lower upper : Bound String}
    (h : rangeQuery f lower upper = .error err) : ¬err.IsNaming := by
  rw [rangeQuery] at h
  split at h
  · obtain rfl := Except.error.inj h
    exact id
  · split at h
    · cases h
    · rcases bind_eq_error.mp h with h | ⟨l, -, h⟩
      · exact not_isNaming_of_bound h
      · rcases bind_eq_error.mp h with h | ⟨u, -, h⟩
        · exact not_isNaming_of_bound h
        · cases h

theorem not_isNaming_of_stringQuery {literal : Literal} {q : Query}
    (h : stringQuery f literal q = .error err) : ¬err.IsNaming := by
  rw [stringQuery] at h
  split at h
  · cases h
  · obtain rfl := Except.error.inj h
    exact id

theorem not_isNaming_of_literalQuery {literal : Literal}
    (h : literalQuery f literal = .error err) : ¬err.IsNaming := by
  cases literal with
  | term text => exact not_isNaming_of_termQuery h
  | phrase text slop =>
      simp only [literalQuery] at h
      split at h
      · cases h
      · exact not_isNaming_of_termQuery h
  | range lower upper => exact not_isNaming_of_rangeQuery h
  | wildcard pattern =>
      simp only [literalQuery] at h
      split at h
      · cases h
      · exact not_isNaming_of_stringQuery h
  | fuzzy text distance | regex pattern => exact not_isNaming_of_stringQuery h

/-- With a default field that is mapped, every leaf finds a field. -/
theorem exists_leafField {default : String} {m : FieldMapping}
    (hdefault : options.defaultField = some default)
    (hmapped : lookup default = some m) (name : Option String) (literal : Literal) :
    ∃ f, leafField lookup options name literal = .ok f := by
  have hfield : fieldNamed lookup default = .ok m.toField := by
    rw [fieldNamed, hmapped]
  cases name with
  | none =>
      refine ⟨m.toField, ?_⟩
      rw [leafField.eq_def, hdefault]
      exact hfield
  | some name =>
      rw [leafField.eq_def, hdefault]
      cases hname : lookup name with
      | some other => exact ⟨other.toField, by simp only [hname]⟩
      | none => exact ⟨m.toField, by simpa only [hname] using hfield⟩

theorem not_isNaming_of_leaf {default : String} {m : FieldMapping}
    (hdefault : options.defaultField = some default)
    (hmapped : lookup default = some m) {scope field : Option String}
    {literal : Literal} (h : leaf lookup options scope field literal = .error err) :
    ¬err.IsNaming := by
  simp only [leaf] at h
  split at h
  · cases h
  · obtain ⟨f, hf⟩ := exists_leafField hdefault hmapped (field.or scope) literal
    rw [hf] at h
    rcases bind_eq_error.mp h with h | ⟨f', -, h⟩
    · cases h
    · rcases bind_eq_error.mp h with h | ⟨q, -, h⟩
      · exact not_isNaming_of_literalQuery h
      · cases h

/-- **With a default field that is mapped, no name makes an expression fail.** -/
theorem not_isNaming_of_resolve {default : String} {m : FieldMapping}
    (hdefault : options.defaultField = some default)
    (hmapped : lookup default = some m) {e : Option Expr}
    (h : resolve lookup options e = .error err) : ¬err.IsNaming := by
  cases e with
  | none => cases h
  | some e =>
      obtain ⟨o, -, hleaf⟩ := List.exists_of_findSome?_eq_some (resolve_eq_error.mp h)
      exact not_isNaming_of_leaf hdefault hmapped (failure?_eq_some.mp hleaf)

end Resolution

end Searchlight
