import Searchlight.Field.Mappings
import Searchlight.Proofs.Query.Exchange

/-!
# Names of fields

A name stands for the mapping that it finds, or for that of the default field if
it finds none. Nothing else of a name counts: it can be exchanged for another
name of the same mapping, on a leaf or in front of a group, and a leaf without a
name can be given that of the default field. Errors stay the same too, as they
bear the name of the mapping, or else that of the default field.
-/

namespace Searchlight

namespace Resolution

variable (lookup : String → Option FieldMapping) (options : ResolveOptions)

/-- The mapping that a name stands for. -/
def mapping? (name : String) : Option FieldMapping :=
  (lookup name).or (options.defaultField.bind lookup)

/-- Names that can be exchanged: they stand for one mapping. Where no default
field steps in they have to find it, since the error of a name that finds
nothing is about that name. -/
def Interchangeable (a b : String) : Prop :=
  a = b ∨
    mapping? lookup options a = mapping? lookup options b ∧
      (options.defaultField = none → (lookup a).isSome = true)

mutual

/-- The second expression is the first one with other names for its fields.
`enclosed` tells that a field scope is around them, to which their leaves without
a name belong. -/
inductive Renamed : (enclosed : Bool) → Expr → Expr → Prop
  | leaf {enclosed a b} (literal : Literal) : Interchangeable lookup options a b →
      Renamed enclosed (.leaf (some a) literal) (.leaf (some b) literal)
  | unnamed {enclosed} (literal : Literal) :
      Renamed enclosed (.leaf none literal) (.leaf none literal)
  /-- A leaf without a name can bear that of the default field, on its own or as a
  group, unless it is one for every value of no field. -/
  | named {default} {literal : Literal} : options.defaultField = some default →
      isAll none literal = false →
      Renamed false (.leaf none literal) (.leaf (some default) literal)
  | scoped {default} {literal : Literal} : options.defaultField = some default →
      isAll none literal = false →
      Renamed false (.leaf none literal) (.inField default (.leaf none literal))
  | inField {enclosed a b e e'} : Interchangeable lookup options a b →
      Renamed true e e' → Renamed enclosed (.inField a e) (.inField b e')
  | bool {enclosed es es'} (op : BoolOp) : AllRenamed enclosed es es' →
      Renamed enclosed (.bool op es) (.bool op es')
  | boosted {enclosed e e'} (factor : Single) : Renamed enclosed e e' →
      Renamed enclosed (.boosted e factor) (.boosted e' factor)

inductive AllRenamed : (enclosed : Bool) → List Expr → List Expr → Prop
  | nil {enclosed} : AllRenamed enclosed [] []
  | cons {enclosed e e' es es'} : Renamed enclosed e e' →
      AllRenamed enclosed es es' → AllRenamed enclosed (e :: es) (e' :: es')

end

/-- The scopes around two expressions, if any. -/
inductive SameScope : (enclosed : Bool) → Option String → Option String → Prop
  | outside : SameScope false none none
  | inside {a b} : Interchangeable lookup options a b → SameScope true (some a) (some b)

variable {lookup options} {a b : String} {scope scope' : Option String}

/-! ## Leaves -/

/-- What a name comes to. -/
theorem leafField_some (name : String) (literal : Literal) :
    leafField lookup options (some name) literal =
      match mapping? lookup options name with
      | some m => .ok m.toField
      | none => .error (.unknownField (options.defaultField.getD name)) := by
  rw [leafField.eq_def, mapping?]
  cases hname : lookup name with
  | some m => simp only [hname, Option.some_or]
  | none =>
      cases hdefault : options.defaultField with
      | none => simp only [hname, Option.none_or, Option.bind_none, Option.getD_none]
      | some default =>
          cases hmapped : lookup default <;>
            simp only [hname, hmapped, fieldNamed, Option.none_or, Option.bind_some,
              Option.getD_some]

theorem leafField_of_interchangeable (h : Interchangeable lookup options a b)
    (literal : Literal) :
    leafField lookup options (some a) literal =
      leafField lookup options (some b) literal := by
  rcases h with rfl | ⟨hsame, hmapped⟩
  · rfl
  · rw [leafField_some, leafField_some, ← hsame]
    cases hdefault : options.defaultField with
    | some default => rfl
    | none =>
        obtain ⟨m, hm⟩ := Option.isSome_iff_exists.mp (hmapped hdefault)
        simp only [mapping?, hm, Option.some_or]

theorem leafField_none {default : String} (h : options.defaultField = some default)
    (literal : Literal) :
    leafField lookup options none literal =
      leafField lookup options (some default) literal := by
  rw [leafField_some, leafField.eq_def, h, mapping?, h, Option.bind_some, Option.or_self]
  cases hmapped : lookup default <;> simp only [hmapped, fieldNamed, Option.getD_some]

/-- A leaf takes the field of its name, if it is not one for every value. -/
theorem query_leaf {field name : Option String} {literal : Literal}
    (hname : field.or scope = name) (h : isAll name literal = false) :
    query lookup options scope (.leaf field literal) =
      leafField lookup options name literal >>= fun f =>
        literalQuery f literal >>= fun q => .ok (inNested f.nested q) := by
  rw [query, leaf, hname]
  exact if_neg (by simp [h])

/-- Leaves whose names can be exchanged, wherever they have them from. -/
theorem query_leaf_of_interchangeable {field field' : Option String}
    (h : Interchangeable lookup options a b) (hname : field.or scope = some a)
    (hname' : field'.or scope' = some b) (literal : Literal) :
    query lookup options scope (.leaf field literal) =
      query lookup options scope' (.leaf field' literal) := by
  rw [query_leaf hname rfl, query_leaf hname' rfl, leafField_of_interchangeable h]

/-- A leaf without any name and one with that of the default field. -/
theorem query_leaf_default {default : String} {field : Option String} {literal : Literal}
    (hdefault : options.defaultField = some default) (h : isAll none literal = false)
    (hname : field.or scope = some default) :
    query lookup options none (.leaf none literal) =
      query lookup options scope (.leaf field literal) := by
  have hnone : (none : Option String).or none = none := rfl
  rw [query_leaf hnone h, query_leaf hname rfl, leafField_none hdefault]

/-! ## Expressions -/

mutual

/-- Renamed expressions have the same query, and so have their negations. -/
theorem query_renamed : ∀ {enclosed : Bool} {e e' : Expr} {scope scope' : Option String},
    Renamed lookup options enclosed e e' →
    SameScope lookup options enclosed scope scope' → ∀ negated : Bool,
      query lookup options scope (e.signed negated) =
        query lookup options scope' (e'.signed negated)
  | _, _, _, _, _, .leaf literal hab, _, negated => by
      apply query_signed_congr rfl rfl
      exact query_leaf_of_interchangeable hab rfl rfl literal
  | _, _, _, _, _, .unnamed literal, .outside, _ => rfl
  | _, _, _, _, _, .unnamed literal, .inside hab, negated => by
      apply query_signed_congr rfl rfl
      exact query_leaf_of_interchangeable hab rfl rfl literal
  | _, _, _, _, _, .named hdefault hall, .outside, negated => by
      apply query_signed_congr rfl rfl
      exact query_leaf_default hdefault hall rfl
  | _, _, _, _, _, .scoped hdefault hall, .outside, negated => by
      rw [query_signed_inField]
      apply query_signed_congr rfl rfl
      exact query_leaf_default hdefault hall rfl
  | _, _, _, _, _, .inField hab hbody, _, negated => by
      rw [query_signed_inField, query_signed_inField]
      exact query_renamed hbody (.inside hab) negated
  | _, _, _, _, _, .bool op hes, hscope, negated =>
      query_bool_of_operands (operands_renamed hes hscope) negated
  | _, _, _, _, _, .boosted factor hbody, hscope, negated => by
      apply query_signed_congr rfl rfl
      rw [query, query]
      exact congrArg _ (query_renamed hbody hscope false)

theorem operands_renamed : ∀ {enclosed : Bool} {es es' : List Expr}
    {scope scope' : Option String}, AllRenamed lookup options enclosed es es' →
    SameScope lookup options enclosed scope scope' →
      List.Forall₂ (fun e e' => ∀ negated : Bool,
        query lookup options scope (e.signed negated) =
          query lookup options scope' (e'.signed negated)) es es'
  | _, _, _, _, _, .nil, _ => .nil
  | _, _, _, _, _, .cons he hes, hscope =>
      .cons (query_renamed he hscope) (operands_renamed hes hscope)

end

end Resolution

/-- **Only the mappings that names stand for count.** With names that can be
exchanged an expression resolves to the same query, or fails with the same error. -/
theorem resolve_renamed {lookup : String → Option FieldMapping} {options : ResolveOptions}
    {e e' : Expr} (h : Resolution.Renamed lookup options false e e') :
    resolve lookup options (some e) = resolve lookup options (some e') := by
  have hquery : Resolution.query lookup options none e =
      Resolution.query lookup options none e' :=
    Resolution.query_renamed h .outside false
  rw [resolve, resolve, hquery]

/-- An alias in front of a group, a name that is not mapped, and a leaf without
one. -/
theorem resolve_renamed_alias :
    let field (name : String) (aliases : List String) : FieldMapping :=
      { name := name, path := name, type := .text, aliases := aliases }
    let lookup := (Mappings.ofFields [field "title" ["heading"], field "body" []]).lookup
    let options : ResolveOptions := { defaultField := "body" }
    let group : Expr :=
      .bool .and [.leaf none (.term "a"), .not (.leaf none (.term "b"))]
    let e : Expr := .bool .or [.inField "heading" group,
      .not (.leaf (some "subject") (.term "c")), .leaf none (.term "d")]
    let e' : Expr := .bool .or [.inField "title" group,
      .not (.leaf (some "body") (.term "c")), .inField "body" (.leaf none (.term "d"))]
    Resolution.Renamed lookup options false e e' ∧
      resolve lookup options (some e) = resolve lookup options (some e') := by
  intro field lookup options group e e'
  have hgroup : Resolution.Renamed lookup options true group group :=
    .bool .and (.cons (.unnamed _) (.cons (.bool .not (.cons (.unnamed _) .nil)) .nil))
  have hheading : Resolution.Interchangeable lookup options "heading" "title" :=
    .inr ⟨rfl, by simp [options]⟩
  have hsubject : Resolution.Interchangeable lookup options "subject" "body" :=
    .inr ⟨rfl, by simp [options]⟩
  have h : Resolution.Renamed lookup options false e e' :=
    .bool .or (.cons (.inField hheading hgroup)
      (.cons (.bool .not (.cons (.leaf _ hsubject) .nil))
        (.cons (.scoped rfl rfl) .nil)))
  exact ⟨h, resolve_renamed h⟩

end Searchlight
