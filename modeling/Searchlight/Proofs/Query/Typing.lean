import Searchlight.Proofs.Query.Clauses

/-!
# Resolved queries are well typed

A leaf asks its field for what the field's type offers: a match or a phrase of
analyzed text, an exact value or a range of values of the type, a pattern of a
string. Its field is a mapped one, and it stands inside a nested object just if
its field lives in that object. All this holds of every resolved query, since it
holds of what a literal resolves to and depends on clauses only.
-/

namespace Searchlight

namespace Value

/-- The values of a type. Dates are kept as the text they were read from. -/
def HasType : Value → FieldType → Prop
  | text _, .text | text _, .keyword => True
  | text s, .date => Date.isDate s.toList = true
  | integer n, .long => -0x8000000000000000 ≤ n ∧ n < 0x8000000000000000
  | float x, .double => x.isFinite = true
  | boolean _, .boolean => True
  | _, _ => False

end Value

namespace Query

/-- What a leaf asks for is offered by the type of its field. -/
def Suits (type : FieldType) : Query → Prop
  | fullText _ _ | phrase _ _ _ => type = .text
  | term _ v => type ≠ .text ∧ v.HasType type
  | range _ lower upper =>
      type ≠ .boolean ∧ (lower ≠ .unbounded ∨ upper ≠ .unbounded) ∧
        (∀ v, lower.value? = some v → v.HasType type) ∧
        ∀ v, upper.value? = some v → v.HasType type
  | wildcard _ pattern =>
      (type = .text ∨ type = .keyword) ∧
        ¬(pattern ≠ "" ∧ ∀ c ∈ pattern.toList, c = '*')
  | fuzzy _ _ _ | regex _ _ => type = .text ∨ type = .keyword
  | .exists _ => True
  | all | nested _ _ | bool _ _ _ _ | boost _ _ => False

/-- A leaf on a mapped field that lives in the nested object of the given path,
or in none. -/
def IsTypedLeaf (lookup : String → Option FieldMapping) (path : Option String)
    (q : Query) : Prop :=
  ∃ name mapping, lookup name = some mapping ∧
    q.field? = some mapping.toField ∧ mapping.nested = path ∧
    q.Suits mapping.type

mutual

/-- A nested object holds a leaf on a field of its own and nothing else; all
other leaves are on fields outside of nested objects. -/
def WellTyped (lookup : String → Option FieldMapping) : Query → Prop
  | all => True
  | nested path q => IsTypedLeaf lookup (some path) q
  | bool must filter should mustNot =>
      AllWellTyped lookup must ∧ AllWellTyped lookup filter ∧
        AllWellTyped lookup should ∧ AllWellTyped lookup mustNot
  | boost q _ => WellTyped lookup q
  | q => IsTypedLeaf lookup none q

def AllWellTyped (lookup : String → Option FieldMapping) : List Query → Prop
  | [] => True
  | q :: rest => WellTyped lookup q ∧ AllWellTyped lookup rest

end

variable {lookup : String → Option FieldMapping}

theorem allWellTyped_iff : ∀ {qs : List Query},
    AllWellTyped lookup qs ↔ ∀ q ∈ qs, q.WellTyped lookup
  | [] => by simp [AllWellTyped]
  | q :: qs => by simp [AllWellTyped, @allWellTyped_iff qs]

theorem wellTyped_withFactor {q : Query} (hq : q.WellTyped lookup)
    (factor : Single) : (q.withFactor factor).WellTyped lookup := by
  rw [withFactor]
  split
  · exact hq
  · exact hq

theorem clausewise_wellTyped (lookup : String → Option FieldMapping) :
    Clausewise (WellTyped lookup) where
  bool := by
    intro must filter should mustNot
    rw [WellTyped, forall_mem_clauses]
    simp only [allWellTyped_iff]
  boosted := by
    intro q factor hq
    cases q with
    | boost q inner =>
        have hinner : q.WellTyped lookup := hq
        exact wellTyped_withFactor hinner _
    | _ => exact wellTyped_withFactor hq factor

/-- Outside of nested objects, a leaf that suits its field is well typed. -/
theorem IsTypedLeaf.wellTyped {q : Query} (hq : q.IsTypedLeaf lookup none) :
    q.WellTyped lookup := by
  obtain ⟨name, mapping, hname, hfield, hnested, hsuits⟩ := hq
  cases q with
  | all => trivial
  | nested path inner => exact hsuits.elim
  | bool must filter should mustNot => exact hsuits.elim
  | boost inner factor => exact hsuits.elim
  | _ => exact ⟨name, mapping, hname, hfield, hnested, hsuits⟩

/-- A field that a name is mapped to. -/
def Mapped (lookup : String → Option FieldMapping) (f : Field) : Prop :=
  ∃ name mapping, lookup name = some mapping ∧ mapping.toField = f

/-- What a node of a well-typed query is by itself: a leaf that suits a mapped
field, or a nested object that a mapped field lives in. -/
structure Placed (lookup : String → Option FieldMapping) (q : Query) : Prop where
  leaf : ∀ f ∈ q.field?, Mapped lookup f ∧ q.Suits f.type
  nested : ∀ path inner, q = nested path inner →
    ∃ f, Mapped lookup f ∧ path ∈ f.nested

theorem IsTypedLeaf.mapped {path : Option String} {q : Query}
    (h : q.IsTypedLeaf lookup path) :
    ∃ f, q.field? = some f ∧ Mapped lookup f ∧ f.nested = path ∧ q.Suits f.type := by
  obtain ⟨name, mapping, hname, hfield, hnested, hsuits⟩ := h
  exact ⟨mapping.toField, hfield, ⟨name, mapping, hname, rfl⟩, hnested, hsuits⟩

/-- A node without a field is placed if it is no nested object. -/
theorem Placed.of_field_none {q : Query} (hfield : q.field? = none)
    (hnested : ∀ path inner, q ≠ .nested path inner) : q.Placed lookup := by
  constructor
  · intro f hf
    rw [hfield] at hf
    cases hf
  · intro path inner heq
    exact absurd heq (hnested path inner)

theorem IsTypedLeaf.placed {path : Option String} {q : Query}
    (h : q.IsTypedLeaf lookup path) : q.Placed lookup := by
  obtain ⟨f, hfield, hmapped, -, hsuits⟩ := h.mapped
  constructor
  · intro g hg
    obtain rfl := Option.some.inj (hfield.symm.trans hg)
    exact ⟨hmapped, hsuits⟩
  · rintro path inner rfl
    cases hfield

theorem WellTyped.placed (q : Query) (h : q.WellTyped lookup) :
    ∀ x ∈ q.nodes, x.Placed lookup := by
  induction q using clauses_induction with
  | all =>
      intro x hx
      obtain rfl := List.mem_singleton.mp hx
      exact .of_field_none rfl fun _ _ => Query.noConfusion
  | leaf q f hf =>
      have htyped : q.IsTypedLeaf lookup none := by
        cases q <;> first | exact h | cases hf
      intro x hx
      rw [nodes_of_field hf] at hx
      obtain rfl := List.mem_singleton.mp hx
      exact htyped.placed
  | nested path q ih =>
      have htyped : q.IsTypedLeaf lookup (some path) := h
      obtain ⟨f, hfield, hmapped, hnested, -⟩ := htyped.mapped
      intro x hx
      rw [nodes, nodes_of_field hfield] at hx
      rcases List.mem_cons.mp hx with rfl | hx
      · constructor
        · intro g hg
          cases hg
        · rintro path' inner heq
          obtain ⟨rfl, -⟩ := (nested.injEq _ _ _ _).mp heq
          exact ⟨f, hmapped, hnested⟩
      · obtain rfl := List.mem_singleton.mp hx
        exact htyped.placed
  | bool must filter should mustNot ih =>
      intro x hx
      rcases mem_nodes_bool.mp hx with rfl | ⟨q, hq, hx⟩
      · exact .of_field_none rfl fun _ _ => Query.noConfusion
      · exact ih q hq ((clausewise_wellTyped lookup).bool.mp h q hq) x hx
  | boost q factor ih =>
      intro x hx
      rcases List.mem_cons.mp hx with rfl | hx
      · exact .of_field_none rfl fun _ _ => Query.noConfusion
      · exact ih h x hx

end Query

namespace FieldType

theorem hasType_of_value? {type : FieldType} {s : String} {v : Value}
    (h : type.value? s = some v) : v.HasType type := by
  cases type with
  | text =>
      obtain rfl := Option.some.inj h
      trivial
  | keyword =>
      obtain rfl := Option.some.inj h
      trivial
  | long =>
      obtain ⟨n, hn, rfl⟩ := Option.map_eq_some_iff.mp h
      obtain ⟨-, hrange⟩ := Option.filter_eq_some_iff.mp hn
      simpa [Value.HasType] using hrange
  | double =>
      obtain ⟨x, hx, rfl⟩ := Option.map_eq_some_iff.mp h
      exact (Option.filter_eq_some_iff.mp hx).2
  | date =>
      rw [value?] at h
      split at h
      · rename_i hdate
        obtain rfl := Option.some.inj h
        exact hdate
      · cases h
  | boolean =>
      obtain ⟨b, -, rfl⟩ := Option.map_eq_some_iff.mp h
      trivial

theorem isString_iff {type : FieldType} :
    type.isString = true ↔ type = .text ∨ type = .keyword := by
  cases type <;> simp [isString]

theorem isOrdered_iff {type : FieldType} :
    type.isOrdered = true ↔ type ≠ .boolean := by
  cases type <;> simp [isOrdered]

end FieldType

namespace Resolution

open Query

/-! ## What a literal resolves to -/

variable {field : Field}

theorem suits_termQuery {text : String} {q : Query}
    (h : termQuery field text = .ok q) :
    q.field? = some field ∧ q.Suits field.type := by
  rw [termQuery] at h
  split at h
  · rename_i htext
    obtain rfl := Except.ok.inj h
    exact ⟨rfl, htext⟩
  · rename_i htext
    split at h
    · rename_i v hv
      obtain rfl := Except.ok.inj h
      exact ⟨rfl, htext, FieldType.hasType_of_value? hv⟩
    · cases h

theorem hasType_boundValue {text : String} {v : Value}
    (h : boundValue field text = .ok v) : v.HasType field.type := by
  rw [boundValue] at h
  split at h
  · rename_i v' hv
    obtain rfl := Except.ok.inj h
    exact FieldType.hasType_of_value? hv
  · cases h

/-- An end of a range stays open or bounded, and its value has the type. -/
theorem hasType_bound {b : Bound String} {b' : Bound Value}
    (h : bound field b = .ok b') :
    (b' = .unbounded ↔ b = .unbounded) ∧
      ∀ v, b'.value? = some v → v.HasType field.type := by
  cases b with
  | unbounded =>
      obtain rfl := Except.ok.inj h
      simp [Bound.value?]
  | inclusive s =>
      obtain ⟨v, hv, rfl⟩ := map_eq_ok.mp h
      simpa [Bound.value?] using hasType_boundValue hv
  | exclusive s =>
      obtain ⟨v, hv, rfl⟩ := map_eq_ok.mp h
      simpa [Bound.value?] using hasType_boundValue hv

theorem suits_rangeQuery {lower upper : Bound String} {q : Query}
    (h : rangeQuery field lower upper = .ok q) :
    q.field? = some field ∧ q.Suits field.type := by
  rw [rangeQuery] at h
  split at h
  · cases h
  · rename_i hordered
    split at h
    · obtain rfl := Except.ok.inj h
      exact ⟨rfl, trivial⟩
    · rename_i hbounded
      obtain ⟨l, hl, h⟩ := bind_eq_ok.mp h
      obtain ⟨u, hu, h⟩ := bind_eq_ok.mp h
      obtain rfl := Except.ok.inj h
      obtain ⟨hl₁, hl₂⟩ := hasType_bound hl
      obtain ⟨hu₁, hu₂⟩ := hasType_bound hu
      refine ⟨rfl, FieldType.isOrdered_iff.mp (by simpa using hordered), ?_, hl₂, hu₂⟩
      rw [ne_eq, ne_eq, hl₁, hu₁]
      exact not_and_or.mp hbounded

/-- A pattern, which only strings can match. -/
theorem suits_stringQuery {literal : Literal} {q q' : Query}
    (hfield : q.field? = some field)
    (hsuits : field.type = .text ∨ field.type = .keyword → q.Suits field.type)
    (h : stringQuery field literal q = .ok q') :
    q'.field? = some field ∧ q'.Suits field.type := by
  obtain rfl := eq_of_stringQuery h
  rw [stringQuery] at h
  split at h
  · rename_i hstring
    exact ⟨hfield, hsuits (FieldType.isString_iff.mp hstring)⟩
  · cases h

theorem isMatchAll_iff {pattern : String} :
    Literal.isMatchAll pattern = true ↔
      pattern ≠ "" ∧ ∀ c ∈ pattern.toList, c = '*' := by
  simp [Literal.isMatchAll]

theorem suits_literalQuery {literal : Literal} {q : Query}
    (h : literalQuery field literal = .ok q) :
    q.field? = some field ∧ q.Suits field.type := by
  cases literal with
  | term text => exact suits_termQuery h
  | phrase text slop =>
      simp only [literalQuery] at h
      split at h
      · rename_i htext
        obtain rfl := Except.ok.inj h
        exact ⟨rfl, htext⟩
      · exact suits_termQuery h
  | range lower upper => exact suits_rangeQuery h
  | wildcard pattern =>
      simp only [literalQuery] at h
      split at h
      · obtain rfl := Except.ok.inj h
        exact ⟨rfl, trivial⟩
      · rename_i hstars
        have hpattern := mt isMatchAll_iff.mpr hstars
        apply suits_stringQuery rfl _ h
        intro hstring
        exact ⟨hstring, hpattern⟩
  | fuzzy text distance => exact suits_stringQuery rfl id h
  | regex pattern => exact suits_stringQuery rfl id h

variable {lookup : String → Option FieldMapping} {options : ResolveOptions}

theorem mapped_of_fieldNamed {target : String}
    (h : fieldNamed lookup target = .ok field) :
    ∃ name mapping, lookup name = some mapping ∧ mapping.toField = field := by
  rw [fieldNamed] at h
  split at h
  · rename_i m hm
    exact ⟨target, m, hm, Except.ok.inj h⟩
  · cases h

/-- The field of a leaf is a mapped one, by its name or by default. -/
theorem mapped_of_leafField {name : Option String} {literal : Literal}
    (h : leafField lookup options name literal = .ok field) :
    ∃ name mapping, lookup name = some mapping ∧ mapping.toField = field := by
  cases name with
  | none =>
      cases hdefault : options.defaultField with
      | none =>
          rw [leafField.eq_def, hdefault] at h
          cases h
      | some default =>
          rw [leafField.eq_def, hdefault] at h
          exact mapped_of_fieldNamed h
  | some name =>
      simp only [leafField] at h
      split at h
      · rename_i m hm
        exact ⟨name, m, hm, Except.ok.inj h⟩
      · exact mapped_of_fieldNamed h
      · cases h

theorem wellTyped_leaf {scope name : Option String} {literal : Literal}
    {q : Query} (h : leaf lookup options scope name literal = .ok q) :
    q.WellTyped lookup := by
  simp only [leaf] at h
  split at h
  · obtain rfl := Except.ok.inj h
    trivial
  · obtain ⟨f, hf, h⟩ := bind_eq_ok.mp h
    obtain ⟨q', hq', h⟩ := bind_eq_ok.mp h
    obtain rfl := Except.ok.inj h
    obtain ⟨target, m, hm, rfl⟩ := mapped_of_leafField hf
    obtain ⟨hfield, hsuits⟩ := suits_literalQuery hq'
    have hleaf : q'.IsTypedLeaf lookup m.nested :=
      ⟨target, m, hm, hfield, rfl, hsuits⟩
    cases hnested : m.nested with
    | none =>
        rw [hnested] at hleaf
        exact hleaf.wellTyped
    | some path =>
        rw [hnested] at hleaf
        exact hleaf

end Resolution

theorem wellTyped_of_resolve {lookup : String → Option FieldMapping}
    {options : ResolveOptions} {e : Option Expr} {q : Query}
    (h : resolve lookup options e = .ok q) : q.WellTyped lookup :=
  (Query.clausewise_wellTyped lookup).resolve trivial
    (fun _ _ _ _ => Resolution.wellTyped_leaf) h

/-- **Resolved queries are well typed**, whatever the expression, the mappings
and the options. -/
theorem resolve_wellTyped {lookup : String → Option FieldMapping}
    {options : ResolveOptions} {e : Expr} {q : Query}
    (h : resolve lookup options (some e) = .ok q) : q.WellTyped lookup :=
  wellTyped_of_resolve h

/-- A range of integers beside an excluded term in a nested object. -/
theorem resolve_wellTyped_nested_exclusion :
    let views : FieldMapping :=
      { name := "views", path := "stats.views", type := .long }
    let note : FieldMapping :=
      { name := "note", path := "notes.body", type := .text, nested := "notes" }
    let lookup (name : String) : Option FieldMapping :=
      if name = "views" then some views else some note
    let e : Expr := .bool .and
      [.leaf (some "views") (.range (.inclusive "-10") (.exclusive "20")),
        .not (.boosted (.inField "note" (.leaf none (.phrase "a b" 1))) .nan)]
    let q : Query := .bool
      [.range views.toField (.inclusive (.integer (-10)))
        (.exclusive (.integer 20))] [] []
      [.boost (.nested "notes" (.phrase note.toField "a b" 1)) .nan]
    resolve lookup {} (some e) = .ok q ∧ q.WellTyped lookup := by
  intro views note lookup e q
  have h : resolve lookup {} (some e) = .ok q := rfl
  exact ⟨h, resolve_wellTyped h⟩

end Searchlight
