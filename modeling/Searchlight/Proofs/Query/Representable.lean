import Searchlight.Proofs.Expr.WellFormed
import Searchlight.Proofs.Number.One
import Searchlight.Proofs.Query.Document

/-!
# Queries without a document

JSON holds finite numbers only. A query has no document just if a number that is
not finite stands in it as a value, or is what the factors of boosts around one
query come to. In a query that was parsed and resolved the values are finite, and
so is each factor; only their product can overflow.
-/

namespace Searchlight

open Document

/-! ## Failures of a document's parts -/

def Value.float? : Value → Option Double
  | float x => some x
  | _ => none

namespace Document

theorem failure?_float (node : String) (place : NonFinite) (x : Double) :
    failure? (float node place x) =
      if x.isFinite then none else some ⟨node, place, x⟩ := by
  rw [float]
  split <;> rfl

theorem failure?_value (node : String) (v : Value) :
    failure? (value node v) =
      v.float?.toList.findSome? fun x => failure? (float node .value x) := by
  cases v with
  | float x => simp [value, Value.float?]
  | _ => rfl

theorem failure?_bound (node inclusive exclusive : String) (b : Bound Value) :
    failure? (bound node inclusive exclusive b) =
      (b.value?.bind Value.float?).toList.findSome? fun x =>
        failure? (float node .value x) := by
  cases b with
  | unbounded => rfl
  | inclusive v | exclusive v =>
      rw [bound, failure?_map, failure?_value]
      rfl

/-- A factor of one is not written, but it is finite anyway. -/
theorem boostMember_eq_error {node : String} {outer : Option Single}
    {e : DocumentError} : boostMember node outer = .error e ↔
      ∃ x ∈ outer, x.isFinite = false ∧ e = ⟨node, .boost, x.widen⟩ := by
  cases outer with
  | none => simp [boostMember]
  | some x =>
      rw [boostMember]
      split
      · rename_i hone
        rw [Binary.same_one.mp hone]
        simp [Binary.one_single, Binary.isFinite]
      · rw [map_eq_error, ← failure?_eq_some, failure?_float, Binary.isFinite_widen]
        cases hx : x.isFinite with
        | true => simp [hx]
        | false =>
            constructor
            · intro h
              exact ⟨x, rfl, hx, (Option.some.inj h).symm⟩
            · rintro ⟨_, hmem, -, rfl⟩
              obtain rfl := Option.some.inj hmem
              rfl

end Document

namespace Query

/-- The floating-point numbers that a query itself asks for. -/
def numbers : Query → List Double
  | term _ v => v.float?.toList
  | range _ lower upper =>
      (lower.value?.bind Value.float?).toList ++ (upper.value?.bind Value.float?).toList
  | _ => []

theorem failure?_documents (qs : List Query) :
    failure? (documents qs) = qs.findSome? fun q => failure? q.document := by
  induction qs with
  | nil => rfl
  | cons q qs ih =>
      rw [documents, failure?_both, ih, List.findSome?_cons, document]
      cases failure? (documentWith none q) <;> rfl

/-- Parameters fail where one of the numbers or of the parts does. -/
theorem failure?_params (q : Query) :
    failure? q.params =
      (q.numbers.findSome? fun x => failure? (float q.kind .value x)).or
        (q.parts.findSome? fun p => failure? p.document) := by
  cases q with
  | all | fullText | phrase | wildcard | fuzzy | regex | «exists» | boost => rfl
  | term f v =>
      rw [params, failure?_map, failure?_value]
      exact Option.or_none.symm
  | range f lower upper =>
      rw [params, failure?_bind fun l => failure?_map _ _, failure?_bound, failure?_bound,
        numbers, List.findSome?_append]
      exact Option.or_none.symm
  | nested path q =>
      rw [params, failure?_map]
      simp [numbers, parts, document]
  | bool must filter should mustNot =>
      rw [params, failure?_bind fun m => failure?_bind fun f => failure?_bind fun s =>
        failure?_map _ _]
      simp only [failure?_documents, numbers, parts, List.findSome?_append,
        List.findSome?_nil, Option.none_or, Option.or_assoc]

/-! ## Chains of boosts -/

/-- The factors of the boosts around a query, the outermost first. -/
def factors : Query → List Single
  | boost q factor => factor :: q.factors
  | _ => []

/-- What is left of a query without the boosts around it. -/
def unboosted : Query → Query
  | boost q _ => q.unboosted
  | q => q

/-- The product of factors, rounded at each from the first on. -/
def product : List Single → Option Single
  | [] => none
  | factor :: rest => some (rest.foldl Binary.mul factor)

theorem isBoost_unboosted (q : Query) : isBoost q.unboosted = false := by
  fun_induction unboosted q with
  | case1 q factor ih => exact ih
  | case2 q hq =>
      cases q with
      | boost q factor => exact absurd rfl (hq q factor)
      | _ => rfl

theorem kind_unboosted (q : Query) : q.unboosted.kind = q.kind := by
  fun_induction unboosted q with
  | case1 q factor ih => exact ih
  | case2 q _ => rfl

/-- Boosts that are one in another come to one boost of what is inside. -/
theorem documentWith_unboosted (q : Query) (outer : Option Single) :
    documentWith outer q = documentWith (product (outer.toList ++ q.factors)) q.unboosted := by
  fun_induction unboosted q generalizing outer with
  | case1 q factor ih =>
      cases outer with
      | none => exact ih (some factor)
      | some o => exact ih (some (o.mul factor))
  | case2 q hq =>
      have hfactors : q.factors = [] := by
        cases q with
        | boost q factor => exact absurd rfl (hq q factor)
        | _ => rfl
      rw [hfactors, List.append_nil]
      cases outer <;> rfl

theorem sizeOf_unboosted_le (q : Query) : sizeOf q.unboosted ≤ sizeOf q := by
  fun_induction unboosted q with
  | case1 q factor ih =>
      simp only [boost.sizeOf_spec]
      omega
  | case2 q _ => exact Nat.le_refl _

theorem sizeOf_part_lt {p q : Query} (h : p ∈ q.unboosted.parts) :
    sizeOf p < sizeOf q :=
  Nat.lt_of_lt_of_le (sizeOf_of_mem_parts h) (sizeOf_unboosted_le q)

mutual

/-- What is inside of a query and not directly inside of a boost. -/
def inside : Query → List Query
  | nested _ q => q :: q.inside
  | bool must filter should mustNot =>
      insideAll must ++ insideAll filter ++ insideAll should ++ insideAll mustNot
  | boost q _ => q.inside
  | _ => []

def insideAll : List Query → List Query
  | [] => []
  | q :: rest => q :: q.inside ++ insideAll rest

end

/-- The queries in a query that a chain of boosts as long as can be begins at,
or that have no boost around them. -/
def heads (q : Query) : List Query := q :: q.inside

theorem mem_insideAll {x : Query} :
    ∀ {qs : List Query}, x ∈ insideAll qs ↔ ∃ q ∈ qs, x ∈ q.heads
  | [] => by simp [insideAll]
  | q :: qs => by simp [insideAll, heads, @mem_insideAll x qs, or_assoc]

theorem mem_inside {x q : Query} :
    x ∈ q.inside ↔ ∃ p ∈ q.unboosted.parts, x ∈ p.heads := by
  fun_induction unboosted q with
  | case1 q factor ih => exact ih
  | case2 q hq =>
      cases q with
      | boost q factor => exact absurd rfl (hq q factor)
      | nested path q => simp [inside, parts, heads]
      | bool must filter should mustNot =>
          simp [inside, parts, mem_insideAll, or_and_right, exists_or]
      | _ => simp [inside, parts]

theorem mem_heads {x q : Query} :
    x ∈ q.heads ↔ x = q ∨ ∃ p ∈ q.unboosted.parts, x ∈ p.heads := by
  rw [heads, List.mem_cons, mem_inside]

/-- A node that is no boost is what boosts leave of the query, or in a part. -/
theorem mem_nodes_unboosted {x q : Query} (hx : isBoost x = false) :
    x ∈ q.nodes ↔ x = q.unboosted ∨ ∃ p ∈ q.unboosted.parts, x ∈ p.nodes := by
  fun_induction unboosted q with
  | case1 q factor ih =>
      rw [nodes, List.mem_cons, ← ih]
      refine or_iff_right ?_
      rintro rfl
      cases hx
  | case2 q hq =>
      cases q with
      | boost q factor => exact absurd rfl (hq q factor)
      | nested path q => simp [nodes, parts]
      | bool must filter should mustNot => exact mem_nodes_bool
      | _ => simp [nodes, parts]

/-! ## What has no document -/

/-- A number in a query that JSON cannot hold, and what is told of it. -/
inductive Unrepresentable (q : Query) : DocumentError → Prop
  | value {x : Query} {y : Double} (hx : x ∈ q.nodes) (hy : y ∈ x.numbers)
      (hinfinite : y.isFinite = false) : Unrepresentable q ⟨x.kind, .value, y⟩
  | boost {x : Query} {y : Single} (hx : x ∈ q.heads) (hy : product x.factors = some y)
      (hinfinite : y.isFinite = false) : Unrepresentable q ⟨x.kind, .boost, y.widen⟩

theorem isBoost_of_mem_numbers {x : Query} {y : Double} (h : y ∈ x.numbers) :
    isBoost x = false := by
  cases x with
  | boost q factor => cases h
  | _ => rfl

/-- The number is in what the query boosts, or in a part of that, or it is the
product of the factors around it. -/
theorem unrepresentable_iff {q : Query} {e : DocumentError} :
    q.Unrepresentable e ↔
      (∃ y ∈ q.unboosted.numbers, y.isFinite = false ∧ e = ⟨q.kind, .value, y⟩) ∨
        (∃ p ∈ q.unboosted.parts, p.Unrepresentable e) ∨
          ∃ y ∈ product q.factors, y.isFinite = false ∧ e = ⟨q.kind, .boost, y.widen⟩ := by
  constructor
  · rintro (⟨hx, hy, hinfinite⟩ | ⟨hx, hy, hinfinite⟩)
    · rcases (mem_nodes_unboosted (isBoost_of_mem_numbers hy)).mp hx with rfl | ⟨p, hp, hx⟩
      · exact .inl ⟨_, hy, hinfinite, by rw [kind_unboosted]⟩
      · exact .inr (.inl ⟨p, hp, .value hx hy hinfinite⟩)
    · rcases mem_heads.mp hx with rfl | ⟨p, hp, hx⟩
      · exact .inr (.inr ⟨_, hy, hinfinite, rfl⟩)
      · exact .inr (.inl ⟨p, hp, .boost hx hy hinfinite⟩)
  · rintro (⟨y, hy, hinfinite, rfl⟩ | ⟨p, hp, ⟨hx, hy, hinfinite⟩ | ⟨hx, hy, hinfinite⟩⟩ |
      ⟨y, hy, hinfinite, rfl⟩)
    · rw [← kind_unboosted]
      have hself := (mem_nodes_unboosted (isBoost_unboosted q)).mpr (.inl rfl)
      exact .value hself hy hinfinite
    · have hnode := (mem_nodes_unboosted (isBoost_of_mem_numbers hy)).mpr (.inr ⟨p, hp, hx⟩)
      exact .value hnode hy hinfinite
    · exact .boost (mem_heads.mpr (.inr ⟨p, hp, hx⟩)) hy hinfinite
    · exact .boost (mem_heads.mpr (.inl rfl)) hy hinfinite

/-- A document fails at its own numbers first, then at its parts, and at the boost
last. -/
theorem failure?_document (q : Query) :
    failure? q.document =
      ((q.unboosted.numbers.findSome? fun y => failure? (float q.kind .value y)).or
        (q.unboosted.parts.findSome? fun p => failure? p.document)).or
          (failure? (boostMember q.kind (product q.factors))) := by
  rw [document, documentWith_unboosted, documentWith_eq (isBoost_unboosted q),
    failure?_bind fun ps => failure?_map _ _, failure?_params, kind_unboosted]
  rfl

theorem unrepresentable_of_failure (q : Query) {e : DocumentError}
    (h : failure? q.document = some e) : q.Unrepresentable e := by
  rw [failure?_document, Option.or_eq_some_iff, Option.or_eq_some_iff] at h
  rw [unrepresentable_iff]
  rcases h with (hvalue | ⟨-, hpart⟩) | ⟨-, hboost⟩
  · obtain ⟨y, hy, hfail⟩ := List.exists_of_findSome?_eq_some hvalue
    rw [failure?_float] at hfail
    split at hfail
    · cases hfail
    · rename_i hinfinite
      exact .inl ⟨y, hy, by simpa using hinfinite, (Option.some.inj hfail).symm⟩
  · obtain ⟨p, hp, hfail⟩ := List.exists_of_findSome?_eq_some hpart
    exact .inr (.inl ⟨p, hp, unrepresentable_of_failure p hfail⟩)
  · exact .inr (.inr (boostMember_eq_error.mp (failure?_eq_some.mp hboost)))
termination_by sizeOf q
decreasing_by exact sizeOf_part_lt ‹_›

/-- Nothing that a document leaves out hides a number. -/
theorem not_unrepresentable_of_ok (q : Query) (h : failure? q.document = none)
    (e : DocumentError) : ¬q.Unrepresentable e := by
  rw [failure?_document, Option.or_eq_none_iff, Option.or_eq_none_iff,
    List.findSome?_eq_none_iff, List.findSome?_eq_none_iff] at h
  obtain ⟨⟨hvalue, hpart⟩, hboost⟩ := h
  rw [unrepresentable_iff]
  rintro (⟨y, hy, hinfinite, -⟩ | ⟨p, hp, hrest⟩ | hproduct)
  · have hfinite := hvalue y hy
    rw [failure?_float, hinfinite] at hfinite
    cases hfinite
  · exact not_unrepresentable_of_ok p (hpart p hp) e hrest
  · rw [failure?_eq_some.mpr (boostMember_eq_error.mpr hproduct)] at hboost
    cases hboost
termination_by sizeOf q
decreasing_by exact sizeOf_part_lt ‹_›

theorem mem_nodes_of_inside {x : Query} (q : Query) (h : x ∈ q.inside) :
    x ∈ q.nodes := by
  have hheads : ∀ {p : Query}, (x ∈ p.inside → x ∈ p.nodes) → x ∈ p.heads →
      x ∈ p.nodes := by
    intro p hp hx
    rcases List.mem_cons.mp hx with rfl | hx
    · exact mem_nodes_self x
    · exact hp hx
  induction q using clauses_induction with
  | all => cases h
  | leaf q f hf =>
      cases q with
      | nested | bool | boost => cases hf
      | _ => cases h
  | nested path q ih => exact List.mem_cons_of_mem _ (hheads ih h)
  | bool must filter should mustNot ih =>
      obtain ⟨p, hp, hx⟩ := mem_inside.mp h
      exact mem_nodes_bool.mpr (.inr ⟨p, hp, hheads (ih p hp) hx⟩)
  | boost q factor ih => exact List.mem_cons_of_mem _ (ih h)

theorem mem_nodes_of_heads {x q : Query} (h : x ∈ q.heads) : x ∈ q.nodes := by
  rcases List.mem_cons.mp h with rfl | h
  · exact mem_nodes_self x
  · exact mem_nodes_of_inside q h

end Query

/-! ## Products of factors -/

namespace Binary

variable {f : BinaryFormat}

/-- Neither negative nor none. -/
def IsMagnitude : Binary f → Prop
  | finite negative _ | infinite negative => negative = false
  | nan => False

theorem isMagnitude_ofRank (rank : ℕ) : (ofRank false rank : Binary f).IsMagnitude := by
  rw [ofRank]
  split <;> rfl

theorem isMagnitude_of_isPositive {x : Binary f} (h : x.isPositive = true) :
    x.IsMagnitude := by
  cases x with
  | finite negative rank =>
      rw [isPositive, Bool.and_eq_true, Bool.not_eq_true'] at h
      exact h.1
  | infinite negative =>
      rw [isPositive, Bool.not_eq_true'] at h
      exact h
  | nan => cases h

/-- Only a product of zero and infinity would be none. -/
theorem isMagnitude_mul {x y : Binary f} (hx : x.IsMagnitude) (hfinite : y.isFinite = true)
    (hpositive : y.isPositive = true) : (x.mul y).IsMagnitude := by
  cases y with
  | infinite _ | nan => cases hfinite
  | finite negative b =>
      obtain ⟨rfl, hb⟩ : negative = false ∧ b.val ≠ 0 := by
        simpa [isPositive] using hpositive
      cases x with
      | nan => cases hx
      | infinite s =>
          obtain rfl : s = false := hx
          rw [mul, if_neg hb]
          rfl
      | finite s a =>
          obtain rfl : s = false := hx
          exact isMagnitude_ofRank _

theorem IsMagnitude.eq_infinite {x : Binary f} (hx : x.IsMagnitude)
    (hinfinite : x.isFinite = false) : x = .infinite false := by
  cases x with
  | finite negative rank => cases hinfinite
  | nan => cases hx
  | infinite negative => exact congrArg infinite hx

end Binary

namespace Query

theorem isMagnitude_product {fs : List Single} {x : Single} (h : product fs = some x)
    (hfs : ∀ f ∈ fs, f.isFinite = true ∧ f.isPositive = true) : x.IsMagnitude := by
  have hfold : ∀ (fs : List Single) (first : Single), first.IsMagnitude →
      (∀ f ∈ fs, f.isFinite = true ∧ f.isPositive = true) →
      (fs.foldl Binary.mul first).IsMagnitude := by
    intro fs
    induction fs with
    | nil => exact fun _ hfirst _ => hfirst
    | cons f fs ih =>
        intro first hfirst hfs
        obtain ⟨⟨hfinite, hpositive⟩, hfs⟩ := List.forall_mem_cons.mp hfs
        exact ih _ (Binary.isMagnitude_mul hfirst hfinite hpositive) hfs
  cases fs with
  | nil => cases h
  | cons first fs =>
      obtain ⟨⟨-, hpositive⟩, hfs⟩ := List.forall_mem_cons.mp hfs
      obtain rfl := Option.some.inj h
      exact hfold fs first (Binary.isMagnitude_of_isPositive hpositive) hfs

/-- A product of factors of a kind, in some order. -/
def IsProductOf (B : Single → Prop) (x : Single) : Prop :=
  ∃ fs, product fs = some x ∧ ∀ f ∈ fs, B f

theorem IsProductOf.mul {B : Single → Prop} {x y : Single} (hx : IsProductOf B x)
    (hy : B y) : IsProductOf B (x.mul y) := by
  obtain ⟨fs, hproduct, hfs⟩ := hx
  refine ⟨fs ++ [y], ?_, ?_⟩
  · cases fs with
    | nil => cases hproduct
    | cons first fs =>
        obtain rfl := Option.some.inj hproduct
        simp [product]
  · intro f hf
    rcases List.mem_append.mp hf with hf | hf
    · exact hfs f hf
    · rw [List.mem_singleton.mp hf]
      exact hy

/-- A boost is by a product of factors of a kind. -/
def BoostsBy (B : Single → Prop) : Query → Prop
  | boost _ factor => IsProductOf B factor
  | _ => True

end Query

/-! ## Numbers of resolved queries -/

theorem Expr.inherited_factors (B : Single → Prop) :
    Resolution.Inherited fun e => ∀ body factor, .boosted body factor ∈ e.nodes → B factor where
  inField := fun h body factor hmem => h body factor (List.mem_cons_of_mem _ hmem)
  boosted := fun h body factor hmem => h body factor (List.mem_cons_of_mem _ hmem)
  bool := by
    intro op operands h e he body factor hmem
    refine h body factor (List.mem_cons_of_mem _ ?_)
    exact mem_nodesAll.mpr ⟨e, he, hmem⟩
  not := by
    intro e h body factor hmem
    simp only [Expr.not, nodes, nodesAll, List.append_nil, List.mem_cons] at hmem
    rcases hmem with hmem | hmem
    · cases hmem
    · exact h body factor hmem

namespace Value

theorem HasType.isFinite {v : Value} {type : FieldType} (h : v.HasType type) {x : Double}
    (hx : x ∈ v.float?) : x.isFinite = true := by
  cases v with
  | float y =>
      obtain rfl := Option.some.inj hx
      cases type with
      | double => exact h
      | _ => cases h
  | _ => cases hx

end Value

variable {lookup : String → Option FieldMapping} {options : ResolveOptions}
  {e : Option Expr} {q : Query}

namespace Query

theorem Suits.isFinite {q : Query} {type : FieldType} (h : q.Suits type) :
    ∀ x ∈ q.numbers, x.isFinite = true := by
  intro x hx
  cases q with
  | term f v => exact h.2.isFinite (Option.mem_toList.mp hx)
  | range f lower upper =>
      obtain ⟨-, -, hlower, hupper⟩ := h
      rcases List.mem_append.mp hx with hx | hx
      · obtain ⟨v, hv, hx⟩ := Option.bind_eq_some_iff.mp (Option.mem_toList.mp hx)
        exact (hlower v hv).isFinite hx
      · obtain ⟨v, hv, hx⟩ := Option.bind_eq_some_iff.mp (Option.mem_toList.mp hx)
        exact (hupper v hv).isFinite hx
  | _ => cases hx

theorem isFinite_of_resolve (h : resolve lookup options e = .ok q) :
    ∀ x ∈ q.nodes, ∀ y ∈ x.numbers, y.isFinite = true := by
  intro x hx y hy
  have hplaced := (wellTyped_of_resolve h).placed q x hx
  cases x with
  | term f v => exact (hplaced.leaf f rfl).2.isFinite y hy
  | range f lower upper => exact (hplaced.leaf f rfl).2.isFinite y hy
  | _ => cases hy

/-- Boosts of a resolved query are products of factors of the expression. -/
theorem boostsBy_of_resolve {B : Single → Prop}
    (he : ∀ root ∈ e, ∀ body factor, .boosted body factor ∈ root.nodes → B factor)
    (h : resolve lookup options e = .ok q) : ∀ x ∈ q.nodes, x.BoostsBy B := by
  refine Splits.resolve (P := fun q => ∀ x ∈ q.nodes, x.BoostsBy B)
    (splits_nodes fun _ _ _ _ => trivial) (Expr.inherited_factors B) ?_ ?_ ?_ he h
  · intro body factor q hroot hq x hx
    have hfactor : B factor := hroot body factor List.mem_cons_self
    rcases mem_nodes_boosted hx with hx | ⟨rfl, -⟩ | ⟨inner, first, rfl, rfl, -⟩
    · exact hq x hx
    · exact ⟨[factor], rfl, by simpa using hfactor⟩
    · have hfirst : IsProductOf B first := hq _ (mem_nodes_self _)
      exact hfirst.mul hfactor
  · simp [nodes, BoostsBy]
  · intro scope field literal q hleaf
    refine Resolution.forall_nodes_leaf (N := BoostsBy B) trivial ?_ ?_ hleaf
    · intro f literal q hq
      have hfield := (Resolution.suits_literalQuery hq).1
      cases q with
      | boost q factor => cases hfield
      | _ => trivial
    · exact fun _ _ => trivial

theorem factors_of_not_boost {q : Query} (h : isBoost q = false) : q.factors = [] := by
  cases q with
  | boost q factor => cases h
  | _ => rfl

/-- Boosts of resolved queries do not multiply, so that a chain is one boost. -/
theorem boost_of_product {x : Query} {y : Single} (hx : x.Settled)
    (h : product x.factors = some y) : ∃ inner, x = boost inner y := by
  cases x with
  | boost inner factor =>
      obtain ⟨hinner, -⟩ := hx
      rw [factors, factors_of_not_boost hinner] at h
      obtain rfl : factor = y := Option.some.inj h
      exact ⟨inner, rfl⟩
  | _ => cases h

theorem exists_unrepresentable {q : Query} : (∃ e, q.Unrepresentable e) ↔
    (∃ x ∈ q.nodes, ∃ y ∈ x.numbers, y.isFinite = false) ∨
      ∃ x ∈ q.heads, ∃ y ∈ product x.factors, y.isFinite = false := by
  constructor
  · rintro ⟨_, ⟨hx, hy, hinfinite⟩ | ⟨hx, hy, hinfinite⟩⟩
    · exact .inl ⟨_, hx, _, hy, hinfinite⟩
    · exact .inr ⟨_, hx, _, hy, hinfinite⟩
  · rintro (⟨x, hx, y, hy, hinfinite⟩ | ⟨x, hx, y, hy, hinfinite⟩)
    · exact ⟨_, .value hx hy hinfinite⟩
    · exact ⟨_, .boost hx hy hinfinite⟩

end Query

open Query

/-- A query that was parsed and resolved has a document unless a product of factors
that were written in it overflows. -/
theorem overflow_of_parsed {text : String} (hparse : parseQuery text = .ok e)
    (h : resolve lookup options e = .ok q) {err : DocumentError}
    (hfail : q.document = .error err) :
    ∃ inner factors, .boost inner (.infinite false) ∈ q.nodes ∧
      err = ⟨inner.kind, .boost, .infinite false⟩ ∧
      product factors = some (.infinite false) ∧
      ∀ f ∈ factors, f.isFinite = true ∧ f.isPositive = true ∧
        ∃ root ∈ e, ∃ body, .boosted body f ∈ root.nodes := by
  have hwritten : ∀ root ∈ e, ∀ body f, .boosted body f ∈ root.nodes →
      f.isFinite = true ∧ f.isPositive = true ∧
        ∃ root ∈ e, ∃ body, .boosted body f ∈ root.nodes := by
    rintro root rfl body f hmem
    have hwell : (Expr.boosted body f).WellFormed :=
      (shaped_of_parseQuery hparse).wellFormed (spellable_of_parseQuery hparse) _ hmem
    exact ⟨hwell.1, hwell.2, root, rfl, body, hmem⟩
  cases unrepresentable_of_failure q (failure?_eq_some.mpr hfail) with
  | value hx hy hinfinite =>
      rw [isFinite_of_resolve h _ hx _ hy] at hinfinite
      cases hinfinite
  | boost hx hy hinfinite =>
      have hnode := mem_nodes_of_heads hx
      obtain ⟨inner, rfl⟩ := boost_of_product (settled_of_resolve h _ hnode) hy
      obtain ⟨fs, hproduct, hfs⟩ := boostsBy_of_resolve hwritten h _ hnode
      have hmagnitude := isMagnitude_product hproduct fun f hf =>
        ⟨(hfs f hf).1, (hfs f hf).2.1⟩
      obtain rfl := hmagnitude.eq_infinite hinfinite
      exact ⟨inner, fs, hnode, rfl, hproduct, hfs⟩

/-- **A query has no document just if it holds a number that JSON does not.** Such
a number is a value, or the product of the factors of boosts around one query, and
the error names the kind of that query. In a query that was parsed and resolved it
is an overflowing product of factors that were written. -/
theorem document_fails_on_numbers (q : Query) :
    ((∃ err, q.document = .error err) ↔
      (∃ x ∈ q.nodes, ∃ y ∈ x.numbers, y.isFinite = false) ∨
        ∃ x ∈ q.heads, ∃ y ∈ product x.factors, y.isFinite = false) ∧
      (∀ err, q.document = .error err → q.Unrepresentable err) ∧
      ∀ {text : String} {e : Option Expr} {lookup : String → Option FieldMapping}
        {options : ResolveOptions} {err : DocumentError},
        parseQuery text = .ok e → resolve lookup options e = .ok q →
        q.document = .error err →
        ∃ inner factors, .boost inner (.infinite false) ∈ q.nodes ∧
          err = ⟨inner.kind, .boost, .infinite false⟩ ∧
          product factors = some (.infinite false) ∧
          ∀ f ∈ factors, f.isFinite = true ∧ f.isPositive = true ∧
            ∃ root ∈ e, ∃ body, .boosted body f ∈ root.nodes := by
  have hsound : ∀ err, q.document = .error err → q.Unrepresentable err :=
    fun err h => unrepresentable_of_failure q (failure?_eq_some.mpr h)
  refine ⟨?_, hsound, ?_⟩
  · rw [← exists_unrepresentable]
    constructor
    · rintro ⟨err, h⟩
      exact ⟨err, hsound err h⟩
    · rintro ⟨err, h⟩
      cases hdocument : q.document with
      | error err => exact ⟨err, rfl⟩
      | ok d =>
          have hnone : failure? q.document = none := by rw [hdocument]; rfl
          exact absurd h (not_unrepresentable_of_ok q hnone err)
  · intro text e lookup options err hparse h hfail
    exact overflow_of_parsed hparse h hfail

/-- Two factors that are in reach of single precision, and their product is not. -/
theorem document_fails_on_numbers_overflow :
    let text := "b OR (a^99999999999999999999)^99999999999999999999"
    let body : FieldMapping := { name := "body", path := "body", type := .text }
    let options : ResolveOptions := { defaultField := "body" }
    let huge : Single := .finite false ⟨0x60ad78ec, by decide⟩
    let a : Expr := .leaf none (.term "a")
    let e : Expr := .bool .or [.leaf none (.term "b"), .boosted (.boosted a huge) huge]
    let match? (s : String) : Query := .fullText body.toField s
    let q : Query := .bool [] [] [match? "b", .boost (match? "a") (.infinite false)] []
    let err : DocumentError := ⟨"match", .boost, .infinite false⟩
    parseQuery text = .ok (some e) ∧ resolve (fun _ => some body) options (some e) = .ok q ∧
      q.document = .error err ∧ q.Unrepresentable err ∧
      ∃ inner factors, .boost inner (.infinite false) ∈ q.nodes ∧
        err = ⟨inner.kind, .boost, .infinite false⟩ ∧
        product factors = some (.infinite false) ∧
        ∀ f ∈ factors, f.isFinite = true ∧ f.isPositive = true := by
  intro text body options huge a e match? q err
  have htokens : tokenize text = .ok
      [⟨.term "b", "b", 0⟩, ⟨.or, "OR", 2⟩, ⟨.openGroup, "(", 5⟩, ⟨.term "a", "a", 6⟩,
        ⟨.boost huge, "^99999999999999999999", 7⟩, ⟨.closeGroup, ")", 28⟩,
        ⟨.boost huge, "^99999999999999999999", 29⟩] := by
    decide +kernel
  have hparse : parseQuery text = .ok (some e) := by
    rw [parseQuery, htokens]
    rfl
  have hproduct : huge.mul huge = .infinite false := by decide +kernel
  have h : resolve (fun _ => some body) options (some e) = .ok q := by
    have hboosted : (match? "a").boosted huge = .boost (match? "a") huge := rfl
    have hfactor : (Query.boost (match? "a") huge).boosted huge =
        .boost (match? "a") (.infinite false) := by
      rw [boosted, hproduct]
      rfl
    show Except.ok (Resolution.disjunction
      [match? "b", ((match? "a").boosted huge).boosted huge]) = .ok q
    rw [hboosted, hfactor]
    rfl
  have hfail : q.document = .error err := rfl
  obtain ⟨-, hsound, hoverflow⟩ := document_fails_on_numbers q
  obtain ⟨inner, fs, hmem, herr, hproduct, hfs⟩ := hoverflow hparse h hfail
  exact ⟨hparse, h, hfail, hsound err hfail, inner, fs, hmem, herr, hproduct,
    fun f hf => ⟨(hfs f hf).1, (hfs f hf).2.1⟩⟩

end Searchlight
