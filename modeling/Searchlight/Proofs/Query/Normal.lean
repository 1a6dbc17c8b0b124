import Searchlight.Proofs.Expr.Shape
import Searchlight.Proofs.Query.Induction

/-!
# The normal form of resolved queries

A boolean query that resolving puts together has clauses of one sort: at least
two alternatives and nothing else, or clauses that must and clauses that must
not match, which are not a single positive one. What could have been spliced
into it is not nested in it, and boosts neither multiply nor are one.
-/

namespace Searchlight

namespace Query

/-- A boolean query that only has clauses that must and that must not match. -/
def isConjunction : Query → Bool
  | bool _ [] [] _ => true
  | _ => false

/-- A boolean query that only has alternatives. -/
def isDisjunction : Query → Bool
  | bool [] [] _ [] => true
  | _ => false

theorem isConjunction_iff {q : Query} :
    isConjunction q = true ↔ ∃ must mustNot, q = bool must [] [] mustNot := by
  constructor
  · intro h
    rw [isConjunction.eq_def] at h
    split at h
    · exact ⟨_, _, rfl⟩
    · simp at h
  · rintro ⟨must, mustNot, rfl⟩
    rfl

theorem isDisjunction_iff {q : Query} :
    isDisjunction q = true ↔ ∃ should, q = bool [] [] should [] := by
  constructor
  · intro h
    rw [isDisjunction.eq_def] at h
    split at h
    · exact ⟨_, rfl⟩
    · simp at h
  · rintro ⟨should, rfl⟩
    rfl

def isBoost : Query → Bool
  | boost _ _ => true
  | _ => false

/-- Neither a boolean combination nor a boost: what a leaf resolves to. -/
def isLeaf : Query → Bool
  | bool _ _ _ _ | boost _ _ => false
  | _ => true

def NormalConjunction (must mustNot : List Query) : Prop :=
  (2 ≤ must.length ∨ mustNot ≠ []) ∧ ∀ q ∈ must, isConjunction q = false

def NormalDisjunction (should : List Query) : Prop :=
  2 ≤ should.length ∧ ∀ q ∈ should, isDisjunction q = false

mutual

def Normal : Query → Prop
  | bool must filter should mustNot =>
      filter = [] ∧
        ((should = [] ∧ NormalConjunction must mustNot) ∨
          (must = [] ∧ mustNot = [] ∧ NormalDisjunction should)) ∧
        AllNormal must ∧ AllNormal should ∧ AllNormal mustNot
  | boost q factor =>
      isBoost q = false ∧ factor.same .one = false ∧ q.Normal
  | _ => True

def AllNormal : List Query → Prop
  | [] => True
  | q :: rest => q.Normal ∧ AllNormal rest

end

theorem allNormal_iff : ∀ {qs : List Query}, AllNormal qs ↔ ∀ q ∈ qs, q.Normal
  | [] => by simp [AllNormal]
  | q :: qs => by simp [AllNormal, @allNormal_iff qs]

theorem normal_of_isLeaf {q : Query} (h : isLeaf q = true) : q.Normal := by
  cases q <;> simp_all [isLeaf, Normal]

theorem normal_withFactor {q : Query} (hq : q.Normal) (hb : isBoost q = false)
    (factor : Single) : (q.withFactor factor).Normal := by
  rw [withFactor]
  split
  · exact hq
  · rename_i hone
    exact ⟨hb, by simpa using hone, hq⟩

theorem normal_boosted {q : Query} (hq : q.Normal) (factor : Single) :
    (q.boosted factor).Normal := by
  cases q with
  | boost q inner => exact normal_withFactor hq.2.2 hq.1 _
  | _ => exact normal_withFactor hq rfl factor

end Query

namespace Resolution

open Query

/-! ## Leaves -/

theorem isLeaf_termQuery {field : Field} {text : String} {q : Query}
    (h : termQuery field text = .ok q) : isLeaf q = true := by
  rw [termQuery] at h
  split at h
  · obtain rfl := Except.ok.inj h
    rfl
  · split at h
    · obtain rfl := Except.ok.inj h
      rfl
    · simp at h

theorem isLeaf_rangeQuery {field : Field} {lower upper : Bound String}
    {q : Query} (h : rangeQuery field lower upper = .ok q) : isLeaf q = true := by
  rw [rangeQuery] at h
  split at h
  · simp at h
  · split at h
    · obtain rfl := Except.ok.inj h
      rfl
    · obtain ⟨l, -, h⟩ := bind_eq_ok.mp h
      obtain ⟨u, -, h⟩ := bind_eq_ok.mp h
      obtain rfl := Except.ok.inj h
      rfl

theorem eq_of_stringQuery {field : Field} {literal : Literal} {q q' : Query}
    (h : stringQuery field literal q = .ok q') : q' = q := by
  rw [stringQuery] at h
  split at h
  · exact (Except.ok.inj h).symm
  · simp at h

theorem isLeaf_literalQuery {field : Field} {literal : Literal} {q : Query}
    (h : literalQuery field literal = .ok q) : isLeaf q = true := by
  cases literal with
  | term text => exact isLeaf_termQuery h
  | phrase text slop =>
      simp only [literalQuery] at h
      split at h
      · obtain rfl := Except.ok.inj h
        rfl
      · exact isLeaf_termQuery h
  | range lower upper => exact isLeaf_rangeQuery h
  | wildcard pattern =>
      simp only [literalQuery] at h
      split at h
      · obtain rfl := Except.ok.inj h
        rfl
      · rw [eq_of_stringQuery h]
        rfl
  | fuzzy text distance =>
      rw [eq_of_stringQuery h]
      rfl
  | regex pattern =>
      rw [eq_of_stringQuery h]
      rfl

variable {lookup : String → Option FieldMapping} {options : ResolveOptions}

theorem isLeaf_leaf {scope field : Option String} {literal : Literal} {q : Query}
    (h : leaf lookup options scope field literal = .ok q) : isLeaf q = true := by
  simp only [leaf] at h
  split at h
  · obtain rfl := Except.ok.inj h
    rfl
  · obtain ⟨f, -, h⟩ := bind_eq_ok.mp h
    obtain ⟨q', hq', h⟩ := bind_eq_ok.mp h
    obtain rfl := Except.ok.inj h
    cases f.nested with
    | none => exact isLeaf_literalQuery hq'
    | some path => rfl

/-! ## Conjunctions -/

/-- What an operand contributes is normal, and it contributes something. -/
def Signed.Normal : Signed → Prop
  | positive q => q.Normal
  | excluded qs => qs ≠ [] ∧ ∀ q ∈ qs, q.Normal

/-- Clauses on the way to a conjunction. -/
structure Clauses.Conjunctive (c : Clauses) : Prop where
  filter : c.filter = []
  should : c.should = []
  must : ∀ q ∈ c.must, q.Normal ∧ isConjunction q = false
  mustNot : ∀ q ∈ c.mustNot, q.Normal

theorem require_of_not {q : Query} (h : isConjunction q = false) (c : Clauses) :
    require c q = { c with must := c.must ++ [q] } := by
  rw [require]
  rintro must mustNot rfl
  simp [isConjunction] at h

theorem conjunctive_require {c : Clauses} (hc : Clauses.Conjunctive c)
    {q : Query} (hq : q.Normal) :
    Clauses.Conjunctive (require c q) ∧
      ((require c q).must ≠ [] ∨ (require c q).mustNot ≠ []) := by
  cases hs : isConjunction q with
  | false =>
      rw [require_of_not hs]
      refine ⟨⟨hc.filter, hc.should, ?_, hc.mustNot⟩, .inl (by simp)⟩
      intro x hx
      rcases List.mem_append.mp hx with hx | hx
      · exact hc.must x hx
      · obtain rfl := List.mem_singleton.mp hx
        exact ⟨hq, hs⟩
  | true =>
      -- `q` is spliced: its clauses are normal, and it has some
      obtain ⟨must, mustNot, rfl⟩ := isConjunction_iff.mp hs
      obtain ⟨-, hform, hm, -, hn⟩ := hq
      have hconj : NormalConjunction must mustNot := by
        rcases hform with ⟨-, h⟩ | ⟨-, -, h⟩
        · exact h
        · exact absurd h.1 (by simp)
      refine ⟨⟨hc.filter, hc.should, ?_, ?_⟩, ?_⟩
      · intro x hx
        rcases List.mem_append.mp hx with hx | hx
        · exact hc.must x hx
        · exact ⟨allNormal_iff.mp hm x hx, hconj.2 x hx⟩
      · intro x hx
        rcases List.mem_append.mp hx with hx | hx
        · exact hc.mustNot x hx
        · exact allNormal_iff.mp hn x hx
      · rcases hconj.1 with h | h
        · left
          intro hnil
          obtain rfl := (List.append_eq_nil_iff.mp hnil).2
          simp at h
        · exact .inr fun hnil => h (List.append_eq_nil_iff.mp hnil).2

theorem conjunctive_contribute {c : Clauses} (hc : Clauses.Conjunctive c)
    {s : Signed} (hs : s.Normal) :
    Clauses.Conjunctive (contribute c s) ∧
      ((contribute c s).must ≠ [] ∨ (contribute c s).mustNot ≠ []) := by
  cases s with
  | positive q => exact conjunctive_require hc hs
  | excluded qs =>
      refine ⟨⟨hc.filter, hc.should, hc.must, ?_⟩, ?_⟩
      · intro x hx
        rcases List.mem_append.mp hx with hx | hx
        · exact hc.mustNot x hx
        · exact hs.2 x hx
      · exact .inr fun hnil => hs.1 (List.append_eq_nil_iff.mp hnil).2

theorem conjunctive_foldl : ∀ {ss : List Signed} {c : Clauses},
    Clauses.Conjunctive c → (∀ s ∈ ss, s.Normal) →
    (ss = [] → c.must ≠ [] ∨ c.mustNot ≠ []) →
    Clauses.Conjunctive (ss.foldl contribute c) ∧
      ((ss.foldl contribute c).must ≠ [] ∨
        (ss.foldl contribute c).mustNot ≠ [])
  | [], c, hc, _, hne => ⟨hc, hne rfl⟩
  | s :: ss, c, hc, hs, _ => by
      obtain ⟨hc', hne⟩ := conjunctive_contribute hc (hs s (by simp))
      rw [List.foldl_cons]
      exact conjunctive_foldl hc' (fun x hx => hs x (by simp [hx]))
        fun _ => hne

theorem normal_collapse {c : Clauses} (hc : Clauses.Conjunctive c)
    (hne : c.must ≠ [] ∨ c.mustNot ≠ []) : (collapse c).Normal := by
  obtain ⟨must, filter, should, mustNot⟩ := c
  obtain ⟨rfl, rfl, hm, hn⟩ := hc
  rw [collapse.eq_def]
  split
  · rename_i only heq
    obtain ⟨rfl, -, -, -⟩ := Clauses.mk.inj heq
    exact (hm only (by simp)).1
  · rename_i heq
    simp at heq
  · rename_i hone _
    refine ⟨rfl, .inl ⟨rfl, ?_, fun q hq => (hm q hq).2⟩,
      allNormal_iff.mpr fun q hq => (hm q hq).1, trivial,
      allNormal_iff.mpr hn⟩
    -- a single positive clause has been taken out before
    match must, mustNot with
    | [], [] => simp at hne
    | _, _ :: _ => exact .inr (by simp)
    | [only], [] => exact absurd rfl (hone only)
    | _ :: _ :: _, [] => exact .inl (by simp)

theorem normal_conjunction {ss : List Signed} (hne : ss ≠ [])
    (hs : ∀ s ∈ ss, s.Normal) : (conjunction ss).Normal := by
  have hempty : Clauses.Conjunctive {} := ⟨rfl, rfl, by simp, by simp⟩
  obtain ⟨hc, hne'⟩ := conjunctive_foldl hempty hs fun h => absurd h hne
  exact normal_collapse hc hne'

/-! ## Disjunctions and exclusions -/

theorem alternatives_of_not {q : Query} (h : isDisjunction q = false) :
    alternatives q = [q] := by
  rw [alternatives]
  rintro should rfl
  simp [isDisjunction] at h

theorem normal_alternatives {q : Query} (hq : q.Normal) :
    alternatives q ≠ [] ∧
      ∀ x ∈ alternatives q, x.Normal ∧ isDisjunction x = false := by
  cases hd : isDisjunction q with
  | false =>
      rw [alternatives_of_not hd]
      simp [hq, hd]
  | true =>
      obtain ⟨should, rfl⟩ := isDisjunction_iff.mp hd
      obtain ⟨-, hform, -, hs, -⟩ := hq
      have hdisj : NormalDisjunction should := by
        rcases hform with ⟨-, h⟩ | ⟨-, -, h⟩
        · exact absurd h.1 (by simp)
        · exact h
      refine ⟨fun hnil => ?_,
        fun x hx => ⟨allNormal_iff.mp hs x hx, hdisj.2 x hx⟩⟩
      obtain rfl : should = [] := hnil
      exact absurd hdisj.1 (by simp)

theorem flatMap_alternatives_ne_nil {qs : List Query} (hne : qs ≠ [])
    (hq : ∀ q ∈ qs, q.Normal) : qs.flatMap alternatives ≠ [] := by
  obtain ⟨q, hqm⟩ := List.exists_mem_of_ne_nil qs hne
  intro hnil
  exact (normal_alternatives (hq q hqm)).1
    (List.flatMap_eq_nil_iff.mp hnil q hqm)

theorem normal_disjunction {qs : List Query} (hne : qs ≠ [])
    (hq : ∀ q ∈ qs, q.Normal) : (disjunction qs).Normal := by
  have hall : ∀ x ∈ qs.flatMap alternatives, x.Normal ∧ isDisjunction x = false := by
    intro x hx
    obtain ⟨q, hqm, hx⟩ := List.mem_flatMap.mp hx
    exact (normal_alternatives (hq q hqm)).2 x hx
  have hflat := flatMap_alternatives_ne_nil hne hq
  rw [disjunction, collapse.eq_def]
  split
  · rename_i heq
    simp at heq
  · rename_i only heq
    obtain ⟨-, -, hs, -⟩ := Clauses.mk.inj heq
    exact (hall only (by simp [hs])).1
  · rename_i _ hone
    refine ⟨rfl, .inr ⟨rfl, rfl, ?_, fun q hq => (hall q hq).2⟩, trivial,
      allNormal_iff.mpr fun q hq => (hall q hq).1, trivial⟩
    match hl : qs.flatMap alternatives with
    | [] => exact absurd hl hflat
    | [only] => exact absurd (by rw [hl]) (hone only)
    | _ :: _ :: _ => simp

theorem normal_toQuery {s : Signed} (hs : s.Normal) : s.toQuery.Normal := by
  cases s with
  | positive q => exact hs
  | excluded qs =>
      exact ⟨rfl, .inl ⟨rfl, .inr hs.1, by simp⟩, trivial, trivial,
        allNormal_iff.mpr hs.2⟩

end Resolution

end Searchlight
