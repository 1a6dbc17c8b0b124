import Searchlight.Analysis.Highlight
import Searchlight.Proofs.Query.Clauses

/-!
# Leaves and their hits

The leaves that highlighting looks at are those with no exclusion above them.
What a leaf picks among the postings of a field are numbers of postings that the
field has; what it picks in several fields is what it picks in each that has its
path.
-/

namespace Searchlight

namespace Query

/-- A leaf on a field that no exclusion is above. -/
inductive PositiveIn (leaf : Query) : Query → Prop
  | self {f : Field} (h : leaf.field? = some f) : PositiveIn leaf leaf
  | nested {q : Query} (path : String) :
      PositiveIn leaf q → PositiveIn leaf (nested path q)
  | boost {q : Query} (factor : Single) :
      PositiveIn leaf q → PositiveIn leaf (boost q factor)
  | bool {must filter should : List Query} {q : Query} (mustNot : List Query)
      (hq : q ∈ must ++ filter ++ should) :
      PositiveIn leaf q → PositiveIn leaf (bool must filter should mustNot)

theorem positiveIn_of_field {q : Query} {f : Field} (h : q.field? = some f)
    {leaf : Query} : leaf.PositiveIn q ↔ leaf = q := by
  constructor
  · intro hleaf
    cases hleaf with
    | self => rfl
    | nested | boost | bool => cases h
  · rintro rfl
    exact .self h

theorem PositiveIn.exists_field {leaf q : Query} (h : leaf.PositiveIn q) :
    ∃ f, leaf.field? = some f := by
  induction h with
  | self h => exact ⟨_, h⟩
  | nested _ _ ih | boost _ _ ih | bool _ _ _ ih => exact ih

end Query

namespace Analysis

open Query

variable {leaf q : Query} {f : Field} {ps : List Posting} {e : Error}

/-! ## Leaves -/

theorem positiveLeavesAll_eq : ∀ qs, positiveLeavesAll qs = qs.flatMap positiveLeaves
  | [] => rfl
  | q :: qs => by
      rw [positiveLeavesAll, positiveLeavesAll_eq qs, List.flatMap_cons]

theorem positiveLeaves_bool (must filter should mustNot : List Query) :
    positiveLeaves (.bool must filter should mustNot) =
      (must ++ filter ++ should).flatMap positiveLeaves := by
  simp only [positiveLeaves, positiveLeavesAll_eq, List.flatMap_append]

theorem positiveLeaves_of_field (h : q.field? = some f) :
    positiveLeaves q = [(q, f)] := by
  cases q <;> cases h <;> rfl

theorem mem_positiveLeaves :
    (leaf, f) ∈ positiveLeaves q ↔ leaf.field? = some f ∧ leaf.PositiveIn q := by
  induction q using clauses_induction with
  | all =>
      refine ⟨fun h => (by cases h), ?_⟩
      rintro ⟨hf, h⟩
      cases h
      cases hf
  | leaf q g hg =>
      rw [positiveLeaves_of_field hg, positiveIn_of_field hg, List.mem_singleton,
        Prod.mk.injEq]
      constructor
      · rintro ⟨rfl, rfl⟩
        exact ⟨hg, rfl⟩
      · rintro ⟨hf, rfl⟩
        exact ⟨rfl, Option.some.inj (hf.symm.trans hg)⟩
  | nested path q ih =>
      rw [positiveLeaves, ih]
      refine and_congr_right fun hf => ⟨.nested path, fun h => ?_⟩
      cases h with
      | self => cases hf
      | nested _ h => exact h
  | bool must filter should mustNot ih =>
      rw [positiveLeaves_bool, List.mem_flatMap]
      constructor
      · rintro ⟨q, hq, hmem⟩
        obtain ⟨hf, hpos⟩ := (ih q (List.mem_append_left _ hq)).mp hmem
        exact ⟨hf, .bool mustNot hq hpos⟩
      · rintro ⟨hf, h⟩
        cases h with
        | self => cases hf
        | bool _ hq h =>
            exact ⟨_, hq, (ih _ (List.mem_append_left _ hq)).mpr ⟨hf, h⟩⟩
  | boost q factor ih =>
      rw [positiveLeaves, ih]
      refine and_congr_right fun hf => ⟨.boost factor, fun h => ?_⟩
      cases h with
      | self => cases hf
      | boost _ h => exact h

theorem positiveIn_iff :
    leaf.PositiveIn q ↔ ∃ f, (leaf, f) ∈ positiveLeaves q := by
  simp only [mem_positiveLeaves, exists_and_right]
  exact (and_iff_right_of_imp PositiveIn.exists_field).symm

/-! ## Hits in one field -/

theorem lt_of_mem_zipIdx {p : Posting × Nat} (h : p ∈ ps.zipIdx) :
    p.2 < ps.length :=
  (List.getElem?_eq_some_iff.mp (List.mem_zipIdx_iff_getElem?.mp h)).1

theorem pairwise_zipIdx {α : Type} (xs : List α) :
    xs.zipIdx.Pairwise fun a b => a.2 < b.2 := by
  have h : (xs.zipIdx.map Prod.snd).Pairwise (· < ·) := by
    rw [List.zipIdx_map_snd]
    exact List.pairwise_lt_range'
  exact List.pairwise_map.mp h

theorem mem_termHits {p : String → Bool} {j : Nat} :
    j ∈ termHits ps p ↔ ∃ posting, ps[j]? = some posting ∧ p posting.term = true := by
  simp [termHits, List.mem_zipIdx_iff_getElem?]

theorem lt_of_mem_termHits {p : String → Bool} {j : Nat}
    (h : j ∈ termHits ps p) : j < ps.length := by
  obtain ⟨posting, hposting, -⟩ := mem_termHits.mp h
  exact (List.getElem?_eq_some_iff.mp hposting).1

theorem mem_of_earliest {ps : List (Posting × Nat)} {p : Posting × Nat}
    (h : earliest ps = some p) : p ∈ ps := by
  induction ps generalizing p with
  | nil => cases h
  | cons q rest ih =>
      rw [earliest] at h
      split at h
      · obtain rfl := Option.some.inj h
        exact List.mem_cons_self
      · rename_i r hr
        obtain rfl := Option.some.inj h
        split
        · exact List.mem_cons_of_mem _ (ih hr)
        · exact List.mem_cons_self

theorem mem_of_chain {ps later : List (Posting × Nat)} {position : Nat}
    {terms : List String} (h : chain ps position terms = some later) :
    ∀ p ∈ later, p ∈ ps := by
  induction terms generalizing position later with
  | nil =>
      obtain rfl := Option.some.inj h
      simp
  | cons term rest ih =>
      rw [chain] at h
      obtain ⟨next, hnext, h⟩ := Option.bind_eq_some_iff.mp h
      obtain ⟨others, hothers, h⟩ := Option.bind_eq_some_iff.mp h
      obtain rfl := Option.some.inj h
      intro p hp
      rcases List.mem_cons.mp hp with rfl | hp
      · exact (List.mem_filter.mp (mem_of_earliest hnext)).1
      · exact ih hothers p hp

theorem lt_of_mem_phraseHits {slop : Nat} {terms : List String} {j : Nat}
    (h : j ∈ phraseHits ps slop terms) : j < ps.length := by
  cases terms with
  | nil => cases h
  | cons first rest =>
      obtain ⟨start, hstart, hj⟩ := List.mem_flatMap.mp h
      rw [phraseAt] at hj
      split at hj
      · split at hj
        · rename_i later hlater
          split at hj
          · rcases List.mem_cons.mp hj with rfl | hj
            · exact lt_of_mem_zipIdx hstart
            · obtain ⟨p, hp, rfl⟩ := List.mem_map.mp hj
              exact lt_of_mem_zipIdx (mem_of_chain hlater p hp)
          · cases hj
        · cases hj
      · cases hj

/-- A leaf picks postings that the field has. -/
theorem lt_of_mem_leafHits {hits : List Nat} (h : leafHits leaf f ps = .ok hits) :
    ∀ j ∈ hits, j < ps.length := by
  intro j hj
  obtain ⟨a, -, h⟩ := bind_eq_ok.mp h
  cases leaf with
  | term | fullText | range | fuzzy =>
      obtain rfl := Except.ok.inj h
      exact lt_of_mem_termHits hj
  | phrase =>
      obtain rfl := Except.ok.inj h
      exact lt_of_mem_phraseHits hj
  | wildcard =>
      simp only at h
      split at h
      · obtain rfl := Except.ok.inj h
        exact lt_of_mem_termHits hj
      · cases h
  | regex =>
      simp only at h
      split at h
      · cases h
      · obtain rfl := Except.ok.inj h
        exact lt_of_mem_termHits hj
  | «exists» =>
      obtain rfl := Except.ok.inj h
      exact List.mem_range.mp hj
  | all | nested | bool | boost =>
      obtain rfl := Except.ok.inj h
      cases hj

/-! ## Hits in several fields -/

variable {zs : List (AnalyzedField × Nat)}

theorem mem_fieldHits {hits : List (Nat × Nat)} (h : fieldHits leaf f zs = .ok hits)
    {i j : Nat} :
    (i, j) ∈ hits ↔ ∃ analyzed here, (analyzed, i) ∈ zs ∧
      analyzed.name = f.path ∧ leafHits leaf f analyzed.postings = .ok here ∧
        j ∈ here := by
  induction zs generalizing hits with
  | nil =>
      obtain rfl := Except.ok.inj h
      simp
  | cons z zs ih =>
      obtain ⟨analyzed, number⟩ := z
      rw [fieldHits] at h
      split at h
      · rename_i hname
        obtain ⟨here, hhere, h⟩ := bind_eq_ok.mp h
        obtain ⟨later, hlater, h⟩ := bind_eq_ok.mp h
        obtain rfl := Except.ok.inj h
        rw [List.mem_append, ih hlater]
        simp only [List.mem_map, Prod.mk.injEq, List.mem_cons]
        constructor
        · rintro (⟨j', hj, rfl, rfl⟩ | ⟨a, hs, ha, hrest⟩)
          · exact ⟨analyzed, here, .inl ⟨rfl, rfl⟩, by simpa using hname, hhere, hj⟩
          · exact ⟨a, hs, .inr ha, hrest⟩
        · rintro ⟨a, hs, ⟨rfl, rfl⟩ | ha, hpath, hhits, hj⟩
          · obtain rfl := Except.ok.inj (hhere.symm.trans hhits)
            exact .inl ⟨j, hj, rfl, rfl⟩
          · exact .inr ⟨a, hs, ha, hpath, hhits, hj⟩
      · rename_i hname
        rw [ih h]
        simp only [List.mem_cons, Prod.mk.injEq]
        constructor
        · rintro ⟨a, hs, ha, hrest⟩
          exact ⟨a, hs, .inr ha, hrest⟩
        · rintro ⟨a, hs, ⟨rfl, rfl⟩ | ha, hpath, hrest⟩
          · exact absurd hpath (by simpa using hname)
          · exact ⟨a, hs, ha, hpath, hrest⟩

theorem exists_of_fieldHits_eq_error (h : fieldHits leaf f zs = .error e) :
    ∃ z ∈ zs, z.1.name = f.path ∧ leafHits leaf f z.1.postings = .error e := by
  induction zs with
  | nil => cases h
  | cons z zs ih =>
      obtain ⟨analyzed, number⟩ := z
      rw [fieldHits] at h
      split at h
      · rename_i hname
        rcases bind_eq_error.mp h with h | ⟨here, -, h⟩
        · exact ⟨_, List.mem_cons_self, by simpa using hname, h⟩
        · rcases bind_eq_error.mp h with h | ⟨later, -, h⟩
          · obtain ⟨z, hz, hrest⟩ := ih h
            exact ⟨z, List.mem_cons_of_mem _ hz, hrest⟩
          · cases h
      · obtain ⟨z, hz, hrest⟩ := ih h
        exact ⟨z, List.mem_cons_of_mem _ hz, hrest⟩

end Analysis

end Searchlight
