import Mathlib.Data.List.Sort
import Mathlib.Data.Option.Basic
import Searchlight.Proofs.Analysis.Hits
import Searchlight.Proofs.Analysis.StableSort

/-!
# What a query highlights

Highlighting returns the postings that the leaves of a query pick, each of them
once: a leaf with no exclusion above it picks its hits in every field that has
its path. Picked postings are taken in the order of their numbers and then put
into canonical order. So nothing about a query counts but which leaves are not
excluded, and nothing that is excluded counts at all.
-/

namespace Searchlight

namespace Query

mutual

/-- A query with its exclusions taken out. Queries that differ in what they
exclude, and in nothing else, come to the same. -/
def withoutExclusions : Query → Query
  | nested path q => nested path q.withoutExclusions
  | bool must filter should _ =>
      bool (withoutExclusionsAll must) (withoutExclusionsAll filter)
        (withoutExclusionsAll should) []
  | boost q factor => boost q.withoutExclusions factor
  | q => q

def withoutExclusionsAll : List Query → List Query
  | [] => []
  | q :: rest => q.withoutExclusions :: withoutExclusionsAll rest

end

theorem withoutExclusionsAll_eq :
    ∀ qs, withoutExclusionsAll qs = qs.map withoutExclusions
  | [] => rfl
  | q :: qs => by
      rw [withoutExclusionsAll, withoutExclusionsAll_eq qs, List.map_cons]

end Query

namespace Analysis

open Query

variable {q : Query} {fields : List AnalyzedField} {hits : List (Nat × Nat)}

/-! ## Numbers of postings -/

/-- The posting with the numbers of its field and among those of the field. -/
def postingAt (fields : List AnalyzedField) (number : Nat × Nat) : Option Posting :=
  fields[number.1]?.bind fun analyzed => analyzed.postings[number.2]?

/-- A leaf with no exclusion above it picks posting `j` of field `i`. -/
def Picks (q : Query) (fields : List AnalyzedField) (i j : Nat) : Prop :=
  ∃ leaf f analyzed hits, leaf.PositiveIn q ∧ leaf.field? = some f ∧
    fields[i]? = some analyzed ∧ analyzed.name = f.path ∧
      leafHits leaf f analyzed.postings = .ok hits ∧ j ∈ hits

/-- By the number of the field, then by that of the posting. -/
def Earlier (a b : Nat × Nat) : Prop :=
  a.1 < b.1 ∨ a.1 = b.1 ∧ a.2 < b.2

/-- What is highlighted, said without a way to find it: the postings that are
picked, one for each pair of their numbers and in the order of these, and then
sorted. -/
def IsHighlight (q : Query) (fields : List AnalyzedField) (out : List Posting) :
    Prop :=
  ∃ (numbers : List (Nat × Nat)) (picked : List Posting),
    numbers.Pairwise Earlier ∧ (∀ i j, (i, j) ∈ numbers ↔ Picks q fields i j) ∧
      numbers.map (postingAt fields) = picked.map some ∧ IsStableSort picked out

theorem Picks.isSome_postingAt {i j : Nat} (h : Picks q fields i j) :
    (postingAt fields (i, j)).isSome = true := by
  obtain ⟨leaf, f, analyzed, hits, -, -, hi, -, hhits, hj⟩ := h
  simp [postingAt, hi, lt_of_mem_leafHits hhits j hj]

instance : Std.Irrefl Earlier where
  irrefl a h := by
    rcases h with h | ⟨-, h⟩
    · exact lt_irrefl _ h
    · exact lt_irrefl _ h

instance : Std.Antisymm Earlier where
  antisymm a b hab hba := by
    exfalso
    rcases hab with hab | ⟨hab, hlt⟩ <;> rcases hba with hba | ⟨hba, hlt'⟩ <;> omega

/-! ## Selected postings -/

/-- The numbers of the postings that are selected, in order. -/
def selectedNumbers (fields : List AnalyzedField) (hits : List (Nat × Nat)) :
    List (Nat × Nat) :=
  fields.zipIdx.flatMap fun (analyzed, i) =>
    (analyzed.postings.zipIdx.filter fun (_, j) => hits.contains (i, j)).map
      fun (_, j) => (i, j)

theorem pairwise_selectedNumbers (fields : List AnalyzedField)
    (hits : List (Nat × Nat)) : (selectedNumbers fields hits).Pairwise Earlier := by
  rw [selectedNumbers, List.pairwise_flatMap]
  refine ⟨fun z _ => ?_, ?_⟩
  · rw [List.pairwise_map]
    refine List.Pairwise.filter _ ((pairwise_zipIdx _).imp fun hlt => ?_)
    exact .inr ⟨rfl, hlt⟩
  · refine (pairwise_zipIdx fields).imp fun hlt a ha b hb => ?_
    obtain ⟨-, -, rfl⟩ := List.mem_map.mp ha
    obtain ⟨-, -, rfl⟩ := List.mem_map.mp hb
    exact .inl hlt

theorem mem_selectedNumbers {i j : Nat} :
    (i, j) ∈ selectedNumbers fields hits ↔
      (i, j) ∈ hits ∧ (postingAt fields (i, j)).isSome = true := by
  simp only [selectedNumbers, List.mem_flatMap, List.mem_map, List.mem_filter,
    List.mem_zipIdx_iff_getElem?, Prod.exists, Prod.mk.injEq, postingAt,
    List.contains_iff_mem]
  constructor
  · rintro ⟨analyzed, i, hi, posting, j, ⟨hj, hmem⟩, rfl, rfl⟩
    simp [hmem, hi, hj]
  · rintro ⟨hmem, hsome⟩
    obtain ⟨posting, hposting⟩ := Option.isSome_iff_exists.mp hsome
    obtain ⟨analyzed, hi, hj⟩ := Option.bind_eq_some_iff.mp hposting
    exact ⟨analyzed, i, hi, posting, j, ⟨hj, hmem⟩, rfl, rfl⟩

/-- One posting is selected for each number. -/
theorem map_postingAt_selectedNumbers (fields : List AnalyzedField)
    (hits : List (Nat × Nat)) :
    (selectedNumbers fields hits).map (postingAt fields) =
      (select fields hits).map some := by
  rw [selectedNumbers, select, List.map_flatMap, List.map_flatMap]
  refine List.flatMap_congr fun z hz => ?_
  have hfield := List.mem_zipIdx_iff_getElem?.mp hz
  simp only [List.map_map]
  refine List.map_congr_left fun p hp => ?_
  have hposting := List.mem_zipIdx_iff_getElem?.mp (List.mem_filter.mp hp).1
  simp [postingAt, hfield, hposting]

/-! ## Whole queries -/

/-- Highlighting that succeeds selects what is picked. -/
theorem exists_hits {out : List Posting} (h : highlight q fields = .ok out) :
    ∃ hits : List (Nat × Nat), (∀ i j, (i, j) ∈ hits ↔ Picks q fields i j) ∧
      out = inOrder (select fields hits) := by
  obtain ⟨found, hfound, h⟩ := bind_eq_ok.mp h
  refine ⟨found.flatten, fun i j => ?_, (Except.ok.inj h).symm⟩
  rw [mem_flatten_of_mapM hfound]
  constructor
  · rintro ⟨⟨leaf, f⟩, hleaf, here, hhere, hmem⟩
    obtain ⟨hf, hpos⟩ := mem_positiveLeaves.mp hleaf
    obtain ⟨analyzed, hits, hi, hname, hhits, hj⟩ := (mem_fieldHits hhere).mp hmem
    exact ⟨leaf, f, analyzed, hits, hpos, hf,
      List.mem_zipIdx_iff_getElem?.mp hi, hname, hhits, hj⟩
  · rintro ⟨leaf, f, analyzed, hits, hpos, hf, hi, hname, hhits, hj⟩
    have hleaf := mem_positiveLeaves.mpr ⟨hf, hpos⟩
    obtain ⟨here, hhere⟩ := exists_ok_of_mapM hfound _ hleaf
    refine ⟨_, hleaf, here, hhere, (mem_fieldHits hhere).mpr ?_⟩
    exact ⟨analyzed, hits, List.mem_zipIdx_iff_getElem?.mpr hi, hname, hhits, hj⟩

/-- Highlighting fails where a leaf does, on a field that has its path. -/
theorem exists_of_highlight_eq_error {e : Error}
    (h : highlight q fields = .error e) :
    ∃ leaf f analyzed, leaf.PositiveIn q ∧ leaf.field? = some f ∧
      analyzed ∈ fields ∧ analyzed.name = f.path ∧
        leafHits leaf f analyzed.postings = .error e := by
  rcases bind_eq_error.mp h with h | ⟨_, -, h⟩
  · obtain ⟨⟨leaf, f⟩, hleaf, hfail⟩ := exists_of_mapM_eq_error h
    obtain ⟨hf, hpos⟩ := mem_positiveLeaves.mp hleaf
    obtain ⟨z, hz, hname, hfail⟩ := exists_of_fieldHits_eq_error hfail
    exact ⟨leaf, f, z.1, hpos, hf, List.fst_mem_of_mem_zipIdx hz, hname, hfail⟩
  · cases h

/-- Highlighting succeeds where every leaf does, on all fields that have its path. -/
theorem exists_highlight_eq_ok
    (h : ∀ (leaf : Query) f analyzed, leaf.PositiveIn q → leaf.field? = some f →
      analyzed ∈ fields → analyzed.name = f.path →
        ∃ hits, leafHits leaf f analyzed.postings = .ok hits) :
    ∃ out, highlight q fields = .ok out := by
  cases hout : highlight q fields with
  | ok out => exact ⟨out, rfl⟩
  | error e =>
      obtain ⟨leaf, f, analyzed, hpos, hf, hmem, hname, hfail⟩ :=
        exists_of_highlight_eq_error hout
      obtain ⟨hits, hhits⟩ := h leaf f analyzed hpos hf hmem hname
      cases hfail.symm.trans hhits

/-- Selected postings that are in canonical order are what is highlighted. -/
theorem highlight_of_pairwise {found : List (List (Nat × Nat))}
    (hfound : ((positiveLeaves q).mapM fun z => fieldHits z.1 z.2 fields.zipIdx) =
      .ok found)
    (hordered : (select fields found.flatten).Pairwise fun a b => a.before b = true) :
    highlight q fields = .ok (select fields found.flatten) := by
  have hrun : highlight q fields = .ok (inOrder (select fields found.flatten)) :=
    bind_eq_ok.mpr ⟨found, hfound, rfl⟩
  rw [hrun, inOrder, List.mergeSort_of_pairwise hordered]

theorem mem_select {hits : List (Nat × Nat)} {p : Posting} :
    p ∈ select fields hits ↔ ∃ i j, (i, j) ∈ hits ∧ postingAt fields (i, j) = some p := by
  have hmem : p ∈ select fields hits ↔ some p ∈ (select fields hits).map some := by
    simp
  rw [hmem, ← map_postingAt_selectedNumbers, List.mem_map]
  constructor
  · rintro ⟨⟨i, j⟩, hnumber, hp⟩
    exact ⟨i, j, (mem_selectedNumbers.mp hnumber).1, hp⟩
  · rintro ⟨i, j, hhit, hp⟩
    exact ⟨(i, j), mem_selectedNumbers.mpr ⟨hhit, by rw [hp, Option.isSome_some]⟩, hp⟩

/-- What is highlighted are the postings that are picked. -/
theorem mem_of_highlight {out : List Posting} (h : highlight q fields = .ok out)
    (p : Posting) :
    p ∈ out ↔ ∃ i j, Picks q fields i j ∧ postingAt fields (i, j) = some p := by
  obtain ⟨hits, hhits, rfl⟩ := exists_hits h
  rw [inOrder, List.mem_mergeSort, mem_select]
  simp only [hhits]

theorem isHighlight_of_highlight {out : List Posting}
    (h : highlight q fields = .ok out) : IsHighlight q fields out := by
  obtain ⟨hits, hhits, rfl⟩ := exists_hits h
  refine ⟨selectedNumbers fields hits, select fields hits,
    pairwise_selectedNumbers fields hits, fun i j => ?_,
    map_postingAt_selectedNumbers fields hits, isStableSort_inOrder _⟩
  rw [mem_selectedNumbers, hhits]
  exact and_iff_left_of_imp Picks.isSome_postingAt

/-- There is one list only that is highlighted. -/
theorem IsHighlight.unique {out out' : List Posting}
    (h : IsHighlight q fields out) (h' : IsHighlight q fields out') : out = out' := by
  obtain ⟨numbers, picked, hsorted, hmem, hmap, hout⟩ := h
  obtain ⟨numbers', picked', hsorted', hmem', hmap', hout'⟩ := h'
  obtain rfl : numbers = numbers' := by
    refine hsorted.eq_of_mem_iff hsorted' fun number => ?_
    rw [hmem, hmem']
  obtain rfl : picked = picked' :=
    List.map_injective_iff.mpr (Option.some_injective _) (hmap.symm.trans hmap')
  exact hout.unique hout'

theorem IsHighlight.congr {q' : Query} {out : List Posting}
    (h : IsHighlight q fields out)
    (hpicks : ∀ i j, Picks q fields i j ↔ Picks q' fields i j) :
    IsHighlight q' fields out := by
  simpa only [IsHighlight, hpicks] using h

/-- Which postings are picked depends on the leaves that are not excluded. -/
theorem picks_congr {q' : Query}
    (h : ∀ leaf : Query, leaf.PositiveIn q ↔ leaf.PositiveIn q') (i j : Nat) :
    Picks q fields i j ↔ Picks q' fields i j := by
  simp only [Picks, h]

theorem positiveLeaves_withoutExclusions (q : Query) :
    positiveLeaves q.withoutExclusions = positiveLeaves q := by
  induction q using clauses_induction with
  | all => rfl
  | leaf q f hf => cases q <;> first | rfl | cases hf
  | nested path q ih => rw [withoutExclusions, positiveLeaves, positiveLeaves, ih]
  | bool must filter should mustNot ih =>
      rw [withoutExclusions, positiveLeaves_bool, positiveLeaves_bool]
      simp only [withoutExclusionsAll_eq, ← List.map_append, List.flatMap_map]
      exact List.flatMap_congr fun q hq => ih q (List.mem_append_left _ hq)
  | boost q factor ih => rw [withoutExclusions, positiveLeaves, positiveLeaves, ih]

/-- **Highlighting returns what the leaves pick that are not excluded**: each
posting once, in canonical order. Two queries with the same such leaves highlight
the same, and what a query excludes changes neither the postings nor whether it
fails. -/
theorem highlight_picks (q : Query) (fields : List AnalyzedField) :
    (∀ out, highlight q fields = .ok out → IsHighlight q fields out) ∧
      (∀ (q' : Query) (out out' : List Posting),
        (∀ leaf : Query, leaf.PositiveIn q ↔ leaf.PositiveIn q') →
          highlight q fields = .ok out → highlight q' fields = .ok out' →
            out = out') ∧
      ∀ q' : Query, q.withoutExclusions = q'.withoutExclusions →
        highlight q fields = highlight q' fields := by
  refine ⟨fun out h => isHighlight_of_highlight h, ?_, ?_⟩
  · intro q' out out' hleaves h h'
    exact (isHighlight_of_highlight h).unique
      ((isHighlight_of_highlight h').congr fun i j => (picks_congr hleaves i j).symm)
  · intro q' h
    have hleaves : positiveLeaves q = positiveLeaves q' := by
      rw [← positiveLeaves_withoutExclusions q, h, positiveLeaves_withoutExclusions]
    rw [highlight, highlight, hleaves]

/-- A tag that is looked for twice in a field with two values. What is excluded
is a pattern that is no expression. -/
theorem highlight_picks_twice :
    let tag : Field := { name := "tag", path := "tags", type := .keyword }
    let on (position : Nat) (term : String) : Posting := ⟨"tags", term, position, 0, 1⟩
    let fields : List AnalyzedField :=
      [⟨"tags", [on 1 "b", on 0 "a"]⟩, ⟨"other", [on 0 "a"]⟩, ⟨"tags", [on 0 "a"]⟩]
    let a : Query := .term tag (.text "a")
    let q (mustNot : List Query) : Query :=
      .bool [] [] [.boost a (.nearest false 2 1), a] mustNot
    let broken : Query := .regex tag "("
    let out : List Posting := [on 0 "a", on 0 "a"]
    (highlight (q [broken]) fields = .ok out ∧ IsHighlight (q [broken]) fields out) ∧
      ((∀ leaf : Query, leaf.PositiveIn (q [broken]) ↔ leaf.PositiveIn a) ∧
        highlight a fields = .ok out) ∧
      (q [broken]).withoutExclusions = (q []).withoutExclusions ∧
        highlight (q []) fields = .ok out := by
  intro tag on fields a q broken out
  have heval (factor : Single) (mustNot : List Query) :
      highlight (.bool [] [] [.boost a factor, a] mustNot) fields = .ok out := by
    have hfound : ((positiveLeaves (.bool [] [] [.boost a factor, a] mustNot)).mapM
        fun z => fieldHits z.1 z.2 fields.zipIdx) =
          .ok [[(0, 1), (2, 0)], [(0, 1), (2, 0)]] := rfl
    exact highlight_of_pairwise hfound (by decide +kernel)
  have h : highlight (q [broken]) fields = .ok out := heval _ _
  have hleaves : ∀ leaf : Query, leaf.PositiveIn (q [broken]) ↔ leaf.PositiveIn a := by
    intro leaf
    simp [positiveIn_iff, positiveLeaves, positiveLeavesAll, q, a]
  have hsame : (q [broken]).withoutExclusions = (q []).withoutExclusions := rfl
  obtain ⟨hspec, hcongr, hexcluded⟩ := highlight_picks (q [broken]) fields
  refine ⟨⟨h, hspec out h⟩, ⟨hleaves, ?_⟩, hsame, (hexcluded (q []) hsame).symm.trans h⟩
  have hfound : ((positiveLeaves a).mapM fun z => fieldHits z.1 z.2 fields.zipIdx) =
      .ok [[(0, 1), (2, 0)]] := rfl
  have ha : highlight a fields = .ok _ := highlight_of_pairwise hfound (by decide +kernel)
  rw [ha, hcongr a out _ hleaves h ha]

end Analysis

end Searchlight
