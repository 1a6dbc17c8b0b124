import Mathlib.Data.List.Pairwise
import Mathlib.Data.List.Perm.Basic
import Mathlib.Data.String.Basic
import Searchlight.Analysis.Posting

/-!
# Canonical order

Putting postings into canonical order is a stable sort: by field, then by
position, and postings that agree on both stay in the order they came in. A list
has one stable sort only.
-/

namespace Searchlight.Analysis

namespace Posting

/-- What canonical order looks at. -/
def key (p : Posting) : String × Nat := (p.field, p.position)

/-- By field, then by position. -/
def InOrder (a b : Posting) : Prop :=
  a.field < b.field ∨ a.field = b.field ∧ a.position ≤ b.position

theorem before_iff {a b : Posting} : a.before b = true ↔ a.InOrder b := by
  simp [before, InOrder]

theorem InOrder.trans {a b c : Posting} (hab : a.InOrder b)
    (hbc : b.InOrder c) : a.InOrder c := by
  rcases hab with hab | ⟨hab, hp⟩
  · rcases hbc with hbc | ⟨hbc, -⟩
    · exact .inl (String.lt_trans hab hbc)
    · exact .inl (hbc ▸ hab)
  · rcases hbc with hbc | ⟨hbc, hq⟩
    · exact .inl (hab ▸ hbc)
    · exact .inr ⟨hab.trans hbc, Nat.le_trans hp hq⟩

theorem InOrder.total (a b : Posting) : a.InOrder b ∨ b.InOrder a := by
  rcases lt_trichotomy a.field b.field with h | h | h
  · exact .inl (.inl h)
  · rcases Nat.le_total a.position b.position with hp | hp
    · exact .inl (.inr ⟨h, hp⟩)
    · exact .inr (.inr ⟨h.symm, hp⟩)
  · exact .inr (.inl h)

theorem InOrder.key_eq {a b : Posting} (hab : a.InOrder b)
    (hba : b.InOrder a) : a.key = b.key := by
  rcases hab with hab | ⟨hab, hp⟩
  · rcases hba with hba | ⟨hba, -⟩
    · exact absurd hba (lt_asymm hab)
    · exact absurd (hba ▸ hab) (lt_irrefl _)
  · rcases hba with hba | ⟨-, hq⟩
    · exact absurd (hab ▸ hba) (lt_irrefl _)
    · exact Prod.ext hab (Nat.le_antisymm hp hq)

theorem InOrder.of_key_eq {a b : Posting} (h : a.key = b.key) : a.InOrder b :=
  .inr ⟨congrArg Prod.fst h, (congrArg Prod.snd h).le⟩

end Posting

/-- `sorted` is the stable sort of `ps`. -/
structure IsStableSort (ps sorted : List Posting) : Prop where
  perm : sorted.Perm ps
  ordered : sorted.Pairwise Posting.InOrder
  /-- What agrees on field and position has kept its order. -/
  stable : ∀ key, sorted.filter (·.key = key) = ps.filter (·.key = key)

theorem isStableSort_inOrder (ps : List Posting) :
    IsStableSort ps (inOrder ps) := by
  have htrans : ∀ a b c : Posting, a.before b = true → b.before c = true →
      a.before c = true := by
    intro a b c hab hbc
    rw [Posting.before_iff] at hab hbc ⊢
    exact hab.trans hbc
  have htotal : ∀ a b : Posting, (a.before b || b.before a) = true := by
    intro a b
    rw [Bool.or_eq_true, Posting.before_iff, Posting.before_iff]
    exact Posting.InOrder.total a b
  have hperm : (inOrder ps).Perm ps := List.mergeSort_perm ps _
  refine ⟨hperm, ?_, fun key => ?_⟩
  · exact (List.pairwise_mergeSort htrans htotal ps).imp Posting.before_iff.mp
  -- postings of one key are in order as they are, so that they are not moved
  · have hone : (ps.filter (·.key = key)).Pairwise (fun a b => a.before b = true) := by
      refine List.pairwise_of_forall_mem_list fun a ha b hb => ?_
      have ha' : a.key = key := by simpa using (List.mem_filter.mp ha).2
      have hb' : b.key = key := by simpa using (List.mem_filter.mp hb).2
      exact Posting.before_iff.mpr (.of_key_eq (ha'.trans hb'.symm))
    have hsub : (ps.filter (·.key = key)).Sublist (inOrder ps) :=
      List.sublist_mergeSort htrans htotal hone List.filter_sublist
    have hsub' := hsub.filter (·.key = key)
    rw [List.filter_filter] at hsub'
    simp only [Bool.and_self] at hsub'
    exact (hsub'.eq_of_length (hperm.filter _).length_eq.symm).symm

/-- Lists in order that agree on each key are the same. -/
theorem eq_of_filter_key_eq : ∀ {as bs : List Posting},
    as.Pairwise Posting.InOrder → bs.Pairwise Posting.InOrder →
      (∀ key, as.filter (·.key = key) = bs.filter (·.key = key)) → as = bs
  | [], bs, _, _, h => by
      refine (List.eq_nil_iff_forall_not_mem.mpr fun b hb => ?_).symm
      have hmem : b ∈ bs.filter (·.key = b.key) := by simpa using hb
      rw [← h b.key] at hmem
      cases hmem
  | a :: as, [], _, _, h => by
      have hkey := h a.key
      simp at hkey
  | a :: as, b :: bs, ha, hb, h => by
      obtain ⟨hleast, has⟩ := List.pairwise_cons.mp ha
      obtain ⟨hleast', hbs⟩ := List.pairwise_cons.mp hb
      have hmem : ∀ {x : Posting}, x ∈ a :: as ↔ x ∈ b :: bs := by
        intro x
        have hx := congrArg (x ∈ ·) (h x.key)
        simpa using hx
      -- each of the heads comes first among all
      have hab : a.InOrder b := by
        rcases List.mem_cons.mp (hmem.mpr List.mem_cons_self) with rfl | hmem
        · exact .of_key_eq rfl
        · exact hleast b hmem
      have hba : b.InOrder a := by
        rcases List.mem_cons.mp (hmem.mp List.mem_cons_self) with rfl | hmem
        · exact .of_key_eq rfl
        · exact hleast' a hmem
      have hkey := hab.key_eq hba
      obtain rfl : a = b := by
        have hhead := h a.key
        simp only [List.filter_cons, hkey, decide_true, if_true] at hhead
        exact (List.cons.inj hhead).1
      refine congrArg (a :: ·) (eq_of_filter_key_eq has hbs fun key => ?_)
      have hrest := h key
      simp only [List.filter_cons] at hrest
      split at hrest
      · exact (List.cons.inj hrest).2
      · exact hrest

/-- **The stable sort of a list is unique.** -/
theorem IsStableSort.unique {ps as bs : List Posting} (ha : IsStableSort ps as)
    (hb : IsStableSort ps bs) : as = bs :=
  eq_of_filter_key_eq ha.ordered hb.ordered fun key =>
    (ha.stable key).trans (hb.stable key).symm

end Searchlight.Analysis
