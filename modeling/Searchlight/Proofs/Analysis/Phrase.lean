import Mathlib.Order.Nat
import Searchlight.Proofs.Analysis.Hits

/-!
# Occurrences of phrases

An occurrence of a phrase is a posting of each of its terms, one behind the other. Matching begins
at every posting of the first term and takes the nearest posting of each next one. No occurrence
with the same beginning ends earlier than that, so an occurrence within the slop is found at
every posting where one begins. It is one occurrence for each beginning, however: the postings that
are picked are those of occurrences that leave out no nearer posting.
-/

namespace Searchlight.Analysis

variable {ps : List Posting} {slop position : Nat} {term first : String}
  {terms rest : List String} {q r : Posting × Nat} {qs later others : List (Posting × Nat)}

/-! ## Occurrences -/

/-- Postings of a field, with their numbers, that have the terms of a phrase at increasing
positions. -/
structure IsOccurrence (ps : List Posting) (terms : List String) (qs : List (Posting × Nat)) :
    Prop where
  numbered : ∀ q ∈ qs, ps[q.2]? = some q.1
  terms : qs.map (fun q => q.1.term) = terms
  increasing : qs.Pairwise fun q r => q.1.position < r.1.position

/-- The last position of postings that follow one another from a position on. -/
def endPosition : Nat → List (Posting × Nat) → Nat
  | position, [] => position
  | _, q :: later => endPosition q.1.position later

/-- The positions from the first to the last posting leave room for no more than `slop` others. -/
def Within (slop : Nat) : List (Posting × Nat) → Prop
  | [] => False
  | q :: later => endPosition q.1.position later ≤ q.1.position + later.length + slop

/-- Of two postings the one at the lesser position is nearer, and at one position the one with the
lesser number. -/
def NoFarther (q r : Posting × Nat) : Prop :=
  q.1.position < r.1.position ∨ q.1.position = r.1.position ∧ q.2 ≤ r.2

/-- Each posting is the nearest one of its term behind the one before, the first one behind a
position. -/
def LeavesNone (ps : List Posting) : Nat → List (Posting × Nat) → Prop
  | _, [] => True
  | position, q :: later =>
      (∀ r : Posting × Nat, ps[r.2]? = some r.1 → r.1.term = q.1.term →
        position < r.1.position → NoFarther q r) ∧
      LeavesNone ps q.1.position later

/-- From its first posting on, an occurrence takes the nearest posting of each term. -/
def IsNearest (ps : List Posting) : List (Posting × Nat) → Prop
  | [] => True
  | q :: later => LeavesNone ps q.1.position later

theorem isOccurrence_nil : IsOccurrence ps terms [] ↔ terms = [] := by
  constructor
  · intro h
    exact h.terms.symm
  · rintro rfl
    exact ⟨by simp, rfl, .nil⟩

theorem isOccurrence_cons :
    IsOccurrence ps (term :: rest) (q :: later) ↔
      ps[q.2]? = some q.1 ∧ q.1.term = term ∧ (∀ r ∈ later, q.1.position < r.1.position) ∧
        IsOccurrence ps rest later := by
  constructor
  · rintro ⟨hnumbered, hterms, hincreasing⟩
    obtain ⟨hq, hlater⟩ := List.forall_mem_cons.mp hnumbered
    obtain ⟨hterm, hrest⟩ := List.cons.inj hterms
    obtain ⟨hbehind, hpairs⟩ := List.pairwise_cons.mp hincreasing
    exact ⟨hq, hterm, hbehind, hlater, hrest, hpairs⟩
  · rintro ⟨hq, hterm, hbehind, hnumbered, hterms, hpairs⟩
    refine ⟨List.forall_mem_cons.mpr ⟨hq, hnumbered⟩, ?_, List.pairwise_cons.mpr ⟨hbehind, hpairs⟩⟩
    rw [List.map_cons, hterm, hterms]

theorem IsOccurrence.ne_nil (h : IsOccurrence ps (term :: rest) qs) : qs ≠ [] := by
  rintro rfl
  cases isOccurrence_nil.mp h

theorem IsOccurrence.length_eq (h : IsOccurrence ps terms qs) : qs.length = terms.length := by
  rw [← h.terms, List.length_map]

theorem endPosition_mono {position' : Nat} (h : position ≤ position') :
    endPosition position later ≤ endPosition position' later := by
  cases later with
  | nil => exact h
  | cons q later => exact le_rfl

/-- Positions that increase go up by one at least from each posting to the next. -/
theorem length_le_endPosition (hbehind : ∀ r ∈ later, position < r.1.position)
    (hpairs : later.Pairwise fun q r => q.1.position < r.1.position) :
    position + later.length ≤ endPosition position later := by
  induction later generalizing position with
  | nil => exact le_rfl
  | cons q later ih =>
      obtain ⟨hlater, hpairs⟩ := List.pairwise_cons.mp hpairs
      have hq := hbehind q List.mem_cons_self
      have hend := ih hlater hpairs
      show position + (later.length + 1) ≤ endPosition q.1.position later
      omega

theorem endPosition_concat (position : Nat) (later : List (Posting × Nat))
    (last : Posting × Nat) : endPosition position (later ++ [last]) = last.1.position := by
  induction later generalizing position with
  | nil => rfl
  | cons q later ih => exact ih q.1.position

/-- The extent of a chain is counted from its first posting. -/
theorem extent_eq (p : Posting) (later : List (Posting × Nat)) :
    extent p later = endPosition p.position later - p.position := by
  rcases List.eq_nil_or_concat later with rfl | ⟨later, last, rfl⟩
  · simp [extent, endPosition]
  · simp [extent, endPosition_concat]

/-! ## The nearest posting -/

theorem earliest_eq_none : earliest qs = none ↔ qs = [] := by
  cases qs with
  | nil => simp [earliest]
  | cons q qs =>
      rw [earliest]
      cases earliest qs <;> simp

/-- Of postings in the order of their numbers, the earliest is the one that is not farther than
any other. -/
theorem earliest_eq_some_iff (hqs : qs.Pairwise fun q r => q.2 < r.2) :
    earliest qs = some q ↔ q ∈ qs ∧ ∀ r ∈ qs, NoFarther q r := by
  induction qs generalizing q with
  | nil => simp [earliest]
  | cons z qs ih =>
      obtain ⟨hz, hpairs⟩ := List.pairwise_cons.mp hqs
      rw [earliest, List.mem_cons, List.forall_mem_cons]
      cases hfound : earliest qs with
      | none =>
          obtain rfl := earliest_eq_none.mp hfound
          simp only [Option.some.injEq, List.not_mem_nil, or_false]
          constructor
          · rintro rfl
            exact ⟨rfl, .inr ⟨rfl, le_rfl⟩, by simp⟩
          · rintro ⟨rfl, -⟩
            rfl
      | some p =>
          obtain ⟨hp, hnear⟩ := (ih hpairs).mp hfound
          simp only [Option.some.injEq]
          by_cases hlt : p.1.position < z.1.position
          -- something later in the list lies at a lesser position
          · rw [if_pos hlt]
            constructor
            · rintro rfl
              exact ⟨.inr hp, .inl hlt, hnear⟩
            · rintro ⟨rfl | hq, hqz, hall⟩
              · rcases hall p hp with hless | ⟨heq, -⟩ <;> omega
              · exact Option.some.inj (hfound.symm.trans ((ih hpairs).mpr ⟨hq, hall⟩))
          -- nothing does, so that the head is taken
          · rw [if_neg hlt]
            constructor
            · rintro rfl
              refine ⟨.inl rfl, .inr ⟨rfl, le_rfl⟩, ?_⟩
              intro r hr
              have hnumber := hz r hr
              rcases hnear r hr with hless | ⟨heq, -⟩
              · exact .inl (by omega)
              · rcases Nat.lt_or_eq_of_le (Nat.le_of_not_lt hlt) with hless | hsame
                · exact .inl (by omega)
                · exact .inr ⟨by omega, by omega⟩
            · rintro ⟨rfl | hq, hqz, hall⟩
              · rfl
              · exfalso
                have hnumber := hz q hq
                obtain rfl : p = q :=
                  Option.some.inj (hfound.symm.trans ((ih hpairs).mpr ⟨hq, hall⟩))
                rcases hqz with hless | ⟨-, hle⟩ <;> omega

theorem mem_behind :
    r ∈ ps.zipIdx.filter (fun (p, _) => position < p.position && p.term == term) ↔
      ps[r.2]? = some r.1 ∧ position < r.1.position ∧ r.1.term = term := by
  simp [List.mem_filter, List.mem_zipIdx_iff_getElem?]

theorem nearest_eq_some_iff :
    nearest ps.zipIdx position term = some q ↔
      (ps[q.2]? = some q.1 ∧ position < q.1.position ∧ q.1.term = term) ∧
        ∀ r : Posting × Nat, ps[r.2]? = some r.1 → r.1.term = term →
          position < r.1.position → NoFarther q r := by
  have hnumbers : (ps.zipIdx.filter fun (p, _) =>
      position < p.position && p.term == term).Pairwise fun q r => q.2 < r.2 := by
    apply List.Pairwise.filter
    exact pairwise_zipIdx ps
  rw [nearest, earliest_eq_some_iff hnumbers, mem_behind]
  constructor
  · rintro ⟨hq, hall⟩
    exact ⟨hq, fun r hr hterm hlt => hall r (mem_behind.mpr ⟨hr, hlt, hterm⟩)⟩
  · rintro ⟨hq, hall⟩
    refine ⟨hq, fun r hr => ?_⟩
    obtain ⟨hr, hlt, hterm⟩ := mem_behind.mp hr
    exact hall r hr hterm hlt

/-- Behind a position there is a nearest posting of a term if there is one at all. -/
theorem exists_nearest (hr : ps[r.2]? = some r.1) (hlt : position < r.1.position) :
    ∃ q, nearest ps.zipIdx position r.1.term = some q ∧ q.1.position ≤ r.1.position := by
  cases hfound : nearest ps.zipIdx position r.1.term with
  | none =>
      have hmem := mem_behind.mpr ⟨hr, hlt, rfl⟩
      rw [earliest_eq_none.mp hfound] at hmem
      cases hmem
  | some q =>
      refine ⟨q, rfl, ?_⟩
      obtain ⟨-, hall⟩ := nearest_eq_some_iff.mp hfound
      rcases hall r hr rfl hlt with hless | ⟨heq, -⟩
      · exact hless.le
      · exact heq.le

/-! ## Chains -/

/-- A chain is what follows a position with no nearer posting left out. -/
theorem chain_eq_some_iff :
    chain ps.zipIdx position terms = some later ↔
      IsOccurrence ps terms later ∧ (∀ q ∈ later, position < q.1.position) ∧
        LeavesNone ps position later := by
  induction terms generalizing position later with
  | nil =>
      rw [chain, Option.some.injEq]
      constructor
      · rintro rfl
        exact ⟨isOccurrence_nil.mpr rfl, by simp, trivial⟩
      · rintro ⟨hocc, -, -⟩
        exact (List.map_eq_nil_iff.mp hocc.terms).symm
  | cons term rest ih =>
      rw [chain]
      constructor
      · intro h
        obtain ⟨q, hq, h⟩ := Option.bind_eq_some_iff.mp h
        obtain ⟨later, hlater, h⟩ := Option.bind_eq_some_iff.mp h
        obtain rfl := Option.some.inj h
        obtain ⟨⟨hnumber, hlt, rfl⟩, hall⟩ := nearest_eq_some_iff.mp hq
        obtain ⟨hocc, hbehind, hnone⟩ := ih.mp hlater
        refine ⟨isOccurrence_cons.mpr ⟨hnumber, rfl, hbehind, hocc⟩, ?_, hall, hnone⟩
        intro r hr
        rcases List.mem_cons.mp hr with rfl | hr
        · exact hlt
        · exact hlt.trans (hbehind r hr)
      · rintro ⟨hocc, hbehind, hnone⟩
        cases later with
        | nil => exact absurd rfl hocc.ne_nil
        | cons q later =>
            obtain ⟨hnumber, rfl, hlater, hocc⟩ := isOccurrence_cons.mp hocc
            obtain ⟨hall, hnone⟩ := hnone
            have hq : nearest ps.zipIdx position q.1.term = some q :=
              nearest_eq_some_iff.mpr ⟨⟨hnumber, hbehind q List.mem_cons_self, rfl⟩, hall⟩
            simp only [hq, ih.mpr ⟨hocc, hlater, hnone⟩, Option.bind_eq_bind, Option.bind_some]

/-- **No occurrence ends before the chain does.** The nearest posting of a term leaves at least as
much behind it as any other posting of the term. -/
theorem exists_chain (hocc : IsOccurrence ps terms others)
    (hbehind : ∀ q ∈ others, position < q.1.position) :
    ∃ later, chain ps.zipIdx position terms = some later ∧
      endPosition position later ≤ endPosition position others := by
  induction terms generalizing position others with
  | nil =>
      obtain rfl := List.map_eq_nil_iff.mp hocc.terms
      exact ⟨[], rfl, le_rfl⟩
  | cons term rest ih =>
      cases others with
      | nil => exact absurd rfl hocc.ne_nil
      | cons r others =>
          obtain ⟨hnumber, rfl, hothers, hocc⟩ := isOccurrence_cons.mp hocc
          obtain ⟨q, hq, hle⟩ := exists_nearest hnumber (hbehind r List.mem_cons_self)
          obtain ⟨later, hlater, hend⟩ :=
            ih hocc fun s hs => lt_of_le_of_lt hle (hothers s hs)
          refine ⟨q :: later, ?_, hend.trans (endPosition_mono hle)⟩
          rw [chain, hq]
          simp only [hlater, Option.bind_eq_bind, Option.bind_some]

/-! ## Phrases -/

variable {p : Posting} {i j : Nat}

/-- What a posting of the first term contributes is the chain behind it, if it is within the
slop. -/
theorem phraseAt_of_chain (hchain : chain ps.zipIdx p.position rest = some later)
    (hwithin : Within slop ((p, i) :: later)) :
    phraseAt ps.zipIdx slop p.term rest (p, i) = ((p, i) :: later).map Prod.snd := by
  have hlength := (chain_eq_some_iff.mp hchain).1.length_eq
  have hextent : extent p later - rest.length ≤ slop := by
    change endPosition p.position later ≤ p.position + later.length + slop at hwithin
    rw [extent_eq]
    omega
  simp [phraseAt, hchain, hextent]

/-- A posting contributes nothing but that. -/
theorem exists_chain_of_phraseAt (h : phraseAt ps.zipIdx slop first rest (p, i) ≠ []) :
    p.term = first ∧ ∃ later, chain ps.zipIdx p.position rest = some later ∧
      Within slop ((p, i) :: later) := by
  unfold phraseAt at h
  split at h
  · rename_i hterm
    refine ⟨by simpa using hterm, ?_⟩
    split at h
    · rename_i later hchain
      split at h
      · rename_i hextent
        have hlength := (chain_eq_some_iff.mp hchain).1.length_eq
        change extent p later - rest.length ≤ slop at hextent
        rw [extent_eq] at hextent
        refine ⟨later, hchain, ?_⟩
        show endPosition p.position later ≤ p.position + later.length + slop
        omega
      · exact absurd rfl h
    · exact absurd rfl h
  · exact absurd rfl h

/-- What a posting contributes is an occurrence that begins with it and leaves out no nearer
posting. -/
theorem phraseAt_spec (h : phraseAt ps.zipIdx slop first rest (p, i) ≠ [])
    (hp : ps[i]? = some p) :
    ∃ later, phraseAt ps.zipIdx slop first rest (p, i) = ((p, i) :: later).map Prod.snd ∧
      chain ps.zipIdx p.position rest = some later ∧
      IsOccurrence ps (first :: rest) ((p, i) :: later) ∧ Within slop ((p, i) :: later) := by
  obtain ⟨rfl, later, hchain, hwithin⟩ := exists_chain_of_phraseAt h
  obtain ⟨hocc, hbehind, -⟩ := chain_eq_some_iff.mp hchain
  exact ⟨later, phraseAt_of_chain hchain hwithin, hchain,
    isOccurrence_cons.mpr ⟨hp, rfl, hbehind, hocc⟩, hwithin⟩

/-- The chain of a beginning ends no later than any occurrence that begins there. -/
theorem exists_chain_of_occurrence
    (hocc : IsOccurrence ps (first :: rest) ((p, i) :: others)) :
    ∃ later, chain ps.zipIdx p.position rest = some later ∧
      endPosition p.position later ≤ endPosition p.position others := by
  obtain ⟨-, -, hbehind, hocc⟩ := isOccurrence_cons.mp hocc
  exact exists_chain hocc hbehind

/-- **Every beginning is found.** A posting contributes something if an occurrence within the slop
begins with it. -/
theorem phraseAt_ne_nil (hocc : IsOccurrence ps (first :: rest) ((p, i) :: others))
    (hwithin : Within slop ((p, i) :: others)) :
    phraseAt ps.zipIdx slop first rest (p, i) ≠ [] := by
  obtain ⟨later, hchain, hend⟩ := exists_chain_of_occurrence hocc
  obtain ⟨-, rfl, -, hocc⟩ := isOccurrence_cons.mp hocc
  have hlength := hocc.length_eq
  have hlength' := (chain_eq_some_iff.mp hchain).1.length_eq
  have hfits : Within slop ((p, i) :: later) := by
    change endPosition p.position others ≤ p.position + others.length + slop at hwithin
    show endPosition p.position later ≤ p.position + later.length + slop
    omega
  rw [phraseAt_of_chain hchain hfits]
  simp

/-- The postings that make up a phrase, with what begins where. -/
theorem mem_phraseHits :
    j ∈ phraseHits ps slop terms ↔
      ∃ qs, IsOccurrence ps terms qs ∧ Within slop qs ∧ IsNearest ps qs ∧
        j ∈ qs.map Prod.snd := by
  cases terms with
  | nil =>
      constructor
      · intro h
        cases h
      · rintro ⟨qs, hocc, hwithin, -⟩
        obtain rfl := List.map_eq_nil_iff.mp hocc.terms
        exact hwithin.elim
  | cons first rest =>
      rw [phraseHits, List.mem_flatMap]
      constructor
      · rintro ⟨⟨p, i⟩, hmem, hj⟩
        have hp : ps[i]? = some p := List.mem_zipIdx_iff_getElem?.mp hmem
        obtain ⟨later, heq, hchain, hocc, hwithin⟩ := phraseAt_spec (List.ne_nil_of_mem hj) hp
        rw [heq] at hj
        exact ⟨_, hocc, hwithin, (chain_eq_some_iff.mp hchain).2.2, hj⟩
      · rintro ⟨qs, hocc, hwithin, hnearest, hj⟩
        cases qs with
        | nil => exact hwithin.elim
        | cons q later =>
            obtain ⟨hp, rfl, hbehind, hlater⟩ := isOccurrence_cons.mp hocc
            refine ⟨q, List.mem_zipIdx_iff_getElem?.mpr hp, ?_⟩
            have hchain := chain_eq_some_iff.mpr ⟨hlater, hbehind, hnearest⟩
            rwa [phraseAt_of_chain hchain hwithin]

/-- A phrase picks nothing just if it does not occur within the slop. -/
theorem phraseHits_eq_nil :
    phraseHits ps slop terms = [] ↔ ¬∃ qs, IsOccurrence ps terms qs ∧ Within slop qs := by
  constructor
  · rintro hnil ⟨qs, hocc, hwithin⟩
    cases qs with
    | nil => exact hwithin
    | cons q later =>
        cases terms with
        | nil => cases hocc.terms
        | cons first rest =>
            have hmem : q ∈ ps.zipIdx :=
              List.mem_zipIdx_iff_getElem?.mpr (isOccurrence_cons.mp hocc).1
            exact phraseAt_ne_nil hocc hwithin (List.flatMap_eq_nil_iff.mp hnil q hmem)
  · intro hnone
    rw [List.eq_nil_iff_forall_not_mem]
    intro j hj
    obtain ⟨qs, hocc, hwithin, -⟩ := mem_phraseHits.mp hj
    exact hnone ⟨qs, hocc, hwithin⟩

/-- **Matching misses no beginning of an occurrence.** Each posting contributes the numbers of an
occurrence within the slop that begins with it, if there is one, and of these it contributes one
that ends first. No chain ends before its beginning, and a phrase on a field hits nothing just if it
does not occur there within the slop. -/
theorem phraseHits_miss_no_beginning (ps : List Posting) (slop : Nat) (first : String)
    (rest : List String) :
    phraseHits ps slop (first :: rest) =
        ps.zipIdx.flatMap (phraseAt ps.zipIdx slop first rest) ∧
      (∀ (p : Posting) (i : Nat), ps[i]? = some p →
        (phraseAt ps.zipIdx slop first rest (p, i) ≠ [] ↔
          ∃ later, IsOccurrence ps (first :: rest) ((p, i) :: later) ∧
            Within slop ((p, i) :: later)) ∧
        (phraseAt ps.zipIdx slop first rest (p, i) ≠ [] →
          ∃ later, phraseAt ps.zipIdx slop first rest (p, i) =
              ((p, i) :: later).map Prod.snd ∧
            IsOccurrence ps (first :: rest) ((p, i) :: later) ∧ Within slop ((p, i) :: later) ∧
            ∀ others, IsOccurrence ps (first :: rest) ((p, i) :: others) →
              endPosition p.position later ≤ endPosition p.position others) ∧
        ∀ later, chain ps.zipIdx p.position rest = some later →
          ∀ last ∈ later.getLast?, p.position ≤ last.1.position) ∧
      ∀ (f g : Field) (text : String) (a : Analyzer), analyzerOf f = .ok a →
        ∃ hits, leafHits (.phrase g text slop) f ps = .ok hits ∧
          (hits = [] ↔ ¬∃ qs, IsOccurrence ps (a.terms text) qs ∧ Within slop qs) := by
  refine ⟨rfl, ?_, ?_⟩
  · intro p i hp
    refine ⟨⟨?_, ?_⟩, ?_, ?_⟩
    · intro hne
      obtain ⟨later, -, -, hocc, hwithin⟩ := phraseAt_spec hne hp
      exact ⟨later, hocc, hwithin⟩
    · rintro ⟨later, hocc, hwithin⟩
      exact phraseAt_ne_nil hocc hwithin
    · intro hne
      obtain ⟨later, heq, hchain, hocc, hwithin⟩ := phraseAt_spec hne hp
      refine ⟨later, heq, hocc, hwithin, ?_⟩
      intro others hothers
      obtain ⟨nearest, hnearest, hend⟩ := exists_chain_of_occurrence hothers
      obtain rfl := Option.some.inj (hchain.symm.trans hnearest)
      exact hend
    · intro later hchain last hlast
      obtain ⟨-, hbehind, -⟩ := chain_eq_some_iff.mp hchain
      exact (hbehind last (List.mem_of_getLast? hlast)).le
  · intro f g text a ha
    refine ⟨phraseHits ps slop (a.terms text), ?_, phraseHits_eq_nil⟩
    rw [leafHits, ha]
    rfl

/-- Of two postings of the second term the nearer one is taken, which only then is within the
slop. -/
theorem phraseHits_miss_no_beginning_nearest :
    let on (position : Nat) (term : String) : Posting := ⟨"body", term, position, 0, 1⟩
    let ps : List Posting := [on 0 "a", on 3 "b", on 2 "b", on 2 "b"]
    let body : Field := { name := "body", path := "body", type := .text, analyzer := "whitespace" }
    ps[0]? = some (on 0 "a") ∧
      (IsOccurrence ps ["a", "b"] [(on 0 "a", 0), (on 2 "b", 3)] ∧
        Within 1 [(on 0 "a", 0), (on 2 "b", 3)]) ∧
      phraseAt ps.zipIdx 1 "a" ["b"] (on 0 "a", 0) = [0, 2] ∧
      phraseAt ps.zipIdx 1 "a" ["b"] (on 0 "a", 0) ≠ [] ∧
      analyzerOf body = .ok .whitespace ∧
      ∃ hits, leafHits (.phrase body "a b" 1) body ps = .ok hits ∧ hits ≠ [] := by
  intro on ps body
  have hp : ps[0]? = some (on 0 "a") := rfl
  have hocc : IsOccurrence ps ["a", "b"] [(on 0 "a", 0), (on 2 "b", 3)] := by
    refine ⟨?_, rfl, ?_⟩
    · simp [ps]
    · simp [on]
  have hwithin : Within 1 [(on 0 "a", 0), (on 2 "b", 3)] := by
    show 2 ≤ 0 + 1 + 1
    omega
  have ha : analyzerOf body = .ok .whitespace := rfl
  have hterms : Analyzer.whitespace.terms "a b" = ["a", "b"] := by decide
  obtain ⟨-, hstarts, hleaf⟩ := phraseHits_miss_no_beginning ps 1 "a" ["b"]
  obtain ⟨hits, hhits, hnil⟩ := hleaf body body "a b" .whitespace ha
  refine ⟨hp, ⟨hocc, hwithin⟩, by decide, (hstarts _ 0 hp).1.mpr ⟨_, hocc, hwithin⟩, ha, hits,
    hhits, fun h => hnil.mp h ⟨_, ?_, hwithin⟩⟩
  rwa [hterms]

/-! ## All occurrences -/

/-- Where no two postings of a term lie within the slop of one another, an occurrence leaves out
no nearer posting. -/
theorem leavesNone_of_apart
    (hapart : ∀ (i i' : Nat) (p p' : Posting), ps[i]? = some p → ps[i']? = some p' →
      p.term ∈ terms → p.term = p'.term → p.position ≤ p'.position →
        p'.position ≤ p.position + slop → i = i')
    (hocc : IsOccurrence ps rest later) (hrest : ∀ term ∈ rest, term ∈ terms)
    (hbehind : ∀ q ∈ later, position < q.1.position)
    (hend : endPosition position later ≤ position + later.length + slop) :
    LeavesNone ps position later := by
  induction later generalizing position rest with
  | nil => trivial
  | cons q later ih =>
      cases rest with
      | nil => cases hocc.terms
      | cons term rest =>
          obtain ⟨hnumber, rfl, hlater, hocc⟩ := isOccurrence_cons.mp hocc
          obtain ⟨hterm, hrest⟩ := List.forall_mem_cons.mp hrest
          have hq := hbehind q List.mem_cons_self
          have hlength := length_le_endPosition hlater hocc.increasing
          change endPosition q.1.position later ≤ position + (later.length + 1) + slop at hend
          refine ⟨?_, ih hocc hrest hlater (by omega)⟩
          intro r hr hsame hlt
          by_cases hle : q.1.position < r.1.position
          · exact .inl hle
          · have hnumbers : r.2 = q.2 :=
              hapart r.2 q.2 r.1 q.1 hr hnumber (hsame ▸ hterm) hsame (by omega) (by omega)
            have hposting : r.1 = q.1 := by
              rw [hnumbers, hnumber] at hr
              exact (Option.some.inj hr).symm
            exact .inr ⟨by rw [hposting], hnumbers.ge⟩

/-- **The postings that a phrase picks** are those of occurrences within the slop that take the
nearest posting of each term. Where no two postings of a term behind the first lie within the slop
of one another, these are all occurrences within the slop. -/
theorem mem_phraseHits_iff_nearest (ps : List Posting) (slop : Nat) (terms : List String)
    (j : Nat) :
    (j ∈ phraseHits ps slop terms ↔
      ∃ qs, IsOccurrence ps terms qs ∧ Within slop qs ∧ IsNearest ps qs ∧
        j ∈ qs.map Prod.snd) ∧
    ((∀ (i i' : Nat) (p p' : Posting), ps[i]? = some p → ps[i']? = some p' →
      p.term ∈ terms.tail → p.term = p'.term → p.position ≤ p'.position →
        p'.position ≤ p.position + slop → i = i') →
      (j ∈ phraseHits ps slop terms ↔
        ∃ qs, IsOccurrence ps terms qs ∧ Within slop qs ∧ j ∈ qs.map Prod.snd)) := by
  refine ⟨mem_phraseHits, ?_⟩
  intro hapart
  rw [mem_phraseHits]
  constructor
  · rintro ⟨qs, hocc, hwithin, -, hj⟩
    exact ⟨qs, hocc, hwithin, hj⟩
  · rintro ⟨qs, hocc, hwithin, hj⟩
    refine ⟨qs, hocc, hwithin, ?_, hj⟩
    cases qs with
    | nil => trivial
    | cons q later =>
        cases terms with
        | nil => cases hocc.terms
        | cons first rest =>
            obtain ⟨-, -, hbehind, hlater⟩ := isOccurrence_cons.mp hocc
            exact leavesNone_of_apart hapart hlater (fun _ hterm => hterm) hbehind hwithin

/-- A phrase that overlaps with itself, on a field where its second term comes back farther away
than the slop. -/
theorem mem_phraseHits_iff_nearest_overlapping :
    let on (position : Nat) (term : String) : Posting := ⟨"body", term, position, 0, 1⟩
    let ps : List Posting := [on 0 "a", on 2 "b", on 1 "a", on 5 "b"]
    (∀ (i i' : Nat) (p p' : Posting), ps[i]? = some p → ps[i']? = some p' →
      p.term ∈ ["b"] → p.term = p'.term → p.position ≤ p'.position →
        p'.position ≤ p.position + 2 → i = i') ∧
      phraseHits ps 2 ["a", "b"] = [0, 1, 2, 1] ∧
      ¬∃ qs, IsOccurrence ps ["a", "b"] qs ∧ Within 2 qs ∧ 3 ∈ qs.map Prod.snd := by
  intro on ps
  have hapart : ∀ (i i' : Nat) (p p' : Posting), ps[i]? = some p → ps[i']? = some p' →
      p.term ∈ ["b"] → p.term = p'.term → p.position ≤ p'.position →
        p'.position ≤ p.position + 2 → i = i' := by
    have hplace : ∀ (i : Nat) (p : Posting), ps[i]? = some p → p.term = "b" →
        i = 1 ∧ p.position = 2 ∨ i = 3 ∧ p.position = 5 := by
      intro i p hp hb
      match i, hp with
      | 0, hp | 2, hp =>
          obtain rfl := Option.some.inj hp
          exact absurd hb (by decide)
      | 1, hp =>
          obtain rfl := Option.some.inj hp
          exact .inl ⟨rfl, rfl⟩
      | 3, hp =>
          obtain rfl := Option.some.inj hp
          exact .inr ⟨rfl, rfl⟩
      | _ + 4, hp => cases hp
    intro i i' p p' hp hp' hterm hsame hle hnear
    have hb : p.term = "b" := by simpa using hterm
    rcases hplace i p hp hb with ⟨rfl, hpos⟩ | ⟨rfl, hpos⟩ <;>
      rcases hplace i' p' hp' (hsame ▸ hb) with ⟨rfl, hpos'⟩ | ⟨rfl, hpos'⟩ <;> omega
  have hhits : phraseHits ps 2 ["a", "b"] = [0, 1, 2, 1] := by decide
  refine ⟨hapart, hhits, ?_⟩
  rw [← (mem_phraseHits_iff_nearest ps 2 ["a", "b"] 3).2 hapart, hhits]
  decide

/-- A posting that is within the slop is left out for a nearer one of its term. -/
theorem mem_phraseHits_farther :
    let on (position : Nat) (term : String) : Posting := ⟨"body", term, position, 0, 1⟩
    let ps : List Posting := [on 0 "a", on 1 "b", on 2 "b"]
    ¬∀ j, j ∈ phraseHits ps 1 ["a", "b"] ↔
      ∃ qs, IsOccurrence ps ["a", "b"] qs ∧ Within 1 qs ∧ j ∈ qs.map Prod.snd := by
  intro on ps h
  have hhits : phraseHits ps 1 ["a", "b"] = [0, 1] := by decide
  have hmem : 2 ∈ phraseHits ps 1 ["a", "b"] := by
    refine (h 2).mpr ⟨[(on 0 "a", 0), (on 2 "b", 2)], ⟨?_, rfl, ?_⟩, ?_, ?_⟩
    · simp [ps]
    · simp [on]
    · show 2 ≤ 0 + 1 + 1
      omega
    · simp
  rw [hhits] at hmem
  exact absurd hmem (by decide)

end Searchlight.Analysis
