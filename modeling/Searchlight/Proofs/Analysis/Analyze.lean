import Searchlight.Proofs.Analysis.Highlight
import Searchlight.Proofs.Analysis.Phrase
import Searchlight.Proofs.Analysis.Spans

/-!
# The postings of a text

Analysis cuts a text into its maximal runs of kept characters, and takes it as a whole where
the analyzer has no such characters. Each posting stands for the part of the text between its
offsets. The terms of a text are those of its postings, one at each position, so the text
is a phrase that picks all of them. Positions end at the greatest number of 32 bits: with
more postings than that no phrase is long enough, and the text as a phrase picks none.
-/

namespace Searchlight.Analysis

open Text

variable {a : Analyzer} {field text : String} {ps : List Posting} {position slop : Nat}

/-! ## Spans and postings -/

namespace Analyzer

theorem spans_of_keeps {keep : Char → Bool} (h : a.keeps? = some keep) (cs : List Char) :
    a.spans cs = spansFrom keep 0 cs := by
  rw [spans, h]

theorem spans_of_keeps_none (h : a.keeps? = none) (cs : List Char) :
    a.spans cs = if cs = [] then [] else [⟨0, cs⟩] := by
  simp only [spans, h, List.isEmpty_iff]

theorem isIn_spans (a : Analyzer) (cs : List Char) : ∀ s ∈ a.spans cs, s.IsIn 0 cs := by
  cases h : a.keeps? with
  | some keep =>
      rw [spans_of_keeps h]
      exact (runs_spansFrom keep 0 cs).isIn
  | none =>
      rw [spans_of_keeps_none h]
      split
      · simp
      · rename_i hne
        intro s hs
        obtain rfl := List.mem_singleton.mp hs
        exact ⟨hne, [], [], by simp, rfl⟩

theorem pairwise_spans (a : Analyzer) (cs : List Char) :
    (a.spans cs).Pairwise fun s t => s.stop ≤ t.start := by
  cases h : a.keeps? with
  | some keep =>
      rw [spans_of_keeps h]
      exact (runs_spansFrom keep 0 cs).pairwise
  | none =>
      rw [spans_of_keeps_none h]
      split
      · exact .nil
      · exact List.pairwise_singleton _ _

theorem getElem?_postings (a : Analyzer) (field text : String) (i : Nat) :
    (a.analyze field text).postings[i]? =
      (a.spans text.toList)[i]?.map fun s => postingOf a field s i := by
  simp only [analyze, List.getElem?_map, List.getElem?_zipIdx, Option.map_map, Nat.zero_add]
  rfl

/-- The offsets of the postings are those of the spans. -/
theorem map_offsets (a : Analyzer) (field text : String) :
    (a.analyze field text).postings.map (fun p => (p.start, p.stop)) =
      (a.spans text.toList).map fun s => (s.start, s.stop) := by
  refine List.ext_getElem? fun i => ?_
  rw [List.getElem?_map, getElem?_postings, Option.map_map, List.getElem?_map]
  rfl

theorem pairwise_postings (a : Analyzer) (field text : String) :
    (a.analyze field text).postings.Pairwise fun p q => p.stop ≤ q.start := by
  have hspans : ((a.spans text.toList).map fun s => (s.start, s.stop)).Pairwise
      fun x y => x.2 ≤ y.1 := List.pairwise_map.mpr (a.pairwise_spans _)
  rw [← a.map_offsets field text] at hspans
  exact List.pairwise_map.mp hspans

theorem covered_iff {keep : Char → Bool} (h : a.keeps? = some keep) (field : String) {o : Nat}
    {c : Char} (hc : (o, c) ∈ placed 0 text.toList) :
    (∃ p ∈ (a.analyze field text).postings, p.start ≤ o ∧ o < p.stop) ↔ keep c = true := by
  rw [← (runs_spansFrom keep 0 text.toList).covers_iff hc, ← spans_of_keeps h]
  have hmem (x : Nat × Nat) := iff_of_eq (congrArg (x ∈ ·) (a.map_offsets field text))
  simp only [List.mem_map] at hmem
  constructor
  · rintro ⟨p, hp, hcovers⟩
    obtain ⟨s, hs, heq⟩ := (hmem (p.start, p.stop)).mp ⟨p, hp, rfl⟩
    obtain ⟨hstart, hstop⟩ := Prod.mk.inj heq
    exact ⟨s, hs, hstart.trans_le hcovers.1, hcovers.2.trans_eq hstop.symm⟩
  · rintro ⟨s, hs, hcovers⟩
    obtain ⟨p, hp, heq⟩ := (hmem (s.start, s.stop)).mpr ⟨s, hs, rfl⟩
    obtain ⟨hstart, hstop⟩ := Prod.mk.inj heq
    exact ⟨p, hp, hstart.trans_le hcovers.1, hcovers.2.trans_eq hstop.symm⟩

theorem separated_postings {keep : Char → Bool} (h : a.keeps? = some keep)
    (field text : String) :
    (a.analyze field text).postings.IsChain fun p q =>
      Separated keep 0 text.toList p.stop q.start := by
  have hspans : ((a.spans text.toList).map fun s => (s.start, s.stop)).IsChain
      fun x y => Separated keep 0 text.toList x.2 y.1 := by
    rw [List.isChain_map, spans_of_keeps h]
    exact (runs_spansFrom keep 0 text.toList).separated
  rw [← a.map_offsets field text] at hspans
  exact (List.isChain_map _).mp hspans

/-- A text that is taken as a whole has one posting, unless it is empty. -/
theorem offsets_of_keeps_none (h : a.keeps? = none) (field text : String) :
    (a.analyze field text).postings.map (fun p => (p.start, p.stop)) =
      if text = "" then [] else [(0, text.utf8ByteSize)] := by
  rw [map_offsets, spans_of_keeps_none h]
  by_cases htext : text = ""
  · rw [if_pos htext, htext]
    rfl
  · rw [if_neg htext, if_neg (by simpa using htext)]
    simp [Span.stop, byteLength_eq]

theorem position_of_getElem? {i : Nat} {p : Posting}
    (h : (a.analyze field text).postings[i]? = some p) : p.position = min i lastPosition := by
  rw [getElem?_postings] at h
  obtain ⟨s, -, rfl⟩ := Option.map_eq_some_iff.mp h
  rfl

theorem terms_eq_map (a : Analyzer) (field text : String) :
    a.terms text = (a.analyze field text).postings.map fun p => p.term := by
  refine List.ext_getElem? fun i => ?_
  rw [List.getElem?_map, getElem?_postings, Option.map_map, terms, List.getElem?_map]
  rfl

end Analyzer

/-- A posting stands for the part of a text between its offsets. The part is not empty, starts
and ends between characters, and is the term once it is normalized. -/
structure Posting.StandsIn (p : Posting) (a : Analyzer) (text : String) : Prop where
  lt : p.start < p.stop
  starts : String.Pos.Raw.IsValid text ⟨p.start⟩
  ends : String.Pos.Raw.IsValid text ⟨p.stop⟩
  slice : ∃ before part after, text = before ++ part ++ after ∧
    p.start = before.utf8ByteSize ∧ p.stop = (before ++ part).utf8ByteSize ∧
      p.term = String.ofList (a.normalize part.toList)

theorem Span.IsIn.standsIn {s : Span} (h : s.IsIn 0 text.toList) (a : Analyzer) (field : String)
    (i : Nat) : (postingOf a field s i).StandsIn a text := by
  obtain ⟨before, after, hsplit, hstart⟩ := h.split
  have htext : text = String.ofList before ++ String.ofList s.text ++ String.ofList after := by
    rw [← String.ofList_append, ← String.ofList_append, ← hsplit, String.ofList_toList]
  have hstart : (postingOf a field s i).start = (String.ofList before).utf8ByteSize := by
    rw [← byteLength_eq]
    exact hstart.trans (Nat.zero_add _)
  have hstop : (postingOf a field s i).stop =
      (String.ofList before ++ String.ofList s.text).utf8ByteSize := by
    rw [String.utf8ByteSize_append, ← hstart, ← byteLength_eq]
    rfl
  refine ⟨h.start_lt.2, ?_, ?_, _, _, _, htext, hstart, hstop, ?_⟩
  · rw [hstart]
    exact isValid_of_append (htext.trans (String.append_assoc ..))
  · rw [hstop]
    exact isValid_of_append htext
  · rw [String.toList_ofList]
    rfl

theorem Analyzer.standsIn (a : Analyzer) (field text : String) :
    ∀ p ∈ (a.analyze field text).postings, p.field = field ∧ p.StandsIn a text := by
  intro p hp
  obtain ⟨i, hi⟩ := List.mem_iff_getElem?.mp hp
  rw [getElem?_postings] at hi
  obtain ⟨s, hs, rfl⟩ := Option.map_eq_some_iff.mp hi
  exact ⟨rfl, (a.isIn_spans _ s (List.mem_of_getElem? hs)).standsIn a field i⟩

/-! ## A text as a phrase -/

/-- Postings at the positions behind one another. -/
def Adjacent : Nat → List (Posting × Nat) → Prop
  | _, [] => True
  | position, q :: later => q.1.position = position + 1 ∧ Adjacent q.1.position later

theorem Adjacent.endPosition {later : List (Posting × Nat)} (h : Adjacent position later) :
    endPosition position later = position + later.length := by
  induction later generalizing position with
  | nil => rfl
  | cons q later ih =>
      obtain ⟨hq, hlater⟩ := h
      rw [Analysis.endPosition, ih hlater, hq, List.length_cons]
      omega

/-- Where each position has one posting, adjacent postings leave none out. -/
theorem Adjacent.leavesNone {later : List (Posting × Nat)} (h : Adjacent position later)
    (hpos : ∀ r : Posting × Nat, ps[r.2]? = some r.1 → r.1.position = r.2)
    (hnumbered : ∀ q ∈ later, ps[q.2]? = some q.1) : LeavesNone ps position later := by
  induction later generalizing position with
  | nil => trivial
  | cons q later ih =>
      obtain ⟨hq, hlater⟩ := h
      obtain ⟨hnumber, hnumbered⟩ := List.forall_mem_cons.mp hnumbered
      refine ⟨fun r hr _ hlt => ?_, ih hlater hnumbered⟩
      have hqpos := hpos q hnumber
      have hrpos := hpos r hr
      rcases Nat.lt_or_ge q.1.position r.1.position with h | h
      · exact .inl h
      · exact .inr ⟨by omega, by omega⟩

theorem adjacent_zipIdx
    (hpos : ∀ (i : Nat) (p : Posting), ps[i]? = some p → p.position = position + 1 + i) :
    Adjacent position (ps.zipIdx (position + 1)) := by
  induction ps generalizing position with
  | nil => trivial
  | cons p ps ih =>
      have hp : p.position = position + 1 := hpos 0 p rfl
      rw [List.zipIdx_cons]
      refine ⟨hp, ?_⟩
      rw [hp]
      refine ih fun i q hq => ?_
      rw [hpos (i + 1) q hq]
      omega

/-- The postings of a field are an occurrence of their own terms if each one is at the position
that its number says. -/
theorem isOccurrence_zipIdx
    (hpos : ∀ r : Posting × Nat, ps[r.2]? = some r.1 → r.1.position = r.2) :
    IsOccurrence ps (ps.map fun p => p.term) ps.zipIdx where
  numbered _ hq := List.mem_zipIdx_iff_getElem?.mp hq
  terms := by
    have hterms := congrArg (List.map Posting.term) (List.zipIdx_map_fst 0 ps)
    rwa [List.map_map] at hterms
  increasing := by
    refine (pairwise_zipIdx ps).imp_of_mem fun hq hr hlt => ?_
    rwa [hpos _ (List.mem_zipIdx_iff_getElem?.mp hq), hpos _ (List.mem_zipIdx_iff_getElem?.mp hr)]

/-- An occurrence has no more postings than there are positions. -/
theorem IsOccurrence.length_le {terms : List String} {qs : List (Posting × Nat)} {last : Nat}
    (h : IsOccurrence ps terms qs)
    (hlast : ∀ (i : Nat) (p : Posting), ps[i]? = some p → p.position ≤ last) :
    terms.length ≤ last + 1 := by
  have hsorted : (qs.map fun q => q.1.position).Pairwise (· < ·) :=
    List.pairwise_map.mpr h.increasing
  have hsubset : (qs.map fun q => q.1.position) ⊆ List.range (last + 1) := by
    intro position hmem
    obtain ⟨q, hq, rfl⟩ := List.mem_map.mp hmem
    exact List.mem_range.mpr (Nat.lt_succ_of_le (hlast _ _ (h.numbered q hq)))
  have hle := (List.subperm_of_subset (hsorted.imp Nat.ne_of_lt) hsubset).length_le
  rwa [List.length_map, List.length_range, h.length_eq] at hle

/-- A phrase of all terms of a field picks everything, unless positions run out. -/
theorem mem_phraseHits_map
    (hpos : ∀ (i : Nat) (p : Posting), ps[i]? = some p → p.position = min i lastPosition)
    (slop j : Nat) :
    j ∈ phraseHits ps slop (ps.map fun p => p.term) ↔
      j < ps.length ∧ ps.length ≤ lastPosition + 1 := by
  constructor
  · intro hj
    obtain ⟨qs, hocc, -⟩ := mem_phraseHits.mp hj
    have hle := hocc.length_le fun i p hp => (hpos i p hp).trans_le (Nat.min_le_right ..)
    rw [List.length_map] at hle
    exact ⟨lt_of_mem_phraseHits hj, hle⟩
  · rintro ⟨hj, hle⟩
    have hnumber : ∀ r : Posting × Nat, ps[r.2]? = some r.1 → r.1.position = r.2 := by
      intro r hr
      have hlt := (List.getElem?_eq_some_iff.mp hr).1
      rw [hpos _ _ hr]
      omega
    refine mem_phraseHits.mpr ⟨ps.zipIdx, isOccurrence_zipIdx hnumber, ?_⟩
    cases ps with
    | nil => cases hj
    | cons p ps =>
        have hp : p.position = 0 := hnumber (p, 0) rfl
        have hadjacent : Adjacent p.position (ps.zipIdx 1) := by
          rw [hp]
          refine adjacent_zipIdx fun i q hq => ?_
          rw [hnumber (q, i + 1) hq]
          omega
        rw [List.zipIdx_cons]
        refine ⟨?_, hadjacent.leavesNone hnumber fun q hq => ?_, ?_⟩
        · show endPosition p.position (ps.zipIdx 1) ≤ p.position + (ps.zipIdx 1).length + slop
          rw [hadjacent.endPosition]
          omega
        · refine List.mem_zipIdx_iff_getElem?.mp ?_
          rw [List.zipIdx_cons]
          exact List.mem_cons_of_mem _ hq
        · rw [← List.zipIdx_cons, List.zipIdx_map_snd]
          simpa using hj

/-- The postings that the text of a value picks as a phrase, in this value. -/
theorem exists_leafHits_phrase {f : Field} (hf : analyzerOf f = .ok a) (field text : String)
    (slop : Nat) :
    ∃ hits, leafHits (.phrase f text slop) f (a.analyze field text).postings = .ok hits ∧
      ∀ j, j ∈ hits ↔ j < (a.analyze field text).postings.length ∧
        (a.analyze field text).postings.length ≤ lastPosition + 1 := by
  refine ⟨_, by rw [leafHits, hf]; rfl, fun j => ?_⟩
  rw [a.terms_eq_map field text]
  exact mem_phraseHits_map (fun i p hp => a.position_of_getElem? hp) slop j

/-- A phrase on a field with a known analyzer does not fail. -/
theorem exists_highlight_phrase {f : Field} (hf : analyzerOf f = .ok a) (text : String)
    (slop : Nat) (fields : List AnalyzedField) :
    ∃ out, highlight (.phrase f text slop) fields = .ok out := by
  refine exists_highlight_eq_ok fun leaf g analyzed hleaf hg _ _ => ?_
  obtain rfl := (Query.positiveIn_of_field rfl).mp hleaf
  obtain rfl := Option.some.inj hg
  exact ⟨_, by rw [leafHits, hf]; rfl⟩

/-- **Analysis cuts a text into its maximal runs.** Postings stand for parts of the text, in
order and apart from one another. Where the analyzer keeps some characters, it is these that are in
a posting, and one of the others is between two postings. Postings are numbered until positions run
out, and their terms are the terms of the text. As a phrase the text picks every posting
of a value that is this text, again until positions run out, and so does a query with this phrase
unless it excludes it. -/
theorem analyze_cuts_runs (a : Analyzer) (field text : String) (slop : Nat) :
    let ps := (a.analyze field text).postings
    (∀ p ∈ ps, p.field = field ∧ p.StandsIn a text) ∧
    ps.Pairwise (fun p q => p.stop ≤ q.start) ∧
    (∀ keep, a.keeps? = some keep →
      (∀ o c, (o, c) ∈ placed 0 text.toList →
        ((∃ p ∈ ps, p.start ≤ o ∧ o < p.stop) ↔ keep c = true)) ∧
      ps.IsChain fun p q => Separated keep 0 text.toList p.stop q.start) ∧
    (a.keeps? = none → ps.map (fun p => (p.start, p.stop)) =
      if text = "" then [] else [(0, text.utf8ByteSize)]) ∧
    (∀ i p, ps[i]? = some p → p.position = min i lastPosition) ∧
    a.terms text = ps.map (fun p => p.term) ∧
    ∀ f : Field, analyzerOf f = .ok a → f.path = field →
      (∃ hits, leafHits (.phrase f text slop) f ps = .ok hits ∧
        ∀ j, j ∈ hits ↔ j < ps.length ∧ ps.length ≤ lastPosition + 1) ∧
      ∀ fields, a.analyze field text ∈ fields →
        (∃ out, highlight (.phrase f text slop) fields = .ok out) ∧
        ∀ q out, (Query.phrase f text slop).PositiveIn q → highlight q fields = .ok out →
          ps.length ≤ lastPosition + 1 → ∀ p ∈ ps, p ∈ out := by
  intro ps
  refine ⟨a.standsIn field text, a.pairwise_postings field text, fun keep hkeep => ⟨fun o c hc =>
    a.covered_iff hkeep field hc, a.separated_postings hkeep field text⟩,
    fun hnone => a.offsets_of_keeps_none hnone field text,
    fun i p hp => a.position_of_getElem? hp, a.terms_eq_map field text, ?_⟩
  rintro f hf rfl
  obtain ⟨hits, hhits, hpicked⟩ := exists_leafHits_phrase hf f.path text slop
  refine ⟨⟨hits, hhits, hpicked⟩, fun fields hfield => ⟨exists_highlight_phrase hf text slop fields,
    fun q out hpositive hout hlength p hp => ?_⟩⟩
  obtain ⟨i, hi⟩ := List.mem_iff_getElem?.mp hfield
  obtain ⟨j, hj⟩ := List.mem_iff_getElem?.mp hp
  have hlt := (List.getElem?_eq_some_iff.mp hj).1
  refine (mem_of_highlight hout p).mpr ⟨i, j, ?_, ?_⟩
  · exact ⟨_, f, _, hits, hpositive, rfl, hi, rfl, hhits, (hpicked j).mpr ⟨hlt, hlength⟩⟩
  · rw [postingAt, hi]
    exact hj

/-- A value in which a word comes twice, found by a query that boosts the phrase, and the same
value taken as a whole. -/
theorem analyze_cuts_runs_repeated :
    let name : Field :=
      { name := "name", path := "name", type := .text, analyzer := some "whitespace" }
    let on (term : String) (position start stop : Nat) : Posting :=
      ⟨"name", term, position, start, stop⟩
    let ps : List Posting := [on "é-b" 0 0 4, on "B" 1 5 6, on "B" 2 7 8]
    let phrase : Query := .phrase name "é-b B B" 0
    let q : Query := .boost phrase (.nearest false 2 1)
    let fields : List AnalyzedField := [⟨"title", [on "B" 0 0 1]⟩, ⟨"name", ps⟩]
    Analyzer.whitespace.analyze "name" "é-b B B" = ⟨"name", ps⟩ ∧
      highlight q fields = .ok ps ∧ (∀ p ∈ ps, p.StandsIn .whitespace "é-b B B" ∧ p ∈ ps) ∧
      ((∃ p ∈ ps, p.start ≤ 2 ∧ 2 < p.stop) ↔ Text.isBlank '-' = false) ∧
      (Analyzer.keyword.analyze "name" "é-b B B").postings.map (fun p => (p.start, p.stop)) =
        [(0, 8)] := by
  intro name on ps phrase q fields
  have hanalyze : Analyzer.whitespace.analyze "name" "é-b B B" = ⟨"name", ps⟩ := by
    decide +kernel
  have hfound : ((positiveLeaves q).mapM fun z => fieldHits z.1 z.2 fields.zipIdx) =
      .ok [[(1, 0), (1, 1), (1, 2)]] := by decide +kernel
  have hout : highlight q fields = .ok ps := highlight_of_pairwise hfound (by decide +kernel)
  obtain ⟨hstands, -, hruns, -, -, -, hphrase⟩ :=
    analyze_cuts_runs .whitespace "name" "é-b B B" 0
  obtain ⟨-, -, -, hwhole, -⟩ := analyze_cuts_runs .keyword "name" "é-b B B" 0
  rw [hanalyze] at hstands hruns hphrase
  obtain ⟨-, hall⟩ := hphrase name rfl rfl
  obtain ⟨-, hpicked⟩ := hall fields (by simp [fields])
  refine ⟨hanalyze, hout, fun p hp => ⟨(hstands p hp).2, ?_⟩, ?_, hwhole rfl⟩
  · exact hpicked q ps (.boost _ (.self rfl)) hout (by decide) p hp
  · simpa using (hruns (fun c => !Text.isBlank c) rfl).1 2 '-' (by decide)

end Searchlight.Analysis
