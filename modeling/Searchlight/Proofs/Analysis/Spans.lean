import Mathlib.Data.List.Chain
import Searchlight.Analysis.Posting
import Searchlight.Proofs.Text.Offsets

/-!
# The runs of a text

Cutting a text into spans leaves nothing between two of them but characters that are not
kept, and at least one of these. So a character lies in a span exactly if it is kept, and
the spans are the maximal runs.
-/

namespace Searchlight.Analysis

open Text

variable {keep : Char → Bool} {offset o : Nat} {c : Char} {cs : List Char} {s : Span}
  {spans : List Span}

/-- A text that starts at an offset consists of spans of kept characters, and of gaps without any.
Behind a span the text ends or goes on with a gap. -/
inductive Runs (keep : Char → Bool) : Nat → List Char → List Span → Prop
  | gap {offset : Nat} {gap : List Char} (hgap : ∀ c ∈ gap, keep c = false) :
      Runs keep offset gap []
  | run {offset : Nat} (gap text : List Char) {rest : List Char} {later : List Span}
      (hgap : ∀ c ∈ gap, keep c = false) (hne : text ≠ []) (hrun : ∀ c ∈ text, keep c = true)
      (hend : ∀ c ∈ rest.head?, keep c = false)
      (hrest : Runs keep (offset + byteLength gap + byteLength text) rest later) :
      Runs keep offset (gap ++ text ++ rest) (⟨offset + byteLength gap, text⟩ :: later)

/-- A character that is not kept makes the gap in front longer. -/
theorem Runs.skip (h : Runs keep (offset + c.utf8Size) cs spans) (hc : keep c = false) :
    Runs keep offset (c :: cs) spans := by
  cases h with
  | gap hgap => exact .gap (List.forall_mem_cons.mpr ⟨hc, hgap⟩)
  | @run _ gap text rest later hgap hne hrun hend hrest =>
      have hoffset : offset + c.utf8Size + byteLength gap = offset + byteLength (c :: gap) := by
        rw [byteLength_cons]
        omega
      rw [hoffset] at hrest ⊢
      exact .run (c :: gap) text (List.forall_mem_cons.mpr ⟨hc, hgap⟩) hne hrun hend hrest

/-- A kept character in front of the text that follows it. -/
def spanBefore (offset : Nat) (c : Char) (later : List Span) : List Span :=
  match later with
  | [] => [⟨offset, [c]⟩]
  | next :: others =>
    if next.start = offset + c.utf8Size then ⟨offset, c :: next.text⟩ :: others
    else ⟨offset, [c]⟩ :: later

/-- A kept character joins the span that follows it at once, or is one of its own. -/
theorem Runs.join (h : Runs keep (offset + c.utf8Size) cs spans) (hc : keep c = true) :
    Runs keep offset (c :: cs) (spanBefore offset c spans) := by
  have hone : ∀ d ∈ [c], keep d = true := by simpa using hc
  cases h with
  | gap hgap =>
      exact .run [] [c] (by simp) (by simp) hone
        (fun d hd => hgap d (List.mem_of_mem_head? hd)) (.gap hgap)
  | @run _ gap text rest later hgap hne hrun hend hrest =>
      rw [spanBefore]
      cases gap with
      | nil =>
          rw [if_pos (by simp)]
          refine .run [] (c :: text) (by simp) (by simp)
            (List.forall_mem_cons.mpr ⟨hc, hrun⟩) hend ?_
          simpa [Nat.add_assoc] using hrest
      | cons d gap =>
          have hsize := d.utf8Size_pos
          rw [if_neg (by simp only [byteLength_cons]; omega)]
          refine .run [] [c] (by simp) (by simp) hone ?_
            (.run (d :: gap) text hgap hne hrun hend hrest)
          intro e he
          obtain rfl := Option.some.inj he
          exact hgap d List.mem_cons_self

theorem runs_spansFrom (keep : Char → Bool) (offset : Nat) (cs : List Char) :
    Runs keep offset cs (spansFrom keep offset cs) := by
  induction cs generalizing offset with
  | nil => exact .gap (by simp)
  | cons c cs ih =>
      rw [spansFrom]
      by_cases hc : keep c = true
      · rw [if_pos hc]
        exact (ih _).join hc
      · rw [if_neg hc]
        exact (ih _).skip (by simpa using hc)

/-! ## What runs are -/

/-- A part of a text that starts at an offset, itself at its own offset. -/
structure Span.IsIn (s : Span) (offset : Nat) (cs : List Char) : Prop where
  ne_nil : s.text ≠ []
  split : ∃ before after, cs = before ++ s.text ++ after ∧ s.start = offset + byteLength before

theorem Span.IsIn.start_lt (h : s.IsIn offset cs) : offset ≤ s.start ∧ s.start < s.stop := by
  obtain ⟨before, after, -, hstart⟩ := h.split
  have hpos := byteLength_pos h.ne_nil
  rw [Span.stop]
  omega

theorem Runs.isIn (h : Runs keep offset cs spans) : ∀ s ∈ spans, s.IsIn offset cs := by
  induction h with
  | gap => simp
  | @run offset gap text rest later hgap hne hrun hend hrest ih =>
      intro s hs
      rcases List.mem_cons.mp hs with rfl | hs
      · exact ⟨hne, gap, rest, rfl, rfl⟩
      · obtain ⟨hs, before, after, rfl, hstart⟩ := ih s hs
        refine ⟨hs, gap ++ text ++ before, after, by simp, ?_⟩
        rw [hstart, byteLength_append, byteLength_append]
        omega

/-- A character lies in a span if its offset does. -/
def Span.Covers (s : Span) (o : Nat) : Prop := s.start ≤ o ∧ o < s.stop

/-- Behind a span nothing of the text starts before its end. -/
theorem Runs.stop_le {gap text : List Char}
    (h : Runs keep (offset + byteLength gap + byteLength text) cs spans) :
    ∀ s ∈ spans, (⟨offset + byteLength gap, text⟩ : Span).stop ≤ s.start :=
  fun s hs => (h.isIn s hs).start_lt.1

/-- Spans stand in increasing order and do not overlap. -/
theorem Runs.pairwise (h : Runs keep offset cs spans) :
    spans.Pairwise fun s t => s.stop ≤ t.start := by
  induction h with
  | gap => exact .nil
  | run gap text hgap hne hrun hend hrest ih => exact List.pairwise_cons.mpr ⟨hrest.stop_le, ih⟩

/-- Spans cover the characters that are kept. -/
theorem Runs.covers_iff (h : Runs keep offset cs spans) (hc : (o, c) ∈ placed offset cs) :
    (∃ s ∈ spans, s.Covers o) ↔ keep c = true := by
  induction h with
  | gap hgap => simp [hgap c (mem_of_placed hc).1]
  | @run offset gap text rest later hgap hne hrun hend hrest ih =>
      have hstop : (⟨offset + byteLength gap, text⟩ : Span).stop =
          offset + byteLength gap + byteLength text := rfl
      rw [placed_append, placed_append, List.mem_append, List.mem_append, byteLength_append,
        ← Nat.add_assoc] at hc
      simp only [List.mem_cons, exists_eq_or_imp]
      rcases hc with (hc | hc) | hc
      · -- in the gap, before all spans
        obtain ⟨hmem, -, hlt⟩ := mem_of_placed hc
        simp only [hgap c hmem, Bool.false_eq_true, iff_false, not_or, not_exists, not_and]
        refine ⟨fun hcovers => ?_, fun s hs hcovers => ?_⟩
        · exact absurd hcovers.1 (by simpa using hlt)
        · have hle := hrest.stop_le s hs
          have hstart := hcovers.1
          omega
      · -- in the first span
        obtain ⟨hmem, hle, hlt⟩ := mem_of_placed hc
        simp only [hrun c hmem, iff_true]
        exact .inl ⟨hle, hlt⟩
      · -- behind it
        obtain ⟨-, hle, -⟩ := mem_of_placed hc
        rw [← ih hc, or_iff_right]
        intro hcovers
        have hlt := hcovers.2
        omega

/-- A character that is not kept stands between two offsets. -/
def Separated (keep : Char → Bool) (offset : Nat) (cs : List Char) (start stop : Nat) : Prop :=
  ∃ o c, (o, c) ∈ placed offset cs ∧ start ≤ o ∧ o < stop ∧ keep c = false

/-- Something that is not kept stands between a span and the next one. -/
theorem Runs.separated (h : Runs keep offset cs spans) :
    spans.IsChain fun s t => Separated keep offset cs s.stop t.start := by
  induction h with
  | gap => exact .nil
  | @run offset gap text rest later hgap hne hrun hend hrest ih =>
      have hlift : ∀ o c, (o, c) ∈ placed (offset + byteLength gap + byteLength text) rest →
          (o, c) ∈ placed offset (gap ++ text ++ rest) := by
        intro o c hc
        rw [placed_append, byteLength_append, ← Nat.add_assoc]
        exact List.mem_append_right _ hc
      have hlater : later.IsChain fun s t =>
          Separated keep offset (gap ++ text ++ rest) s.stop t.start :=
        ih.imp fun _ _ ⟨o, c, hc, hbetween⟩ => ⟨o, c, hlift o c hc, hbetween⟩
      cases hrest with
      | gap => exact .singleton _
      | @run _ gap' text' rest' later' hgap' hne' hrun' hend' hrest' =>
          refine .cons_cons ?_ hlater
          cases gap' with
          | nil =>
              -- the next span would have been part of this one
              cases text' with
              | nil => exact absurd rfl hne'
              | cons d text' =>
                  have hkept := hrun' d List.mem_cons_self
                  cases hkept.symm.trans (hend d rfl)
          | cons d gap' =>
              have hsize := d.utf8Size_pos
              refine ⟨_, d, hlift _ d List.mem_cons_self, le_rfl, ?_, hgap' d List.mem_cons_self⟩
              simp only [byteLength_cons]
              omega

end Searchlight.Analysis
