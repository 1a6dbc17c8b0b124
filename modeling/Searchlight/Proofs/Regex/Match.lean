import Mathlib.Data.Finset.Card
import Searchlight.Regex.Match

/-!
# What regular expressions match

A match leads from one place of a text to another one. The places where matches end are found from
all places at once where they start, and a repetition without limit is followed up to as many
steps as the text has places. This is enough: a longer way comes to some place twice and can be cut
short between.
-/

namespace Searchlight.Regex

variable {R : Nat → Nat → Prop} {step : List Nat → List Nat} {text cs : List Char}
  {i j k m n : Nat} {c : Char}

/-! ## Steps -/

/-- So many steps of a relation, one after the other. -/
inductive Times (R : Nat → Nat → Prop) : Nat → Nat → Nat → Prop
  | none (i : Nat) : Times R 0 i i
  | next {n i k j : Nat} (first : R i k) (later : Times R n k j) : Times R (n + 1) i j

theorem times_zero : Times R 0 i j ↔ j = i := by
  constructor
  · rintro ⟨⟩
    rfl
  · rintro rfl
    exact .none j

theorem times_succ : Times R (n + 1) i j ↔ ∃ k, R i k ∧ Times R n k j := by
  constructor
  · rintro ⟨⟩
    exact ⟨_, ‹_›, ‹_›⟩
  · rintro ⟨k, first, later⟩
    exact .next first later

theorem times_add : Times R (m + n) i j ↔ ∃ k, Times R m i k ∧ Times R n k j := by
  induction m generalizing i with
  | zero => simp [times_zero]
  | succ m ih =>
      rw [Nat.succ_add, times_succ]
      simp only [times_succ, ih]
      constructor
      · rintro ⟨k, hfirst, l, hm, hn⟩
        exact ⟨l, ⟨k, hfirst, hm⟩, hn⟩
      · rintro ⟨l, ⟨k, hfirst, hm⟩, hn⟩
        exact ⟨k, hfirst, l, hm, hn⟩

/-- Steps do not lead out of places that no step leads out of. -/
theorem Times.mem {places : List Nat} (h : Times R n i j)
    (hclosed : ∀ i ∈ places, ∀ k, R i k → k ∈ places) (hi : i ∈ places) : j ∈ places := by
  induction h with
  | none => exact hi
  | next first _ ih => exact ih (hclosed _ hi _ first)

/-- A step that does not stay where it is ends at a place up to `last`. -/
def EndsBy (last : Nat) (R : Nat → Nat → Prop) : Prop := ∀ i j, R i j → j = i ∨ j ≤ last

theorem Times.endsBy {last : Nat} (hR : EndsBy last R) : EndsBy last (Times R n) := by
  intro i j h
  induction h with
  | none => exact .inl rfl
  | next first later ih =>
      rcases ih with rfl | hle
      · exact hR _ _ first
      · exact .inr hle

/-- Steps with more places on the way than there are come to one of them twice, and what is between
can be left out. -/
theorem Times.shorten {last : Nat} (hR : EndsBy last R) (h : Times R n i j) :
    ∃ m ≤ last + 1, Times R m i j := by
  induction n using Nat.strongRecOn with
  | ind n ih =>
      by_cases hn : n ≤ last + 1
      · exact ⟨n, hn, h⟩
      · have hway : ∀ k, ∃ place, k ≤ n → Times R k i place ∧ Times R (n - k) place j := by
          intro k
          by_cases hk : k ≤ n
          · obtain ⟨place, hbefore, hbehind⟩ := times_add.mp ((Nat.add_sub_cancel' hk).symm ▸ h)
            exact ⟨place, fun _ => ⟨hbefore, hbehind⟩⟩
          · exact ⟨i, fun h => absurd h hk⟩
        choose place hplace using hway
        have hcard : (insert i (Finset.range (last + 1))).card < (Finset.range (n + 1)).card := by
          have hle := Finset.card_insert_le i (Finset.range (last + 1))
          rw [Finset.card_range] at hle ⊢
          omega
        have hmaps : ∀ k ∈ Finset.range (n + 1), place k ∈ insert i (Finset.range (last + 1)) := by
          intro k hk
          have hbefore := (hplace k (by simpa [Nat.lt_succ_iff] using hk)).1
          rcases Times.endsBy hR _ _ hbefore with h | h
          · exact h ▸ Finset.mem_insert_self ..
          · exact Finset.mem_insert_of_mem (Finset.mem_range.mpr (Nat.lt_succ_of_le h))
        -- from the first visit of the place on, go on as from the last one
        have hcut : ∀ a b, a < b → b ≤ n → place a = place b → ∃ m ≤ last + 1, Times R m i j := by
          intro a b hab hb heq
          have hbefore := (hplace a (by omega)).1
          have hbehind := (hplace b hb).2
          exact ih (a + (n - b)) (by omega) (times_add.mpr ⟨_, hbefore, heq ▸ hbehind⟩)
        obtain ⟨a, ha, b, hb, hne, heq⟩ :=
          Finset.exists_ne_map_eq_of_card_lt_of_maps_to hcard hmaps
        rw [Finset.mem_range] at ha hb
        rcases Nat.lt_or_gt_of_ne hne with hlt | hlt
        · exact hcut a b hlt (by omega) heq
        · exact hcut b a hlt (by omega) heq.symm

/-- A function on sets of places takes a step from each of them. -/
def Takes (step : List Nat → List Nat) (R : Nat → Nat → Prop) : Prop :=
  ∀ places j, j ∈ step places ↔ ∃ i ∈ places, R i j

theorem Takes.iterate (h : Takes step R) (n : Nat) : Takes (iterate step n) (Times R n) := by
  intro places j
  induction n generalizing places with
  | zero => simp [Regex.iterate, times_zero]
  | succ n ih =>
      rw [Regex.iterate]
      split
      · rename_i hempty
        simp [List.isEmpty_iff.mp hempty]
      · simp only [ih, h places, times_succ]
        constructor
        · rintro ⟨k, ⟨i, hi, hfirst⟩, hlater⟩
          exact ⟨i, hi, k, hfirst, hlater⟩
        · rintro ⟨i, hi, k, hfirst, hlater⟩
          exact ⟨k, ⟨i, hi, hfirst⟩, hlater⟩

/-- Only from fresh places there are steps to what is not reached. -/
structure Spreads (R : Nat → Nat → Prop) (fresh reached : List Nat) : Prop where
  subset : ∀ i ∈ fresh, i ∈ reached
  closed : ∀ i ∈ reached, i ∉ fresh → ∀ j, R i j → j ∈ reached

theorem Spreads.refl (places : List Nat) : Spreads R places places :=
  ⟨fun _ h => h, fun _ h hnot => absurd h hnot⟩

theorem spread_succ {fresh reached found : List Nat}
    (h : ((step fresh).filter fun place => !reached.contains place) = found) :
    spread step (n + 1) fresh reached =
      if found = [] then reached else spread step n found (reached ++ found) := by
  rw [spread, h]
  cases found with
  | nil => rfl
  | cons => rfl

theorem Takes.spread (h : Takes step R) (n : Nat) {fresh reached : List Nat}
    (hspreads : Spreads R fresh reached) :
    j ∈ spread step n fresh reached ↔ ∃ m ≤ n, ∃ i ∈ reached, Times R m i j := by
  induction n generalizing fresh reached with
  | zero => simp [Regex.spread, times_zero]
  | succ n ih =>
      obtain ⟨found, hfound⟩ :
          ∃ found, ((step fresh).filter fun place => !reached.contains place) = found := ⟨_, rfl⟩
      have hmem (k : Nat) : k ∈ found ↔ (∃ i ∈ fresh, R i k) ∧ k ∉ reached := by
        rw [← hfound, List.mem_filter, h fresh k]
        simp
      -- a step from what is reached ends in it or in what is found
      have hone : ∀ i ∈ reached, ∀ k, R i k → k ∈ reached ∨ k ∈ found := by
        intro i hi k hik
        by_cases hk : k ∈ reached
        · exact .inl hk
        · by_cases hfresh : i ∈ fresh
          · exact .inr ((hmem k).mpr ⟨⟨i, hfresh, hik⟩, hk⟩)
          · exact absurd (hspreads.closed i hi hfresh k hik) hk
      rw [spread_succ hfound]
      split
      · rename_i hnil
        have hclosed : ∀ i ∈ reached, ∀ k, R i k → k ∈ reached :=
          fun i hi k hik => (hone i hi k hik).resolve_right (hnil ▸ List.not_mem_nil)
        constructor
        · intro hj
          exact ⟨0, Nat.zero_le _, j, hj, .none j⟩
        · rintro ⟨m, -, i, hi, htimes⟩
          exact htimes.mem hclosed hi
      · rw [ih]
        · constructor
          · rintro ⟨m, hm, i, hi, htimes⟩
            rcases List.mem_append.mp hi with hi | hi
            · exact ⟨m, by omega, i, hi, htimes⟩
            · obtain ⟨⟨k, hk, hki⟩, -⟩ := (hmem i).mp hi
              exact ⟨m + 1, by omega, k, hspreads.subset k hk, .next hki htimes⟩
          · rintro ⟨m, hm, i, hi, htimes⟩
            cases htimes with
            | none => exact ⟨0, Nat.zero_le _, _, List.mem_append_left _ hi, .none _⟩
            | next first later =>
                exact ⟨_, by omega, _, List.mem_append.mpr (hone i hi _ first), later⟩
        · refine ⟨fun i hi => List.mem_append_right _ hi, fun i hi hnot k hik => ?_⟩
          rcases List.mem_append.mp hi with hi | hi
          · exact List.mem_append.mpr (hone i hi k hik)
          · exact absurd hi hnot

/-! ## Matches -/

/-- A part of a text matches an expression, from a place to another one. Beyond the least number of
times there may be as many more as the limit leaves. -/
def Matches (text : List Char) : Regex → Nat → Nat → Prop
  | empty => fun i j => j = i
  | Regex.text cs => fun i j => cs <+: text.drop i ∧ j = i + cs.length
  | one s => fun i j => (∃ c, text[i]? = some c ∧ s.contains c = true) ∧ j = i + 1
  | anchor a => fun i j => Anchor.holdsAt text.toArray i a = true ∧ j = i
  | seq r s => fun i j => ∃ k, Matches text r i k ∧ Matches text s k j
  | either r s => fun i j => Matches text r i j ∨ Matches text s i j
  | repeated r least most _ => fun i j =>
      ∃ extra, (∀ limit ∈ most, extra ≤ limit - least) ∧ Times (Matches text r) (least + extra) i j
  | group _ r => Matches text r

theorem le_length_of_getElem? (h : text[i]? = some c) : i + 1 ≤ text.length :=
  (List.getElem?_eq_some_iff.mp h).1

/-- A match that takes up characters ends inside the text. -/
theorem endsBy_matches (text : List Char) (r : Regex) : EndsBy text.length (Matches text r) := by
  induction r with
  | empty => exact fun i j h => .inl h
  | text cs =>
      rintro i j ⟨hcs, rfl⟩
      have hle := hcs.length_le
      rw [List.length_drop] at hle
      omega
  | one s =>
      rintro i j ⟨⟨c, hc, -⟩, rfl⟩
      exact .inr (le_length_of_getElem? hc)
  | anchor a => exact fun i j h => .inl h.2
  | seq r s ihr ihs =>
      rintro i j ⟨k, hr, hs⟩
      rcases ihs k j hs with rfl | hle
      · exact ihr i j hr
      · exact .inr hle
  | either r s ihr ihs =>
      rintro i j (h | h)
      · exact ihr i j h
      · exact ihs i j h
  | repeated r least most short ih =>
      rintro i j ⟨extra, -, htimes⟩
      exact Times.endsBy ih i j htimes
  | group number r ih => exact ih

/-! ## Finding where matches end -/

theorem mem_union {a b : List Nat} : j ∈ union a b ↔ j ∈ a ∨ j ∈ b := by
  simp only [union, List.mem_append, List.mem_filter, Bool.not_eq_true', List.contains_eq_mem,
    decide_eq_false_iff_not]
  tauto

theorem mem_advance {p : Char → Bool} {places : List Nat} :
    j ∈ advance text.toArray p places ↔
      ∃ i ∈ places, (∃ c, text[i]? = some c ∧ p c = true) ∧ j = i + 1 := by
  simp only [advance, List.mem_map, List.mem_filter, List.getElem?_toArray, Option.any_eq_true]
  constructor
  · rintro ⟨i, ⟨hi, hc⟩, rfl⟩
    exact ⟨i, hi, hc, rfl⟩
  · rintro ⟨i, hi, hc, rfl⟩
    exact ⟨i, ⟨hi, hc⟩, rfl⟩

theorem cons_prefix_drop :
    c :: cs <+: text.drop i ↔ text[i]? = some c ∧ cs <+: text.drop (i + 1) := by
  rw [List.cons_prefix_iff, ← List.head?_drop]
  constructor
  · rintro ⟨rest, hdrop, hcs⟩
    rw [← List.tail_drop, hdrop]
    exact ⟨rfl, hcs⟩
  · rintro ⟨hhead, hcs⟩
    obtain ⟨rest, hdrop⟩ := List.head?_eq_some_iff.mp hhead
    rw [← List.tail_drop, hdrop] at hcs
    exact ⟨rest, hdrop, hcs⟩

theorem takes_text (text cs : List Char) :
    Takes (ends text.toArray (.text cs)) (Matches text (.text cs)) := by
  intro places j
  induction cs generalizing places with
  | nil => simp [ends, Matches]
  | cons c cs ih =>
      rw [ends, List.foldl_cons, ← ends, ih]
      simp only [mem_advance, Matches, cons_prefix_drop, beq_iff_eq, List.length_cons]
      constructor
      · rintro ⟨_, ⟨i, hi, ⟨_, hc, rfl⟩, rfl⟩, hcs, rfl⟩
        exact ⟨i, hi, ⟨hc, hcs⟩, by omega⟩
      · rintro ⟨i, hi, ⟨hc, hcs⟩, rfl⟩
        exact ⟨i + 1, ⟨i, hi, ⟨c, hc, rfl⟩, rfl⟩, hcs, by omega⟩

/-- What is found are the ends of matches. -/
theorem takes_ends (text : List Char) (r : Regex) :
    Takes (ends text.toArray r) (Matches text r) := by
  intro starts j
  induction r generalizing starts j with
  | empty => simp [ends, Matches]
  | text cs => exact takes_text text cs starts j
  | one s => exact mem_advance
  | anchor a => simp [ends, Matches]
  | seq r s ihr ihs =>
      simp only [ends, ihs, ihr, Matches]
      constructor
      · rintro ⟨k, ⟨i, hi, hr⟩, hs⟩
        exact ⟨i, hi, k, hr, hs⟩
      · rintro ⟨i, hi, k, hr, hs⟩
        exact ⟨k, ⟨i, hi, hr⟩, hs⟩
  | either r s ihr ihs =>
      simp only [ends, mem_union, ihr, ihs, Matches]
      constructor
      · rintro (⟨i, hi, h⟩ | ⟨i, hi, h⟩)
        · exact ⟨i, hi, .inl h⟩
        · exact ⟨i, hi, .inr h⟩
      · rintro ⟨i, hi, h | h⟩
        · exact .inl ⟨i, hi, h⟩
        · exact .inr ⟨i, hi, h⟩
  | repeated r least most short ih =>
      have hstep : Takes (ends text.toArray r) (Matches text r) := fun places k => ih places k
      simp only [ends, Matches, hstep.spread _ (Spreads.refl _), hstep.iterate least starts]
      constructor
      · rintro ⟨extra, hextra, k, ⟨i, hi, hleast⟩, hmore⟩
        refine ⟨i, hi, extra, fun limit hlimit => ?_, times_add.mpr ⟨k, hleast, hmore⟩⟩
        obtain rfl := Option.mem_def.mp hlimit
        exact hextra
      · rintro ⟨i, hi, extra, hextra, htimes⟩
        obtain ⟨k, hleast, hmore⟩ := times_add.mp htimes
        cases most with
        | some limit => exact ⟨extra, hextra limit rfl, k, ⟨i, hi, hleast⟩, hmore⟩
        | none =>
            obtain ⟨extra, hextra, hmore⟩ := hmore.shorten (endsBy_matches text r)
            exact ⟨extra, by simpa using hextra, k, ⟨i, hi, hleast⟩, hmore⟩
  | group number r ih => exact ih starts j

/-- **Matching finds the expressions that occur in a text.** -/
theorem occursIn_iff {r : Regex} :
    r.occursIn text = true ↔ ∃ i j, i ≤ text.length ∧ Matches text r i j := by
  have hsome : r.occursIn text = true ↔
      ∃ j, j ∈ ends text.toArray r (List.range (text.length + 1)) := by
    rw [occursIn, Bool.not_eq_true', List.isEmpty_eq_false_iff_exists_mem]
  rw [hsome]
  simp only [takes_ends text r _ _, List.mem_range, Nat.lt_succ_iff]
  rw [exists_comm]

end Searchlight.Regex
