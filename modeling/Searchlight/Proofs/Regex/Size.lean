import Mathlib.Algebra.Ring.Nat
import Searchlight.Proofs.Regex.Wildcard
import Searchlight.Proofs.Text.Offsets
import Searchlight.Regex.Size

/-!
# Room for expressions

Every part of an expression takes some bytes of memory, no matter what is laid out before it. For
sets this is an upper bound: states that are found again take none. A pattern with
wildcards takes a bounded number of bytes for each of its characters, so patterns up to a length are
never too large.
-/

namespace Searchlight

open Regex

namespace Regex.Layout

/-- What is laid out, and with it what goes along, takes so many bytes. -/
class Sized (α : Type) where
  bytes : α → Nat

instance : Sized Layout := ⟨Layout.bytes⟩

instance : Sized Shared := ⟨fun s => s.layout.bytes⟩

instance {α β : Type} [Sized α] : Sized (α × β) := ⟨fun x => Sized.bytes x.1⟩

variable {α β γ : Type} [Sized α] [Sized β] [Sized γ] {f : α → Option β} {g : β → Option γ}
  {m n : Nat} {step : Step} {d : Direction}

/-- Something takes at most so many bytes, and fails only where there are not as many left. -/
def Costs (f : α → Option β) (n : Nat) : Prop :=
  ∀ x, Sized.bytes x + n ≤ maxBytes → ∃ y, f x = some y ∧ Sized.bytes y ≤ Sized.bytes x + n

theorem Costs.mono (h : Costs f m) (hle : m ≤ n) : Costs f n := by
  intro x hx
  obtain ⟨y, hy, hbytes⟩ := h x (by omega)
  exact ⟨y, hy, by omega⟩

theorem Costs.bind (hf : Costs f m) (hg : Costs g n) : Costs (fun x => f x >>= g) (m + n) := by
  intro x hx
  obtain ⟨y, hy, hbytes⟩ := hf x (by omega)
  obtain ⟨z, hz, hbytes'⟩ := hg y (by omega)
  exact ⟨z, Option.bind_eq_some_iff.mpr ⟨y, hy, hz⟩, by omega⟩

theorem Costs.map (hf : Costs f n) (g : β → γ) (hg : ∀ y, Sized.bytes (g y) = Sized.bytes y) :
    Costs (fun x => (f x).map g) n := by
  intro x hx
  obtain ⟨y, hy, hbytes⟩ := hf x hx
  exact ⟨g y, Option.map_eq_some_iff.mpr ⟨y, hy, rfl⟩, by rwa [hg]⟩

theorem costs_some (g : α → β) (hg : ∀ x, Sized.bytes (g x) = Sized.bytes x) :
    Costs (fun x => some (g x)) 0 := by
  intro x _
  exact ⟨g x, rfl, (hg x).le⟩

theorem Costs.comp (hf : Costs f n) (e : γ → α) (he : ∀ x, Sized.bytes (e x) = Sized.bytes x) :
    Costs (fun x => f (e x)) n := by
  intro x hx
  rw [← he] at hx ⊢
  exact hf (e x) hx

/-- A fold takes what its steps take. -/
theorem costs_foldlM {δ : Type} (f : α → δ → Option α) (cost : δ → Nat) (xs : List δ)
    (h : ∀ x ∈ xs, Costs (fun a => f a x) (cost x)) :
    Costs (fun a => xs.foldlM f a) (xs.map cost).sum := by
  induction xs with
  | nil => exact fun a _ => ⟨a, rfl, Nat.le_add_right ..⟩
  | cons x xs ih =>
      obtain ⟨hx, hxs⟩ := List.forall_mem_cons.mp h
      simp only [List.foldlM_cons, List.map_cons, List.sum_cons]
      exact hx.bind (ih hxs)

/-! ## States -/

theorem costs_extend (n : Nat) : Costs (extend n) n := by
  intro l hl
  exact ⟨_, if_pos hl, Nat.le_refl _⟩

theorem costs_state (n : Nat) : Costs (state n) (32 + n) := by
  intro l hl
  exact ⟨_, if_pos hl, Nat.le_refl _⟩

theorem costs_ways (n : Nat) : Costs (ways n) (4 * n) := costs_extend (4 * n)

theorem costs_lead : Costs lead 4 := by
  intro l hl
  rw [lead]
  split
  · exact costs_ways 1 { l with forked := false } hl
  · exact ⟨l, rfl, Nat.le_add_right ..⟩

theorem copies_succ (step : Step) (times : Nat) :
    copies step (times + 1) = fun l => (lead l >>= step) >>= copies step times := by
  funext l
  rw [copies]
  show _ = (l.lead.bind step).bind (copies step times)
  cases l.lead.bind step with
  | none => rfl
  | some => rfl

theorem costs_copies (h : Costs step n) (times : Nat) :
    Costs (copies step times) (times * (4 + n)) := by
  induction times with
  | zero => exact fun l _ => ⟨l, rfl, Nat.le_add_right ..⟩
  | succ times ih =>
      rw [copies_succ, Nat.succ_mul, Nat.add_comm]
      exact (costs_lead.bind h).bind ih

theorem costs_chain (h : Costs step n) {times : Nat} (htimes : times ≠ 0) :
    Costs (chain step times) (times * (4 + n)) := by
  intro l hl
  rw [chain, if_neg htimes]
  exact costs_copies h times { l with forked := false } hl

/-! ## Sets -/

namespace Shared

theorem costs_find (ways : List Nat) (n : Nat) : Costs (find ways n) (32 + n) := by
  intro s hs
  have hadd : ∀ (place : Nat), ∃ y, ((s.layout.state n).map fun l =>
      (({ s with layout := l, table := s.table.insert place (ways, s.layout.states) } : Shared),
        s.layout.states)) = some y ∧ Sized.bytes y ≤ Sized.bytes s + (32 + n) := by
    intro place
    obtain ⟨l, hl, hbytes⟩ := costs_state n s.layout hs
    exact ⟨_, Option.map_eq_some_iff.mpr ⟨l, hl, rfl⟩, hbytes⟩
  rw [find]
  split
  · split
    · exact ⟨_, rfl, Nat.le_add_right ..⟩
    · exact hadd _
  · exact hadd _

theorem costs_backwards (next : Nat) (sequence : List CharSet.Bytes) :
    Costs (backwards next sequence) (32 * sequence.length) := by
  have hfold := costs_foldlM (fun (x : Shared × Nat) (r : CharSet.Bytes) =>
    x.1.find [x.2, r.1, r.2] 0) (fun _ => 32) sequence fun r _ x => costs_find _ 0 x.1
  rw [List.map_const', List.sum_replicate_nat, Nat.mul_comm] at hfold
  exact fun s => hfold (s, next)

/-- The most bytes that sequences of byte ranges take. -/
def forwardsBytes : Nat → List (List CharSet.Bytes) → Nat
  | 0, _ => 0
  | levels + 1, sequences =>
    match byFirst sequences with
    | [] => 0
    | groups =>
      (groups.map fun group => forwardsBytes levels group.2).sum + (32 + 8 * groups.length)

theorem costs_forwards (final levels : Nat) (sequences : List (List CharSet.Bytes)) :
    Costs (forwards final levels sequences) (forwardsBytes levels sequences) := by
  induction levels generalizing sequences with
  | zero => exact fun s _ => ⟨(s, final), rfl, Nat.le_add_right ..⟩
  | succ levels ih =>
      intro s
      rw [forwards, forwardsBytes]
      have hgroup : ∀ group : CharSet.Bytes × List (List CharSet.Bytes),
          Costs (fun x : Shared × List Nat => (forwards final levels group.2 x.1).map
            fun y => (y.1, x.2 ++ [group.1.1, group.1.2, y.2])) (forwardsBytes levels group.2) := by
        intro group x hx
        obtain ⟨y, hy, hbytes⟩ := ih group.2 x.1 hx
        exact ⟨_, Option.map_eq_some_iff.mpr ⟨y, hy, rfl⟩, hbytes⟩
      have hfind (n : Nat) : Costs (fun x : Shared × List Nat => x.1.find x.2 n) (32 + n) :=
        fun x => costs_find x.2 n x.1
      cases byFirst sequences with
      | nil => exact fun _ => ⟨(s, final), rfl, Nat.le_add_right ..⟩
      | cons first groups =>
          exact ((costs_foldlM _ _ (first :: groups) fun group _ => hgroup group).bind
            (hfind _)) (s, [])

theorem costs_ways (n : Nat) :
    Costs (fun s : Shared => do some { s with layout := ← s.layout.ways n }) (4 * n) := by
  intro s hs
  obtain ⟨l, hl, hbytes⟩ := Layout.costs_ways n s.layout hs
  exact ⟨_, Option.bind_eq_some_iff.mpr ⟨l, hl, rfl⟩, hbytes⟩

end Shared

/-- The most bytes that a set of characters takes. -/
def setBytes (d : Direction) (s : CharSet) : Nat :=
  if s.isAscii then 64 + 8 * s.ranges.length
  else
    match d with
    | .forwards => 32 + Shared.forwardsBytes 4 s.byteSequences
    | .backwards => 64 + (s.byteSequences.map fun sequence => 32 * sequence.length + 4).sum

theorem costs_set (d : Direction) (s : CharSet) : Costs (set d s) (setBytes d s) := by
  intro l
  rw [set.eq_def, setBytes.eq_def]
  by_cases hascii : s.isAscii = true
  · simp only [hascii, if_true]
    exact ((costs_state 0).bind (costs_state _)).mono (by omega) l
  · simp only [hascii, Bool.false_eq_true, if_false]
    cases d with
    | forwards =>
        have hstates := (Shared.costs_forwards l.states 4 s.byteSequences).comp
          (fun layout : Layout => { layout := layout, size := 10000 }) fun _ => rfl
        exact (costs_state 0).bind (hstates.bind (costs_some (fun x => x.1.layout) fun _ => rfl)) l
    | backwards =>
        have hsequence (final : Nat) (sequence : List CharSet.Bytes) :=
          (Shared.costs_backwards final sequence).bind
            ((Shared.costs_ways 1).comp (fun x : Shared × Nat => x.1) fun _ => rfl)
        have hsequences (final : Nat) := ((costs_foldlM _ _ s.byteSequences fun sequence _ =>
          hsequence final sequence).bind (costs_some (fun s => s.layout) fun _ => rfl)).comp
            (fun layout : Layout => { layout := layout, size := 1000 }) fun _ => rfl
        have hstates : Costs (fun l => do
            let layout ← state 0 l
            let s ← s.byteSequences.foldlM (fun s sequence => do
              let before ← s.backwards l.states sequence
              some { before.1 with layout := ← before.1.layout.ways 1 })
              ({ layout := layout, size := 1000 } : Shared)
            some s.layout) _ := fun l => (costs_state 0).bind (hsequences l.states) l
        exact (((costs_state 0).bind hstates).mono (by simp only [Nat.mul_one]; omega)) l

/-! ## Parts and sequences -/

/-- How many characters of a pattern a part stands for. -/
def weight : Regex → Nat
  | Regex.text cs => cs.length
  | _ => 1

/-- The most bytes for a character of a pattern, without what leads on from it. -/
def bytesEach : Nat := 1040

/-- A part that takes no more than is there for its characters. -/
structure Slim (r : Regex) : Prop where
  weight_pos : 0 < weight r
  costs : ∀ d, Costs (expression d r false) (bytesEach * weight r)

theorem slim_anchor (a : Anchor) : Slim (.anchor a) where
  weight_pos := Nat.one_pos
  costs d := (costs_state 0).mono (by show 32 + 0 ≤ 1040 * 1; omega)

theorem byteLength_le (cs : List Char) : Text.byteLength cs ≤ 4 * cs.length := by
  induction cs with
  | nil => exact Nat.le_refl _
  | cons c cs ih =>
      have hsize := c.utf8Size_le_four
      rw [Text.byteLength_cons, List.length_cons]
      omega

theorem slim_text {cs : List Char} (hcs : cs ≠ []) : Slim (.text cs) where
  weight_pos := List.length_pos_iff.mpr hcs
  costs d := by
    have hpos := Text.byteLength_pos hcs
    have hle := byteLength_le cs
    refine (costs_chain (costs_state 0) (Nat.ne_of_gt hpos)).mono ?_
    show Text.byteLength cs * (4 + (32 + 0)) ≤ 1040 * cs.length
    omega

theorem inLine_eq : WildcardPart.inLine = ⟨[(0, 9), (11, 0xd7ff), (0xe000, 0x10ffff)]⟩ :=
  congrArg CharSet.mk WildcardPart.inLine_ranges

/-- A character of a line takes no more than a thousand bytes, in which direction ever it is
read. -/
theorem setBytes_inLine (d : Direction) : setBytes d WildcardPart.inLine ≤ 1000 := by
  rw [inLine_eq]
  cases d with
  | forwards => decide +kernel
  | backwards => decide +kernel

theorem slim_inLine : Slim (.one WildcardPart.inLine) where
  weight_pos := Nat.one_pos
  costs d := (costs_set d _).mono ((setBytes_inLine d).trans (by decide))

theorem slim_any : Slim WildcardPart.any.toRegex where
  weight_pos := Nat.one_pos
  costs d := by
    have hconsumes : decide (0 < (leastBytes (.one WildcardPart.inLine)).getD 0) = true := by
      rw [inLine_eq]
      decide +kernel
    have hset : Costs (expression d (.one WildcardPart.inLine) false) 1000 :=
      (costs_set d _).mono (setBytes_inLine d)
    intro l
    rw [WildcardPart.toRegex, expression, hconsumes]
    exact (((((costs_state 0).bind hset).bind costs_lead).bind (costs_ways 1)).map fork
      fun _ => rfl) l

theorem slim_part : ∀ part : WildcardPart, Slim part.toRegex
  | .any => slim_any
  | .single => slim_inLine
  | .char c => slim_text (List.cons_ne_nil c [])

def totalWeight (rs : List Regex) : Nat := (rs.map weight).sum

theorem slim_addPart {r : Regex} {rs : List Regex} (hr : Slim r) (hrs : ∀ s ∈ rs, Slim s) :
    ∀ s ∈ addPart r rs, Slim s := by
  fun_cases addPart r rs with
  | case1 cs ds rs =>
      obtain ⟨-, hrs⟩ := List.forall_mem_cons.mp hrs
      have hcs : cs ++ ds ≠ [] :=
        List.append_ne_nil_of_left_ne_nil (List.ne_nil_of_length_pos hr.weight_pos) ds
      exact List.forall_mem_cons.mpr ⟨slim_text hcs, hrs⟩
  | case2 => exact List.forall_mem_cons.mpr ⟨hr, hrs⟩

theorem totalWeight_addPart (r : Regex) (rs : List Regex) :
    totalWeight (addPart r rs) = weight r + totalWeight rs := by
  fun_cases addPart r rs with
  | case1 cs ds rs => simp [totalWeight, weight, Nat.add_assoc]
  | case2 => rfl

/-- The most bytes for a character of a pattern. -/
def roomEach : Nat := bytesEach + 4

/-- Between two parts there is what leads on from the first one. -/
theorem costs_sequence (d : Direction) {rs : List Regex} (hne : rs ≠ []) (h : ∀ r ∈ rs, Slim r) :
    Costs (expression d (sequence rs) false) (roomEach * totalWeight rs) := by
  induction rs with
  | nil => exact absurd rfl hne
  | cons r rs ih =>
      obtain ⟨hr, hrs⟩ := List.forall_mem_cons.mp h
      have hpos := hr.weight_pos
      have htotal : totalWeight (r :: rs) = weight r + totalWeight rs := rfl
      cases rs with
      | nil =>
          refine (hr.costs d).mono ?_
          simp only [htotal, bytesEach, roomEach]
          omega
      | cons s rs =>
          have hrest := ih (List.cons_ne_nil s rs) hrs
          have hle : bytesEach * weight r + 4 + roomEach * totalWeight (s :: rs) ≤
              roomEach * totalWeight (r :: s :: rs) := by
            simp only [htotal, bytesEach, roomEach]
            omega
          cases d with
          | forwards => exact (((hr.costs _).bind costs_lead).bind hrest).mono hle
          | backwards => exact ((hrest.bind costs_lead).bind (hr.costs _)).mono (by omega)

/-- Laying out a whole expression takes little more than the expression itself. -/
theorem costs_automaton (d : Direction) {r : Regex} {n : Nat}
    (h : ∀ d, Costs (expression d r false) n) (hroom : n + 212 ≤ maxBytes) :
    (automaton d r).isSome = true := by
  have happroach (anchored : Bool) : Costs (approach anchored) 112 := by
    cases anchored with
    | true => exact (costs_state 0).mono (by decide)
    | false =>
        exact (((costs_state 0).bind (costs_state 0)).bind (costs_state 8)).bind (costs_ways 2)
  have hstart : Sized.bytes ({} : Layout) + (n + 212) ≤ maxBytes := (Nat.zero_add _).trans_le hroom
  cases d with
  | forwards =>
      have hgroup := (((costs_state 0).bind (h .forwards)).bind costs_lead).bind (costs_state 0)
      have hall := (((happroach (beginsWith .textStart r)).bind hgroup).bind (costs_state 0)).mono
        (Nat.le_of_eq (by omega)) {} hstart
      obtain ⟨l, hl, -⟩ := hall
      exact Option.isSome_iff_exists.mpr ⟨l, hl⟩
  | backwards =>
      have hall := ((((happroach (endsWith .textEnd r)).bind (h .backwards)).bind costs_lead).bind
        (costs_state 0)).mono (by omega) {} hstart
      obtain ⟨l, hl, -⟩ := hall
      exact Option.isSome_iff_exists.mpr ⟨l, hl⟩

end Regex.Layout

/-! ## Patterns -/

namespace Regex

open Layout

/-- The parts of an expression that is made simpler. -/
def simplified (r : Regex) : List Regex := simpleParts (simpleBranches r)

theorem simplified_anchor (a : Anchor) : simplified (.anchor a) = [.anchor a] := rfl

theorem simplified_part (part : WildcardPart) : simplified part.toRegex = [part.toRegex] := by
  cases part with
  | any =>
      rw [WildcardPart.toRegex, inLine_eq]
      decide +kernel
  | single =>
      rw [WildcardPart.toRegex, inLine_eq]
      decide +kernel
  | char c => rfl

theorem addPart_nil (r : Regex) : addPart r [] = [r] := by
  cases r <;> rfl

theorem addPart_ne_nil (r : Regex) (rs : List Regex) : addPart r rs ≠ [] := by
  fun_cases addPart r rs <;> exact List.cons_ne_nil _ _

/-- Making a sequence simpler joins the texts among its parts. -/
theorem simplified_sequence {rs : List Regex} (hne : rs ≠ [])
    (h : ∀ r ∈ rs, ∃ s, simplified r = [s]) :
    simplified (sequence rs) = (rs.flatMap simplified).foldr addPart [] := by
  induction rs with
  | nil => exact absurd rfl hne
  | cons r rs ih =>
      obtain ⟨⟨s, hs⟩, hrs⟩ := List.forall_mem_cons.mp h
      cases rs with
      | nil =>
          rw [List.flatMap_singleton, hs]
          exact hs.trans (addPart_nil s).symm
      | cons r' rs =>
          rw [List.flatMap_cons, List.foldr_append, ← ih (List.cons_ne_nil r' rs) hrs]
          rfl

theorem slim_foldr {rs : List Regex} (h : ∀ r ∈ rs, Slim r) :
    (∀ r ∈ rs.foldr addPart [], Slim r) ∧ totalWeight (rs.foldr addPart []) = totalWeight rs := by
  induction rs with
  | nil => exact ⟨by simp, rfl⟩
  | cons r rs ih =>
      obtain ⟨hr, hrs⟩ := List.forall_mem_cons.mp h
      obtain ⟨hslim, htotal⟩ := ih hrs
      rw [List.foldr_cons]
      exact ⟨slim_addPart hr hslim, by rw [totalWeight_addPart, htotal]; rfl⟩

theorem weight_toRegex (part : WildcardPart) : weight part.toRegex = 1 := by
  cases part <;> rfl

/-- A sequence of slim parts has room unless it has too many of them. -/
theorem fits_sequence {rs : List Regex} (hne : rs ≠ [])
    (h : ∀ r ∈ rs, simplified r = [r] ∧ Slim r)
    (hroom : roomEach * totalWeight rs + 212 ≤ maxBytes) : (sequence rs).fits = true := by
  obtain ⟨hslim, htotal⟩ := slim_foldr fun r hr => (h r hr).2
  have hjoined : rs.foldr addPart [] ≠ [] := by
    cases rs with
    | nil => exact absurd rfl hne
    | cons r rs => exact addPart_ne_nil r _
  have hsimplified : simplified (sequence rs) = rs.foldr addPart [] := by
    rw [simplified_sequence hne fun r hr => ⟨r, (h r hr).1⟩,
      List.flatMap_congr fun r hr => (h r hr).1, List.flatMap_singleton']
  have hcosts (d : Direction) := costs_sequence d hjoined hslim
  rw [htotal] at hcosts
  rw [fits, simplify, ← simplified, hsimplified, Bool.and_eq_true]
  exact ⟨costs_automaton .backwards hcosts hroom, costs_automaton .forwards hcosts hroom⟩

end Regex

open Regex Layout

/-- Patterns with no more than ten thousand parts have room. -/
theorem fits_wildcardRegex {parts : List WildcardPart} (h : parts.length ≤ 10000) :
    (wildcardRegex parts).fits = true := by
  refine fits_sequence (List.cons_ne_nil _ _) ?_ ?_
  · intro r hr
    simp only [List.mem_cons, List.cons_append, List.mem_append, List.mem_map, List.not_mem_nil,
      or_false] at hr
    rcases hr with rfl | ⟨part, -, rfl⟩ | rfl
    · exact ⟨simplified_anchor _, slim_anchor _⟩
    · exact ⟨simplified_part part, slim_part part⟩
    · exact ⟨simplified_anchor _, slim_anchor _⟩
  · have htotal : totalWeight (.anchor .textStart :: parts.map WildcardPart.toRegex ++
        [.anchor .textEnd]) = parts.length + 2 := by
      have hparts :
          (parts.map WildcardPart.toRegex).map weight = List.replicate parts.length 1 := by
        rw [List.map_map, ← List.map_const']
        exact List.map_congr_left fun part _ => weight_toRegex part
      simp only [totalWeight, List.cons_append, List.map_cons, List.map_append, List.sum_cons,
        List.sum_append, hparts, List.sum_replicate_nat, weight, List.map_nil, List.sum_nil]
      omega
    rw [htotal]
    simp only [roomEach, bytesEach, maxBytes]
    omega

theorem length_ofPattern_le (p : List Char) : (WildcardPart.ofPattern p).length ≤ p.length := by
  fun_induction WildcardPart.ofPattern p with
  | case1 => exact Nat.le_refl _
  | case2 p ih | case3 p ih => exact Nat.succ_le_succ ih
  | case4 => exact Nat.le_refl _
  | case5 c p ih => exact Nat.succ_le_succ (Nat.le_succ_of_le ih)
  | case6 c p hstar hquestion hend hbackslash ih => exact Nat.succ_le_succ ih

end Searchlight
