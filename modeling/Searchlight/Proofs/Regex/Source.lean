import Searchlight.Proofs.Regex.Size
import Searchlight.Regex.Parse

/-!
# Patterns as expressions in writing

The expression of a pattern with wildcards can be written down: a star and a question mark make use
of the dot, and a character with a meaning of its own stands behind a backslash. What is read
from this is the expression of the pattern, but that single characters are sets of one there. So
both occur in the same texts, and both are refused where they are too large.
-/

namespace Searchlight

open Regex

/-- Characters with a meaning of their own in an expression or in a set. -/
def isMeta (c : Char) : Bool :=
  ['\\', '.', '+', '*', '?', '(', ')', '|', '[', ']', '\x7b', '\x7d', '^', '$', '#', '&', '-',
    '~'].contains c

namespace WildcardPart

def source : WildcardPart → List Char
  | any => ['.', '*']
  | single => ['.']
  | char c => if isMeta c then ['\\', c] else [c]

/-- What is read from the source of a part. -/
def piece : WildcardPart → Piece
  | any => { regex := any.toRegex, depth := 1 }
  | single => { regex := single.toRegex }
  | char c => { regex := .one (.single c) }

/-- How many items and marks are read for a part. -/
def steps : WildcardPart → Nat
  | any => 2
  | single | char _ => 1

theorem steps_le (part : WildcardPart) : part.steps ≤ part.source.length := by
  cases part with
  | any | single => exact Nat.le_refl _
  | char c =>
      rw [source]
      split
      · exact Nat.le_succ 1
      · exact Nat.le_refl 1

theorem sum_steps_le (parts : List WildcardPart) :
    (parts.map steps).sum ≤ (parts.flatMap source).length := by
  induction parts with
  | nil => exact Nat.le_refl _
  | cons part parts ih =>
      rw [List.map_cons, List.sum_cons, List.flatMap_cons, List.length_append]
      exact Nat.add_le_add part.steps_le ih

end WildcardPart

def wildcardSource (parts : List WildcardPart) : List Char :=
  '^' :: (parts.flatMap WildcardPart.source ++ ['$'])

namespace Regex

variable {fuel : Nat} {items : List Piece} {rest : List Char} {c : Char} {part : WildcardPart}
  {parts : List WildcardPart}

/-! ## Reading parts -/

theorem readEscape_meta (h : isMeta c = true) (rest : List Char) :
    readEscape {} (c :: rest) = some (.char c, rest) := by
  simp only [isMeta, List.contains_eq_mem, decide_eq_true_eq, List.mem_cons, List.not_mem_nil,
    or_false] at h
  rcases h with rfl | rfl | rfl | rfl | rfl | rfl | rfl | rfl | rfl | rfl | rfl | rfl | rfl | rfl |
    rfl | rfl | rfl | rfl <;> rfl

/-- A character that does not repeat, group or divide what is read starts a single item. -/
theorem readBranches_single {p : Piece} {after : List Char}
    (hc : c ∉ ['?', '*', '+', '\x7b', '(', ')', '|'])
    (h : readSingle {} (c :: rest) = some (p, after)) :
    readBranches (fuel + 1) { rest := c :: rest } items [] =
      readBranches fuel { rest := after } (p :: items) [] := by
  have hskip : Flags.skip {} (c :: rest) = c :: rest := rfl
  rw [readBranches]
  simp only [hskip]
  split
  case h_1 heq => cases heq
  case h_2 heq | h_3 heq | h_4 heq | h_5 heq | h_6 heq | h_7 heq | h_8 heq =>
    obtain ⟨rfl, -⟩ := List.cons.inj heq
    exact absurd (by simp) hc
  case h_9 => rw [h]; rfl

theorem readBranches_star {p : Piece} (hp : p.repeatable = true) (hrest : rest.head? ≠ some '?') :
    readBranches (fuel + 1) { rest := '*' :: rest } (p :: items) [] =
      readBranches fuel { rest := rest }
        ({ regex := repeated p.regex 0 none false, depth := p.depth + 1 } :: items) [] := by
  have hpreference : readPreference {} rest = (false, rest) := by
    unfold readPreference
    split
    · exact absurd rfl hrest
    · rfl
  have hskip : Flags.skip {} ('*' :: rest) = '*' :: rest := rfl
  rw [readBranches]
  simp only [hskip, hpreference, repeatLast, hp, if_true]
  rfl

theorem readBranches_end :
    readBranches (fuel + 1) { rest := [] } items [] = some (joinItems items, { rest := [] }) := rfl

theorem readSingle_plain (h : isMeta c = false) (rest : List Char) :
    readSingle {} (c :: rest) = some ((WildcardPart.char c).piece, rest) := by
  unfold readSingle
  split
  case h_1 heq => cases heq
  case h_2 heq | h_3 heq | h_4 heq | h_5 heq | h_6 heq =>
    obtain ⟨rfl, -⟩ := List.cons.inj heq
    cases h
  case h_7 heq =>
    obtain ⟨rfl, rfl⟩ := List.cons.inj heq
    rfl

/-- Reading the source of a part adds one item. -/
theorem readBranches_source (part : WildcardPart) (hrest : rest.head? ≠ some '?') :
    readBranches (fuel + part.steps) { rest := part.source ++ rest } items [] =
      readBranches fuel { rest := rest } (part.piece :: items) [] := by
  cases part with
  | any =>
      refine (readBranches_single (by decide) rfl).trans ?_
      exact readBranches_star rfl hrest
  | single => exact readBranches_single (by decide) rfl
  | char c =>
      rw [WildcardPart.source]
      split
      · rename_i hmeta
        refine readBranches_single (by decide) ?_
        exact congrArg (Option.map _) (readEscape_meta hmeta rest)
      · rename_i hmeta
        refine readBranches_single (fun hc => ?_) (readSingle_plain (by simpa using hmeta) rest)
        simp only [List.mem_cons, List.not_mem_nil, or_false] at hc
        rcases hc with rfl | rfl | rfl | rfl | rfl | rfl | rfl <;> exact hmeta rfl

theorem head?_source (part : WildcardPart) (rest : List Char) :
    (part.source ++ rest).head? ≠ some '?' := by
  cases part with
  | any | single => simp [WildcardPart.source]
  | char c =>
      rw [WildcardPart.source]
      split
      · simp
      · rename_i hmeta
        rintro hc
        obtain rfl := Option.some.inj hc
        exact hmeta rfl

theorem head?_sources (parts : List WildcardPart) :
    (parts.flatMap WildcardPart.source ++ ['$']).head? ≠ some '?' := by
  cases parts with
  | nil => simp
  | cons part parts =>
      rw [List.flatMap_cons, List.append_assoc]
      exact head?_source part _

theorem readBranches_parts (parts : List WildcardPart) (items : List Piece) :
    readBranches (fuel + 2 + (parts.map WildcardPart.steps).sum)
        { rest := parts.flatMap WildcardPart.source ++ ['$'] } items [] =
      some (joinItems (({ regex := .anchor .textEnd } : Piece) ::
        ((parts.map WildcardPart.piece).reverse ++ items)), { rest := [] }) := by
  induction parts generalizing items with
  | nil => exact (readBranches_single (by decide) rfl).trans readBranches_end
  | cons part parts ih =>
      rw [List.flatMap_cons, List.append_assoc, List.map_cons, List.sum_cons,
        Nat.add_comm part.steps, ← Nat.add_assoc, readBranches_source part (head?_sources parts),
        ih]
      simp

/-! ## Reading patterns -/

/-- What is read from the source of a pattern. -/
def writtenRegex (parts : List WildcardPart) : Regex :=
  sequence (.anchor .textStart :: parts.map (fun part => part.piece.regex) ++ [.anchor .textEnd])

theorem readBranches_written (parts : List WildcardPart) :
    readBranches ((wildcardSource parts).length + 1) { rest := wildcardSource parts } [] [] =
      some (joinItems (({ regex := .anchor .textEnd } : Piece) ::
        ((parts.map WildcardPart.piece).reverse ++ [{ regex := .anchor .textStart }])),
        { rest := [] }) := by
  have hsteps := WildcardPart.sum_steps_le parts
  obtain ⟨fuel, hfuel⟩ : ∃ fuel, (wildcardSource parts).length + 1 =
      fuel + 2 + (parts.map WildcardPart.steps).sum + 1 := by
    refine ⟨(parts.flatMap WildcardPart.source).length - (parts.map WildcardPart.steps).sum, ?_⟩
    rw [wildcardSource, List.length_cons, List.length_append, List.length_singleton]
    omega
  rw [hfuel, wildcardSource]
  exact (readBranches_single (by decide) rfl).trans (readBranches_parts parts _)

theorem depth_piece (part : WildcardPart) : part.piece.depth ≤ 1 := by
  cases part <;> simp [WildcardPart.piece]

theorem foldl_max_le {depths : List Nat} {n m : Nat} (hm : m ≤ n) (h : ∀ d ∈ depths, d ≤ n) :
    depths.foldl max m ≤ n := by
  induction depths generalizing m with
  | nil => exact hm
  | cons d depths ih =>
      obtain ⟨hd, hdepths⟩ := List.forall_mem_cons.mp h
      exact ih (Nat.max_le.mpr ⟨hm, hd⟩) hdepths

/-- The items of a pattern make one piece, which hardly nests. -/
theorem joinItems_written (parts : List WildcardPart) :
    ∃ depth ≤ 2, joinItems (({ regex := .anchor .textEnd } : Piece) ::
        ((parts.map WildcardPart.piece).reverse ++ [{ regex := .anchor .textStart }])) =
      { regex := writtenRegex parts, depth := depth } := by
  have hdepths : ∀ p ∈ (parts.map WildcardPart.piece).reverse ++
      [({ regex := .anchor .textStart } : Piece)], p.depth ≤ 1 := by
    intro p hp
    simp only [List.mem_append, List.mem_reverse, List.mem_map, List.mem_singleton] at hp
    rcases hp with ⟨part, -, rfl⟩ | rfl
    · exact depth_piece part
    · exact Nat.zero_le 1
  have hregex : (({ regex := .anchor .textEnd } : Piece) ::
      ((parts.map WildcardPart.piece).reverse ++
        [{ regex := .anchor .textStart }])).reverse.map (·.regex) =
        .anchor .textStart :: parts.map (fun part => part.piece.regex) ++ [.anchor .textEnd] := by
    simp
  rw [writtenRegex, ← hregex]
  cases hitems : (parts.map WildcardPart.piece).reverse ++
      [({ regex := .anchor .textStart } : Piece)] with
  | nil => simp at hitems
  | cons p items =>
      rw [hitems] at hdepths
      refine ⟨_, ?_, rfl⟩
      refine Nat.succ_le_succ (foldl_max_le (Nat.zero_le 1) ?_)
      simpa using hdepths

/-! ## Comparing the expressions -/

theorem simplified_piece (part : WildcardPart) :
    simplified part.piece.regex = [part.toRegex] := by
  cases part with
  | any => exact simplified_part .any
  | single => exact simplified_part .single
  | char c =>
      show [ofSet (.single c)] = [.text [c]]
      simp [ofSet, CharSet.single?, CharSet.single]

/-- Sequences with the same parts once these are made simpler, each of them a single one. -/
theorem simplified_anchored (f : WildcardPart → Regex)
    (hf : ∀ part, simplified (f part) = [part.toRegex]) (parts : List WildcardPart) :
    simplified (sequence (anchor .textStart :: parts.map f ++ [anchor .textEnd])) =
      (anchor .textStart :: parts.map WildcardPart.toRegex ++ [anchor .textEnd]).foldr
        addPart [] := by
  have hflat : (parts.map f).flatMap simplified = parts.map WildcardPart.toRegex := by
    rw [List.flatMap_map, List.flatMap_congr fun part _ => hf part, List.map_eq_flatMap]
  rw [List.cons_append, simplified_sequence (List.cons_ne_nil _ _), List.flatMap_cons,
    List.flatMap_append, hflat]
  · rfl
  · intro r hr
    simp only [List.mem_cons, List.mem_append, List.mem_map, List.not_mem_nil, or_false] at hr
    rcases hr with rfl | ⟨part, -, rfl⟩ | rfl
    · exact ⟨_, rfl⟩
    · exact ⟨_, hf part⟩
    · exact ⟨_, rfl⟩

theorem simplify_writtenRegex (parts : List WildcardPart) :
    simplify (writtenRegex parts) = simplify (wildcardRegex parts) :=
  congrArg sequence ((simplified_anchored _ simplified_piece parts).trans
    (simplified_anchored _ simplified_part parts).symm)

/-- Written or not, a pattern takes the same room. -/
theorem fits_writtenRegex (parts : List WildcardPart) :
    (writtenRegex parts).fits = (wildcardRegex parts).fits := by
  rw [fits, fits, simplify_writtenRegex]

theorem contains_single {c d : Char} : (CharSet.single c).contains d = true ↔ d = c := by
  simp only [CharSet.contains, CharSet.single, List.any_cons, List.any_nil, Bool.or_false,
    Bool.and_eq_true, decide_eq_true_eq]
  constructor
  · rintro ⟨hle, hge⟩
    exact Char.toNat_inj.mp (Nat.le_antisymm hge hle)
  · rintro rfl
    exact ⟨Nat.le_refl _, Nat.le_refl _⟩

theorem matches_piece {text : List Char} {i j : Nat} (part : WildcardPart) :
    Matches text part.piece.regex i j ↔ Matches text part.toRegex i j := by
  cases part with
  | any | single => exact Iff.rfl
  | char c =>
      rw [WildcardPart.matches_char]
      simp only [WildcardPart.piece, matches_one, contains_single]
      constructor
      · rintro ⟨_, hdrop, rfl, rfl⟩
        exact ⟨hdrop, rfl⟩
      · rintro ⟨hdrop, rfl⟩
        exact ⟨c, hdrop, rfl, rfl⟩

theorem matches_sequence_pieces {text : List Char} {i j : Nat} (parts : List WildcardPart)
    (rs : List Regex) :
    Matches text (sequence (parts.map (fun part => part.piece.regex) ++ rs)) i j ↔
      Matches text (sequence (parts.map WildcardPart.toRegex ++ rs)) i j := by
  induction parts generalizing i with
  | nil => exact Iff.rfl
  | cons part parts ih =>
      simp only [List.map_cons, List.cons_append, matches_sequence_cons, matches_piece, ih]

theorem occursIn_writtenRegex (parts : List WildcardPart) (text : List Char) :
    (writtenRegex parts).occursIn text = (wildcardRegex parts).occursIn text := by
  rw [Bool.eq_iff_iff, occursIn_iff, occursIn_iff]
  simp only [writtenRegex, wildcardRegex, List.cons_append, matches_sequence_cons,
    matches_sequence_pieces]

end Regex

/-- **What is read from the source of a pattern is the expression of the pattern**, or rather one
that occurs in the same texts. It is refused where the other one is too large. -/
theorem read?_wildcardSource (parts : List WildcardPart) :
    (read? (String.ofList (wildcardSource parts))).isSome = (wildcardRegex parts).fits ∧
    ∀ r, read? (String.ofList (wildcardSource parts)) = some r →
      ∀ text, r.occursIn text = (wildcardRegex parts).occursIn text := by
  obtain ⟨depth, hdepth, hitems⟩ := joinItems_written parts
  have hread : read? (String.ofList (wildcardSource parts)) =
      if (wildcardRegex parts).fits then some (writtenRegex parts) else none := by
    rw [read?, String.toList_ofList, readBranches_written, hitems]
    simp [fits_writtenRegex, maxDepth, hdepth.trans (show 2 ≤ 250 by decide)]
  rw [hread]
  constructor
  · cases (wildcardRegex parts).fits <;> rfl
  · intro r hr text
    split at hr
    · obtain rfl := Option.some.inj hr
      exact occursIn_writtenRegex parts text
    · cases hr

end Searchlight
