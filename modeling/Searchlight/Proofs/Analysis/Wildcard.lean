import Searchlight.Proofs.Analysis.Hits
import Searchlight.Proofs.Regex.Size

/-!
# What patterns pick

A pattern is normalized as the terms of its field are, and picks the terms that it stands for as a
whole. Line feeds are not wild, so a term with a line feed in it is picked only by patterns
that have it in the same place. There is room for patterns that are not too long, and longer ones
either do the same or are refused.
-/

namespace Searchlight.Analysis

variable {f : Field} {a : Analyzer} {pattern : String} {ps : List Posting} {hits : List Nat}
  {e : Error} {j : Nat} {posting : Posting}

theorem leafHits_wildcard (hf : analyzerOf f = .ok a) (pattern : String) (ps : List Posting) :
    leafHits (.wildcard f pattern) f ps =
      let folded := a.normalize pattern.toList
      let r := wildcardRegex (WildcardPart.ofPattern folded)
      if r.fits then .ok (termHits ps fun term => r.occursIn term.toList)
      else .error (.invalidPattern (String.ofList folded)) := by
  rw [leafHits, hf]
  rfl

theorem mem_wildcardHits (hf : analyzerOf f = .ok a)
    (h : leafHits (.wildcard f pattern) f ps = .ok hits) :
    j ∈ hits ↔ ∃ posting, ps[j]? = some posting ∧
      Glob (· ≠ '\n') (a.normalize pattern.toList) posting.term.toList := by
  rw [leafHits_wildcard hf] at h
  simp only at h
  split at h
  · obtain rfl := Except.ok.inj h
    simp only [mem_termHits, occursIn_wildcardRegex]
  · cases h

theorem exists_wildcardHits (hf : analyzerOf f = .ok a) (pattern : String) (ps : List Posting)
    (h : (a.normalize pattern.toList).length ≤ 10000) :
    ∃ hits, leafHits (.wildcard f pattern) f ps = .ok hits := by
  rw [leafHits_wildcard hf]
  exact ⟨_, if_pos (fits_wildcardRegex ((length_ofPattern_le _).trans h))⟩

theorem error_of_wildcard (hf : analyzerOf f = .ok a)
    (h : leafHits (.wildcard f pattern) f ps = .error e) :
    e = .invalidPattern (String.ofList (a.normalize pattern.toList)) := by
  rw [leafHits_wildcard hf] at h
  simp only at h
  split at h
  · cases h
  · exact (Except.error.inj h).symm

/-- **A pattern picks the terms that it stands for**, where a star and a question mark stand for any
characters but line feeds. Only patterns of more than ten thousand characters are ever refused, and
the error tells the pattern as it has been normalized. -/
theorem wildcard_picks_glob (hf : analyzerOf f = .ok a) (pattern : String) (ps : List Posting) :
    (∀ hits, leafHits (.wildcard f pattern) f ps = .ok hits → ∀ j posting,
      ps[j]? = some posting →
        (j ∈ hits ↔ Glob (· ≠ '\n') (a.normalize pattern.toList) posting.term.toList) ∧
        ('\n' ∉ posting.term.toList →
          (j ∈ hits ↔ Glob (fun _ => True) (a.normalize pattern.toList) posting.term.toList))) ∧
    ∀ e, leafHits (.wildcard f pattern) f ps = .error e →
      e = .invalidPattern (String.ofList (a.normalize pattern.toList)) ∧
        10000 < (a.normalize pattern.toList).length := by
  refine ⟨fun hits hhits j posting hposting => ?_, fun e he => ⟨error_of_wildcard hf he, ?_⟩⟩
  · have hpicked : j ∈ hits ↔
        Glob (· ≠ '\n') (a.normalize pattern.toList) posting.term.toList := by
      rw [mem_wildcardHits hf hhits, hposting]
      simp
    refine ⟨hpicked, fun hline => hpicked.trans ⟨fun h => ?_, fun h => ?_⟩⟩
    · exact h.congr fun _ _ _ => trivial
    · exact h.congr fun c hc _ hfeed => hline (hfeed ▸ hc)
  · by_contra hlength
    obtain ⟨hits, hhits⟩ := exists_wildcardHits hf pattern ps (Nat.le_of_not_lt hlength)
    cases he.symm.trans hhits

/-- An escaped star next to one that is not, on terms with a star and without. -/
theorem wildcard_picks_glob_escaped :
    let code : Field := { name := "code", path := "code", type := .keyword }
    let ps : List Posting := [⟨"code", "a*bc", 0, 0, 4⟩, ⟨"code", "aabc", 1, 5, 9⟩]
    ∃ hits, leafHits (.wildcard code "a\\*?*") code ps = .ok hits ∧ 0 ∈ hits ∧ 1 ∉ hits := by
  intro code ps
  obtain ⟨hpicks, hrefused⟩ := wildcard_picks_glob (f := code) (a := .keyword) rfl "a\\*?*" ps
  cases hhits : leafHits (.wildcard code "a\\*?*") code ps with
  | error e => exact absurd (hrefused e hhits).2 (by decide)
  | ok hits =>
      have hstands : Glob (fun _ => True) ['a', '\\', '*', '?', '*'] ['a', '*', 'b', 'c'] :=
        .plain (by decide) (.escaped '*' (.question trivial (.star ['c'] (by simp) .nil)))
      refine ⟨hits, rfl, ((hpicks hits hhits 0 _ rfl).2 (by decide)).mpr hstands, fun hmem => ?_⟩
      have hglob : Glob (fun _ => True) ['a', '\\', '*', '?', '*'] ['a', 'a', 'b', 'c'] :=
        ((hpicks hits hhits 1 _ rfl).2 (by decide)).mp hmem
      obtain ⟨cs, hcs, hglob⟩ := (Glob.plain_iff (by decide)).mp hglob
      obtain ⟨rest, hrest, -⟩ := Glob.escaped_iff.mp hglob
      rw [hrest] at hcs
      cases hcs

/-- What a star stands for has no line feed in it. -/
theorem wildcard_misses_line_feed :
    let key : Field := { name := "k", path := "k", type := .keyword }
    let ps : List Posting := [⟨"k", "a\nb", 0, 0, 3⟩]
    ¬∀ hits, leafHits (.wildcard key "a*b") key ps = .ok hits → ∀ j posting,
      ps[j]? = some posting → (j ∈ hits ↔
        Glob (fun _ => True) (Analyzer.keyword.normalize "a*b".toList) posting.term.toList) := by
  intro key ps h
  obtain ⟨hits, hhits⟩ := exists_wildcardHits (f := key) (a := .keyword) rfl "a*b" ps (by decide)
  have hstands : Glob (fun _ => True) ['a', '*', 'b'] ['a', '\n', 'b'] :=
    .plain (by decide) (.star ['\n'] (by simp) (.plain (by decide) .nil))
  have hmem : 0 ∈ hits := (h hits hhits 0 _ rfl).mpr hstands
  obtain ⟨posting, hposting, hglob⟩ := (mem_wildcardHits (a := .keyword) rfl hhits).mp hmem
  obtain rfl := Option.some.inj hposting
  have hpicked : Glob (· ≠ '\n') ['a', '*', 'b'] ['a', '\n', 'b'] := hglob
  obtain ⟨cs, hcs, hstar⟩ := (Glob.plain_iff (by decide)).mp hpicked
  obtain ⟨part, rest, hsplit, hpart, hend⟩ := Glob.star_iff.mp hstar
  obtain rfl := (List.cons.inj hcs).2
  cases part with
  | nil =>
      obtain ⟨cs, hrest, -⟩ := (Glob.plain_iff (by decide)).mp hend
      cases hsplit.trans hrest
  | cons c part =>
      obtain ⟨rfl, -⟩ := List.cons.inj hsplit
      exact hpart '\n' List.mem_cons_self rfl

end Searchlight.Analysis
