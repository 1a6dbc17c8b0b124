import Searchlight.File.Tree
import Searchlight.Proofs.File.Path
import Searchlight.Proofs.Result

/-!
# Canonical paths

A canonical path goes straight down: none of its parts is idle or leads up. So wherever it leads
to an entry at all, walking along it collects its own parts, and it is its own canonical path.
-/

namespace Searchlight.FileTree

open Searchlight.Path

variable {t t' : FileTree} {location found : Location} {parts : List (List Char)}
  {path canonical : String}

/-- Parts that lead down. -/
def isDown (part : List Char) : Bool := isStep part && part ≠ ['.', '.']

/-- Locations that nothing but names make up. -/
def IsClean (location : Location) : Prop :=
  ∀ part ∈ location, '/' ∉ part ∧ isDown part = true

/-- A walk keeps to the parts that lead down. -/
theorem isClean_of_walk (hparts : ∀ part ∈ parts, '/' ∉ part) (hlocation : IsClean location)
    (h : t.walk location parts = .ok found) : IsClean found := by
  induction parts generalizing location with
  | nil => exact Except.ok.inj h ▸ hlocation
  | cons part parts ih =>
      rw [List.forall_mem_cons] at hparts
      rw [walk] at h
      split at h
      · cases h
      · split at h
        · exact ih hparts.2 hlocation h
        · rename_i hidle
          split at h
          · exact ih hparts.2 (fun part hpart => hlocation part (List.mem_of_mem_tail hpart)) h
          · rename_i hup
            split at h
            · refine ih hparts.2 (List.forall_mem_cons.mpr ⟨⟨hparts.1, ?_⟩, hlocation⟩) h
              simpa [isDown, isStep, hup] using hidle
            · cases h

theorem isClean_of_locate (h : t.locate path = .ok location) : IsClean location := by
  rw [locate] at h
  split at h
  · cases h
  · split at h
    · cases h
    · exact isClean_of_walk (slash_notMem _) (fun _ hmem => absurd hmem List.not_mem_nil) h

/-- Along parts that lead down a walk collects them all. -/
theorem walk_down (hparts : ∀ part ∈ parts, isDown part = true)
    (h : t.walk location parts = .ok found) : found = parts.reverse ++ location := by
  induction parts generalizing location with
  | nil => exact (Except.ok.inj h).symm
  | cons part parts ih =>
      rw [List.forall_mem_cons] at hparts
      have hdown : ¬(part.isEmpty || part = ['.']) = true ∧ part ≠ ['.', '.'] := by
        simpa [isDown, isStep] using hparts.1
      rw [walk] at h
      split at h
      · cases h
      · rw [if_neg hdown.1, if_neg hdown.2] at h
        split at h
        · rw [ih hparts.2 h]
          simp
        · cases h

/-- The path of a clean location leads nowhere but to it. -/
theorem eq_of_locate_pathOf (hclean : IsClean location)
    (h : t.locate (pathOf location) = .ok found) : found = location := by
  rw [locate] at h
  split at h
  · cases h
  · split at h
    · cases h
    · rw [pathOf, String.toList_ofList, List.drop_one, List.tail_cons, splitSlashes_eq] at h
      by_cases hnil : location = []
      · subst hnil
        exact (Except.ok.inj h).symm
      · have hparts : ∀ part ∈ location.reverse, '/' ∉ part ∧ isDown part = true :=
          fun part hpart => hclean part (List.mem_reverse.mp hpart)
        rw [List.splitOn_intercalate '/' (fun part hpart => (hparts part hpart).1)
          (by simpa using hnil)] at h
        simpa using walk_down (fun part hpart => (hparts part hpart).2) h

theorem isAbsolute_of_canonicalize (h : t.canonicalize path = .ok canonical) :
    isAbsolute canonical = true := by
  rw [canonicalize] at h
  cases hlocate : t.locate path with
  | error fault =>
      rw [hlocate] at h
      cases h
  | ok location =>
      rw [hlocate] at h
      obtain rfl := Except.ok.inj h
      exact isAbsolute_ofList _

/-- **A canonical path of one tree that leads to a file of another is canonical there.** -/
theorem canonicalize_canonical (h : t.canonicalize path = .ok canonical)
    (hfile : t'.isFile canonical = true) : t'.canonicalize canonical = .ok canonical := by
  rw [canonicalize] at h
  cases hlocate : t.locate path with
  | error fault =>
      rw [hlocate] at h
      cases h
  | ok location =>
      rw [hlocate] at h
      obtain rfl := Except.ok.inj h
      cases hlocate' : t'.locate (pathOf location) with
      | error fault => simp [isFile, entry?, hlocate'] at hfile
      | ok found =>
          obtain rfl := eq_of_locate_pathOf (isClean_of_locate hlocate) hlocate'
          rw [canonicalize, hlocate']
          rfl

end Searchlight.FileTree
