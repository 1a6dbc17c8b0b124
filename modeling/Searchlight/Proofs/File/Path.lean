import Mathlib.Data.List.Infix
import Mathlib.Data.List.Nodup
import Searchlight.File.Path

/-!
# Paths and their steps

An absolute path is known by its steps: a file inside a directory takes one more, and the directory
that a path lies in takes all but the last. So a path and the directories above it take all
beginnings of its steps, down to the root, which takes none.
-/

namespace Searchlight.Path

variable {path directory name q : String} {part : List Char} {parts xs ys : List (List Char)}

/-! ## Parts between slashes -/

theorem splitSlashes_eq (cs : List Char) : splitSlashes cs = cs.splitOn '/' := by
  rw [splitSlashes]
  induction cs with
  | nil => rfl
  | cons c rest ih =>
      rw [Text.splitOn, ih, List.splitOn_cons_eq_if_modifyHead]
      cases hrest : rest.splitOn '/' with
      | nil => exact absurd hrest (List.splitOn_ne_nil '/' rest)
      | cons part parts => by_cases h : c = '/' <;> simp [h]

theorem splitSlashes_slash (xs ys : List Char) :
    splitSlashes (xs ++ '/' :: ys) = splitSlashes xs ++ splitSlashes ys := by
  simp only [splitSlashes_eq, List.splitOn_append_cons_self]

theorem slash_notMem (cs : List Char) : ∀ part ∈ splitSlashes cs, '/' ∉ part := by
  rw [splitSlashes]
  induction cs with
  | nil => simp [Text.splitOn]
  | cons c rest ih =>
      rw [Text.splitOn]
      split
      · rename_i hnil
        exact absurd ((splitSlashes_eq rest).symm.trans hnil) (List.splitOn_ne_nil '/' rest)
      · rename_i part parts hrest
        rw [hrest, List.forall_mem_cons] at ih
        split
        · exact List.forall_mem_cons.mpr ⟨List.not_mem_nil, List.forall_mem_cons.mpr ih⟩
        · rename_i hc
          refine List.forall_mem_cons.mpr ⟨fun hmem => ?_, ih.2⟩
          exact (List.mem_cons.mp hmem).elim (Ne.symm hc) ih.1

theorem length_splitSlashes (cs : List Char) : (splitSlashes cs).length ≤ cs.length + 1 := by
  rw [splitSlashes]
  induction cs with
  | nil => simp [Text.splitOn]
  | cons c rest ih =>
      rw [Text.splitOn]
      split
      · simp
      · rename_i hrest
        rw [hrest] at ih
        split <;> simp only [List.length_cons] at * <;> omega

/-! ## Idle parts -/

/-- Parts that lead somewhere. -/
def isStep (part : List Char) : Bool := !part.isEmpty && part ≠ ['.']

theorem steps_eq (h : isAbsolute path = true) :
    steps path = (splitSlashes path.toList).filter isStep := by
  have hfilter : (splitSlashes path.toList).filter isStep =
      ((splitSlashes path.toList).filter (!·.isEmpty)).filter (· ≠ ['.']) := by
    rw [List.filter_filter]
    congr 1
    funext part
    rw [isStep, Bool.and_comm]
  rw [hfilter, steps]
  split
  · rename_i hparts
    rw [if_pos h, hparts]
    simp
  · rfl

theorem filter_dropIdle (parts : List (List Char)) :
    (dropIdle true parts).filter isStep = parts.filter isStep := by
  induction parts with
  | nil => rfl
  | cons part rest ih =>
      rw [dropIdle]
      split
      · rename_i hnil
        rw [hnil, List.filter_nil] at ih
        rw [List.filter_cons, ← ih]
        split
        · rename_i hidle
          rw [if_neg]
          · rfl
          · simpa [isStep, or_iff_not_imp_left] using hidle
        · rw [List.filter_cons]
          rfl
      · rw [List.filter_cons, ih, ← List.filter_cons]

/-- What is left ends with a part that leads somewhere. -/
theorem dropIdle_eq_append (h : dropIdle true parts ≠ []) :
    ∃ init last, dropIdle true parts = init ++ [last] ∧ isStep last = true := by
  induction parts with
  | nil => exact absurd rfl h
  | cons part rest ih =>
      rw [dropIdle] at h ⊢
      split
      · rename_i hnil
        rw [hnil] at h
        simp only at h
        split at h
        · exact absurd rfl h
        · rename_i hidle
          rw [if_neg hidle]
          refine ⟨[], part, rfl, ?_⟩
          simpa [isStep] using hidle
      · rename_i hkept
        obtain ⟨init, last, heq, hlast⟩ := ih hkept
        exact ⟨part :: init, last, by rw [heq]; rfl, hlast⟩

theorem mem_of_mem_dropIdle (h : part ∈ dropIdle true parts) : part ∈ parts := by
  induction parts with
  | nil => exact h
  | cons first rest ih =>
      rw [dropIdle] at h
      split at h
      · split at h
        · cases h
        · rw [List.mem_singleton.mp h]
          exact List.mem_cons_self
      · rcases List.mem_cons.mp h with rfl | h
        · exact List.mem_cons_self
        · exact List.mem_cons_of_mem _ (ih h)

/-! ## Absolute paths -/

theorem isAbsolute_iff : isAbsolute path = true ↔ ∃ cs, path.toList = '/' :: cs := by
  rw [isAbsolute, beq_iff_eq, List.head?_eq_some_iff]

theorem isAbsolute_ofList (cs : List Char) : isAbsolute (String.ofList ('/' :: cs)) = true :=
  isAbsolute_iff.mpr ⟨cs, String.toList_ofList⟩

/-- The steps of parts behind the root. -/
theorem steps_ofList (hparts : ∀ part ∈ parts, '/' ∉ part) :
    steps (String.ofList ('/' :: ['/'].intercalate parts)) = parts.filter isStep := by
  rw [steps_eq (isAbsolute_ofList _), String.toList_ofList, ← List.nil_append ('/' :: _),
    splitSlashes_slash, splitSlashes_eq [], splitSlashes_eq]
  cases parts with
  | nil => rfl
  | cons part rest =>
      rw [List.splitOn_intercalate '/' hparts (List.cons_ne_nil part rest)]
      rfl

theorem length_steps (h : isAbsolute path = true) : (steps path).length ≤ path.length := by
  obtain ⟨cs, hcs⟩ := isAbsolute_iff.mp h
  have hsplit : splitSlashes path.toList = [] :: splitSlashes cs := by
    rw [hcs, ← List.nil_append ('/' :: cs), splitSlashes_slash]
    rfl
  have hlength := length_splitSlashes cs
  have hfilter := List.length_filter_le isStep (splitSlashes cs)
  rw [steps_eq h, hsplit, List.filter_cons_of_neg (by decide), ← String.length_toList, hcs,
    List.length_cons]
  omega

/-- A file takes one step more than its directory. -/
theorem steps_join (h : isAbsolute directory = true) (hname : '/' ∉ name.toList)
    (hstep : isStep name.toList = true) :
    isAbsolute (join directory name) = true ∧
      steps (join directory name) = steps directory ++ [name.toList] := by
  obtain ⟨cs, hcs⟩ := isAbsolute_iff.mp h
  have hrelative : isAbsolute name = false := by
    rw [Bool.eq_false_iff]
    intro habs
    obtain ⟨rest, hrest⟩ := isAbsolute_iff.mp habs
    exact hname (hrest ▸ List.mem_cons_self)
  have hsingle : splitSlashes name.toList = [name.toList] := by
    rw [splitSlashes_eq, List.splitOn_eq_singleton hname]
  rw [join, if_neg (by simp [hrelative]), if_neg (by simp [hcs])]
  split
  · rename_i hlast
    obtain ⟨init, hinit⟩ : ∃ init, directory.toList = init ++ ['/'] :=
      List.getLast?_eq_some_iff.mp hlast
    have habs : isAbsolute (directory ++ name) = true :=
      isAbsolute_iff.mpr ⟨cs ++ name.toList, by rw [String.toList_append, hcs, List.cons_append]⟩
    refine ⟨habs, ?_⟩
    rw [steps_eq habs, steps_eq h, String.toList_append, hinit, List.append_assoc,
      List.singleton_append, splitSlashes_slash, splitSlashes_slash, hsingle, List.filter_append,
      List.filter_append, List.filter_cons_of_pos hstep]
    simp [splitSlashes_eq, isStep]
  · have htext : (directory ++ "/" ++ name).toList = directory.toList ++ '/' :: name.toList := by
      simp
    have habs : isAbsolute (directory ++ "/" ++ name) = true :=
      isAbsolute_iff.mpr ⟨cs ++ '/' :: name.toList, by rw [htext, hcs, List.cons_append]⟩
    refine ⟨habs, ?_⟩
    rw [steps_eq habs, steps_eq h, htext, splitSlashes_slash, hsingle, List.filter_append,
      List.filter_cons_of_pos hstep, List.filter_nil]

/-- Only the root has no directory above; every other path lies in one and takes one step more. -/
theorem parent?_cases (h : isAbsolute path = true) :
    parent? path = none ∧ steps path = [] ∨
      ∃ above last, parent? path = some above ∧ isAbsolute above = true ∧
        steps path = steps above ++ [last] := by
  obtain ⟨cs, hcs⟩ := isAbsolute_iff.mp h
  have hsteps : steps path = (splitSlashes cs).filter isStep := by
    rw [steps_eq h, hcs, ← List.nil_append ('/' :: cs), splitSlashes_slash, List.filter_append]
    rfl
  have hparent : parent? path = if dropIdle true (splitSlashes cs) = [] then none
      else some (String.ofList ('/' :: ['/'].intercalate
        (dropIdle true (dropIdle true (splitSlashes cs)).dropLast))) := by
    rw [parent?, h, hcs]
    simp only [if_true, List.drop_one, List.tail_cons]
    cases dropIdle true (splitSlashes cs) <;> rfl
  rw [hparent, hsteps, ← filter_dropIdle]
  by_cases hempty : dropIdle true (splitSlashes cs) = []
  · exact .inl (by simp [hempty])
  · obtain ⟨init, last, heq, hlast⟩ := dropIdle_eq_append hempty
    refine .inr ⟨String.ofList ('/' :: ['/'].intercalate (dropIdle true init)), last, ?_,
      isAbsolute_ofList _, ?_⟩
    · rw [if_neg hempty, heq, List.dropLast_concat]
    · have hnoSlash : ∀ part ∈ dropIdle true init, '/' ∉ part := by
        intro part hpart
        have hmem : part ∈ dropIdle true (splitSlashes cs) := by
          rw [heq]
          exact List.mem_append_left _ (mem_of_mem_dropIdle hpart)
        exact slash_notMem cs part (mem_of_mem_dropIdle hmem)
      rw [steps_ofList hnoSlash, heq, List.filter_append, filter_dropIdle,
        List.filter_cons_of_pos hlast, List.filter_nil]

/-! ## A path and the directories above it -/

theorem isAbsolute_of_mem_ancestors (h : isAbsolute path = true) (hq : q ∈ ancestors path) :
    isAbsolute q = true := by
  rw [ancestors] at hq
  generalize path.length = fuel at hq
  induction fuel generalizing path with
  | zero => exact List.mem_singleton.mp hq ▸ h
  | succ fuel ih =>
      rw [ancestors.go] at hq
      rcases parent?_cases h with ⟨hnone, -⟩ | ⟨above, last, hsome, habove, -⟩
      · rw [hnone] at hq
        exact List.mem_singleton.mp hq ▸ h
      · rw [hsome] at hq
        rcases List.mem_cons.mp hq with rfl | hq
        · exact h
        · exact ih habove hq

/-- They take all beginnings of the steps of the path, the longest first: none is left out. -/
theorem map_steps_ancestors (h : isAbsolute path = true) :
    (ancestors path).map steps = (steps path).inits.reverse := by
  rw [ancestors]
  have hfuel := length_steps h
  generalize path.length = fuel at hfuel
  induction fuel generalizing path with
  | zero =>
      have hnil : steps path = [] := List.length_eq_zero_iff.mp (Nat.le_zero.mp hfuel)
      simp [ancestors.go, hnil]
  | succ fuel ih =>
      rw [ancestors.go]
      rcases parent?_cases h with ⟨hnone, hnil⟩ | ⟨above, last, hsome, habove, hsteps⟩
      · simp [hnone, hnil]
      · rw [hsteps, List.length_append, List.length_singleton] at hfuel
        rw [hsome, List.map_cons, ih habove (by omega), hsteps, List.inits_append]
        simp

/-- So no two of them are the same. -/
theorem nodup_steps_ancestors (h : isAbsolute path = true) :
    ((ancestors path).map steps).Nodup := by
  have hlengths : (steps path).inits.map List.length = List.range ((steps path).length + 1) := by
    generalize steps path = parts
    induction parts with
    | nil => rfl
    | cons part rest ih =>
        rw [List.inits_cons, List.map_cons, List.map_map, List.length_cons, List.range_succ_eq_map,
          ← ih, List.map_map]
        rfl
  rw [map_steps_ancestors h]
  refine List.nodup_reverse.mpr (List.Nodup.of_map List.length ?_)
  exact hlengths ▸ List.nodup_range

end Searchlight.Path
