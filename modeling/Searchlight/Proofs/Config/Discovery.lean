import Searchlight.Config.Load
import Searchlight.Proofs.File.Path

/-!
# Which configuration files count

The candidates lie in the working directory and in the directories above it. A root among them
ends the list, and nothing farther away has a say in it, not even the file in the home directory.
-/

namespace Searchlight

variable {files others : FileTree} {path root directory p q : String}
  {dirs nearer farther : List String}

/-! ## The same file in two trees -/

namespace FileTree

/-- There is the same file in both trees, or there is none in either. -/
structure SameFileAt (files others : FileTree) (path : String) : Prop where
  isFile_eq : others.isFile path = files.isFile path
  read_eq : (others.read path).toOption = (files.read path).toOption

/-- Only files can be read. -/
theorem isFile_of_read {content : String} (h : files.read path = .ok content) :
    files.isFile path = true := by
  rw [read] at h
  rw [isFile, entry?]
  split at h
  · cases h
  · rename_i location hlocate
    rw [hlocate]
    simp only
    split at h <;> simp_all

end FileTree

namespace Path

theorem same_symm (h : same p q = true) : same q p = true := by
  rw [same, Bool.and_eq_true, beq_iff_eq, beq_iff_eq] at h ⊢
  exact ⟨h.1.symm, h.2.symm⟩

end Path

namespace Config

/-! ## Roots -/

/-- Whatever is the reason that a file cannot be read, it is no root. -/
theorem isRoot_eq (files : FileTree) (path : String) :
    isRoot files path =
      ((files.read path).toOption.bind File.read?).any fun file => file.root == some true := by
  rw [isRoot, fileAt]
  cases files.read path with
  | error fault => rfl
  | ok content => cases h : File.read? content <;> simp [Except.toOption, h]

theorem isRoot_congr (h : files.SameFileAt others path) :
    isRoot others path = isRoot files path := by
  rw [isRoot_eq, isRoot_eq, h.read_eq]

theorem isFile_of_isRoot (h : isRoot files path = true) : files.isFile path = true := by
  rw [isRoot_eq] at h
  cases hread : files.read path with
  | error fault => simp [hread, Except.toOption] at h
  | ok content => exact FileTree.isFile_of_read hread

/-! ## The search -/

/-- The paths under which a configuration file is looked for, the nearest first. -/
def candidates (directory : String) : List String :=
  (Path.ancestors directory).map (Path.join · fileName)

theorem search_cons (files : FileTree) (directory : String) (above : List String) :
    search files (directory :: above) =
      let candidate := Path.join directory fileName
      if isRoot files candidate then ([candidate], true)
      else ((if files.isFile candidate then [candidate] else []) ++ (search files above).1,
        (search files above).2) := by
  rw [search]
  by_cases hroot : isRoot files (Path.join directory fileName) = true
  · simp [hroot, isFile_of_isRoot hroot]
  · by_cases hfile : files.isFile (Path.join directory fileName) = true <;> simp [hroot, hfile]

/-- The search ends at the nearest root. -/
theorem search_of_root (hdirs : dirs.map (Path.join · fileName) = nearer ++ root :: farther)
    (hroot : isRoot files root = true) (hnearer : ∀ p ∈ nearer, isRoot files p = false) :
    search files dirs = (nearer.filter files.isFile ++ [root], true) := by
  induction nearer generalizing dirs with
  | nil =>
      obtain ⟨directory, above, rfl, rfl, -⟩ := List.map_eq_cons_iff.mp hdirs
      rw [search_cons]
      exact if_pos hroot
  | cons p rest ih =>
      obtain ⟨directory, above, rfl, rfl, habove⟩ := List.map_eq_cons_iff.mp hdirs
      obtain ⟨hhere, hrest⟩ := List.forall_mem_cons.mp hnearer
      rw [search_cons, ih habove hrest]
      simp only [hhere, Bool.false_eq_true, if_false]
      rw [List.filter_cons]
      split <;> rfl

theorem search_of_no_root (h : ∀ p ∈ dirs.map (Path.join · fileName), isRoot files p = false) :
    search files dirs = ((dirs.map (Path.join · fileName)).filter files.isFile, false) := by
  induction dirs with
  | nil => rfl
  | cons directory above ih =>
      obtain ⟨hhere, habove⟩ := List.forall_mem_cons.mp h
      rw [search_cons, ih habove]
      simp only [hhere, Bool.false_eq_true, if_false, List.map_cons]
      rw [List.filter_cons]
      split <;> rfl

/-- Nothing is found but candidates, in their order. -/
theorem search_sublist (files : FileTree) (dirs : List String) :
    (search files dirs).1.Sublist (dirs.map (Path.join · fileName)) := by
  induction dirs with
  | nil => exact .slnil
  | cons directory above ih =>
      rw [search_cons, List.map_cons]
      simp only
      split
      · exact (List.nil_sublist _).cons_cons _
      · split
        · exact ih.cons_cons _
        · exact ih.cons _

/-- Candidates differ in their steps. -/
theorem pairwise_candidates (h : Path.isAbsolute directory = true) :
    (candidates directory).Pairwise fun p q => Path.same p q = false := by
  have hname : '/' ∉ fileName.toList := by decide
  have hstep : Path.isStep fileName.toList = true := by decide
  have hsteps : ((Path.ancestors directory).map Path.steps).Nodup := Path.nodup_steps_ancestors h
  rw [List.nodup_iff_pairwise_ne, List.pairwise_map] at hsteps
  rw [candidates, List.pairwise_map]
  refine hsteps.imp_of_mem fun {p q} hp hq hne => ?_
  have hjoin := (Path.steps_join (Path.isAbsolute_of_mem_ancestors h hp) hname hstep).2
  have hjoin' := (Path.steps_join (Path.isAbsolute_of_mem_ancestors h hq) hname hstep).2
  rw [Path.same, hjoin, hjoin', Bool.and_eq_false_iff]
  exact .inr (by simpa using hne)

/-- The file in the home directory, if there is one that is not listed yet. -/
def globalBehind (place : Place) (listed : List String) : List String :=
  ((globalFile? place).filter fun path =>
    place.files.isFile path && !listed.any (Path.same path)).toList

theorem discover_eq (place : Place) (directory : String) :
    discover place directory =
      let found := search place.files (Path.ancestors directory)
      found.1 ++ if found.2 then [] else globalBehind place found.1 := by
  rw [discover]
  cases hfound : search place.files (Path.ancestors directory) with
  | mk listed rooted =>
      cases rooted with
      | true => simp
      | false =>
          cases hglobal : globalFile? place with
          | none => simp [globalBehind, hglobal]
          | some path =>
              simp only [Bool.false_eq_true, if_false, globalBehind, hglobal, Option.filter_some]
              split <;> simp

/-! ## Isolation -/

/-- **A root isolates what is below it.** For an absolute directory, let `root` be the nearest
candidate that says that it is a root. Then the list is that of the files among the nearer
candidates with the root behind them, and every place with the same files there has the same list,
whatever its other files and its home directory are. Without a root, the list holds the files among
all candidates, the nearest first, and then the file in the home directory, if it is there and not
listed already. No path stands in the list twice. -/
theorem discover_isolated (place : Place) (habs : Path.isAbsolute directory = true) :
    (∀ nearer root farther, candidates directory = nearer ++ root :: farther →
      isRoot place.files root = true → (∀ p ∈ nearer, isRoot place.files p = false) →
        discover place directory = nearer.filter place.files.isFile ++ [root] ∧
          ∀ other : Place, (∀ p ∈ nearer ++ [root], place.files.SameFileAt other.files p) →
            discover other directory = discover place directory) ∧
    ((∀ p ∈ candidates directory, isRoot place.files p = false) →
      discover place directory = (candidates directory).filter place.files.isFile ++
        globalBehind place ((candidates directory).filter place.files.isFile)) ∧
    (discover place directory).Pairwise fun p q => Path.same p q = false := by
  refine ⟨?_, ?_, ?_⟩
  · intro nearer root farther hsplit hroot hnearer
    have hlist (place : Place) (hroot : isRoot place.files root = true)
        (hnearer : ∀ p ∈ nearer, isRoot place.files p = false) :
        discover place directory = nearer.filter place.files.isFile ++ [root] := by
      rw [discover_eq, search_of_root hsplit hroot hnearer]
      simp
    refine ⟨hlist place hroot hnearer, fun other hsame => ?_⟩
    have hsameNearer : ∀ p ∈ nearer, place.files.SameFileAt other.files p :=
      fun p hp => hsame p (List.mem_append_left _ hp)
    have hsameRoot : place.files.SameFileAt other.files root := hsame root (by simp)
    have hfilter : nearer.filter other.files.isFile = nearer.filter place.files.isFile :=
      List.filter_congr fun p hp => (hsameNearer p hp).isFile_eq
    rw [hlist place hroot hnearer, ← hfilter]
    refine hlist other ((isRoot_congr hsameRoot).trans hroot) fun p hp => ?_
    exact (isRoot_congr (hsameNearer p hp)).trans (hnearer p hp)
  · intro hnone
    rw [discover_eq, search_of_no_root hnone]
    rfl
  · have hfound : (search place.files (Path.ancestors directory)).1.Pairwise
        fun p q => Path.same p q = false :=
      (pairwise_candidates habs).sublist (search_sublist _ _)
    rw [discover_eq]
    refine List.pairwise_append.mpr ⟨hfound, ?_, ?_⟩
    · split
      · exact .nil
      · rw [globalBehind]
        cases Option.filter _ _ <;> simp
    · intro p hp q hq
      split at hq
      · cases hq
      · rw [globalBehind, Option.mem_toList, Option.filter_eq_some_iff] at hq
        obtain ⟨-, hnew⟩ := hq
        rw [Bool.and_eq_true, Bool.not_eq_true', List.any_eq_false] at hnew
        rw [Bool.eq_false_iff]
        exact fun hsame => hnew.2 p hp (Path.same_symm hsame)

/-- A nearer file that is no text does not end the search; the root above it does, and what lies
farther up or at home does not count. Without the root, the file at home is listed once, although
the home directory is also above the working directory. -/
theorem discover_isolated_unreadable :
    let name : List Char := ".ftq.toml".toList
    let dirs : List (Location × FileEntry) := [([['r']], .directory), ([['a'], ['r']], .directory)]
    let near : Location × FileEntry := ([name, ['a'], ['r']], .binary)
    let middle : Location × FileEntry := ([name, ['r']], .file "root = true")
    let top : Location × FileEntry := ([name], .file "")
    let place : Place := ⟨⟨near :: middle :: top :: dirs⟩, "/r/a"⟩
    let other : Place := ⟨⟨near :: middle :: dirs⟩, none⟩
    let bare : Place := ⟨⟨near :: top :: dirs⟩, "/r/a"⟩
    let nearer : List String := ["/r/a/b/.ftq.toml", "/r/a/.ftq.toml"]
    let root : String := "/r/.ftq.toml"
    Path.isAbsolute "/r/a/b" = true ∧
      (candidates "/r/a/b" = nearer ++ root :: ["/.ftq.toml"] ∧
        isRoot place.files root = true ∧ (∀ p ∈ nearer, isRoot place.files p = false) ∧
        (∀ p ∈ nearer ++ [root], place.files.SameFileAt other.files p) ∧
        discover place "/r/a/b" = ["/r/a/.ftq.toml", root] ∧
        discover other "/r/a/b" = discover place "/r/a/b") ∧
      (∀ p ∈ candidates "/r/a/b", isRoot bare.files p = false) ∧
        discover bare "/r/a/b" = ["/r/a/.ftq.toml", "/.ftq.toml"] := by
  intro name dirs near middle top place other bare nearer root
  have habs : Path.isAbsolute "/r/a/b" = true := by decide
  have hsplit : candidates "/r/a/b" = nearer ++ root :: ["/.ftq.toml"] := by decide
  have hroot : isRoot place.files root = true := by decide +kernel
  have hnearer : ∀ p ∈ nearer, isRoot place.files p = false := by decide +kernel
  have hsame : ∀ p ∈ nearer ++ [root], place.files.SameFileAt other.files p := by
    refine List.forall_mem_cons.mpr ⟨⟨by decide, by decide⟩, ?_⟩
    refine List.forall_mem_cons.mpr ⟨⟨by decide, by decide⟩, ?_⟩
    exact List.forall_mem_singleton.mpr ⟨by decide, by decide⟩
  have hnone : ∀ p ∈ candidates "/r/a/b", isRoot bare.files p = false := by decide +kernel
  have hfilter : nearer.filter place.files.isFile ++ [root] = ["/r/a/.ftq.toml", root] := by decide
  have hfiles : (candidates "/r/a/b").filter bare.files.isFile ++
      globalBehind bare ((candidates "/r/a/b").filter bare.files.isFile) =
        ["/r/a/.ftq.toml", "/.ftq.toml"] := by decide
  obtain ⟨hlist, hother⟩ :=
    (discover_isolated place habs).1 nearer root ["/.ftq.toml"] hsplit hroot hnearer
  have hbare := (discover_isolated bare habs).2.1 hnone
  exact ⟨habs, ⟨hsplit, hroot, hnearer, hsame, hlist.trans hfilter, hother other hsame⟩, hnone,
    hbare.trans hfiles⟩

end Config

end Searchlight
