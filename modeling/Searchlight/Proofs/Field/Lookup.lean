import Mathlib.Data.List.Nodup
import Searchlight.Field.Mappings

/-!
# Which mapping a name finds

The mappings that are kept are those that no mapping of the same name is before, so
names tell them apart. A name finds the mapping of that name; without one, it finds the
first mapping that lists it as an alias.
-/

namespace Searchlight.Mappings

variable {fields : List FieldMapping} {m : Mappings} {name : String} {f g : FieldMapping}

/-! ## The mappings that are kept -/

/-- The mappings of a list that none of the same name is before. -/
def firstOfName (fields : List FieldMapping) : List FieldMapping :=
  (fields.zipIdx.filter fun (f, i) => f.name ∉ (fields.take i).map (·.name)).map Prod.fst

theorem distinct_eq (seen : List String) (fields : List FieldMapping) :
    distinct seen fields =
      (fields.zipIdx.filter fun (f, i) =>
        f.name ∉ seen ++ (fields.take i).map (·.name)).map Prod.fst := by
  induction fields generalizing seen with
  | nil => rfl
  | cons g rest ih =>
      have hrest : ∀ known : List String, (∀ name, name ∈ known ↔ name ∈ g.name :: seen) →
          distinct known rest =
            ((rest.zipIdx 1).filter fun (f, i) =>
              f.name ∉ seen ++ ((g :: rest).take i).map (·.name)).map Prod.fst := by
        intro known hknown
        rw [ih, List.zipIdx_succ, List.filter_map, List.map_map]
        congr 1
        apply List.filter_congr
        rintro ⟨f, i⟩ -
        simp only [List.mem_append, hknown, List.mem_cons, Function.comp_apply, List.take_succ_cons,
          List.map_cons, decide_eq_decide]
        tauto
      by_cases hg : g.name ∈ seen
      · rw [distinct, if_pos (by simpa using hg), hrest seen (by simp [hg]), List.zipIdx_cons,
          List.filter_cons_of_neg (by simpa using hg)]
      · rw [distinct, if_neg (by simpa using hg), hrest (g.name :: seen) (by simp),
          List.zipIdx_cons, List.filter_cons_of_pos (by simpa using hg), List.map_cons]

theorem fields_ofFields (fields : List FieldMapping) :
    (ofFields fields).fields = firstOfName fields :=
  distinct_eq [] fields

theorem pairwise_distinct (seen : List String) (fields : List FieldMapping) :
    (distinct seen fields).Pairwise (fun f g => f.name ≠ g.name) ∧
      ∀ f ∈ distinct seen fields, f.name ∉ seen := by
  induction fields generalizing seen with
  | nil => exact ⟨.nil, by simp [distinct]⟩
  | cons g rest ih =>
      rw [distinct]
      split
      · exact ih seen
      · rename_i hg
        obtain ⟨hpairs, hnew⟩ := ih (g.name :: seen)
        refine ⟨List.pairwise_cons.mpr ⟨?_, hpairs⟩, ?_⟩
        · intro f hf hsame
          exact hnew f hf (hsame ▸ List.mem_cons_self)
        · intro f hf
          rcases List.mem_cons.mp hf with rfl | hf
          · simpa using hg
          · exact fun hseen => hnew f hf (List.mem_cons_of_mem _ hseen)

/-- Two mappings that are kept under one name are the same. -/
theorem eq_of_name_eq (hf : f ∈ (ofFields fields).fields) (hg : g ∈ (ofFields fields).fields)
    (h : f.name = g.name) : f = g := by
  have hpairs : (ofFields fields).fields.Pairwise fun f g => f.name ≠ g.name :=
    (pairwise_distinct [] fields).1
  exact List.inj_on_of_nodup_map (List.pairwise_map.mpr hpairs) hf hg h

/-! ## Looking names up -/

theorem lookup_names (fields : List FieldMapping) (name : String) :
    (fields.map fun f => (f.name, f)).lookup name = fields.find? fun f => f.name = name := by
  induction fields with
  | nil => rfl
  | cons f rest ih =>
      rw [List.map_cons, List.lookup_cons, List.find?_cons, ih]
      by_cases h : f.name = name
      · simp [h]
      · simp [h, beq_eq_false_iff_ne.mpr (Ne.symm h)]

theorem lookup_aliases (f : FieldMapping) (aliases : List String) (name : String) :
    (aliases.map (·, f)).lookup name = if name ∈ aliases then some f else none := by
  induction aliases with
  | nil => rfl
  | cons a rest ih =>
      rw [List.map_cons, List.lookup_cons, ih]
      by_cases h : name = a
      · simp [h]
      · simp [h, beq_eq_false_iff_ne.mpr h]

theorem lookup_flatMap_aliases (fields : List FieldMapping) (name : String) :
    (fields.flatMap fun f => f.aliases.map (·, f)).lookup name =
      fields.find? fun f => name ∈ f.aliases := by
  induction fields with
  | nil => rfl
  | cons f rest ih =>
      rw [List.flatMap_cons, List.lookup_append, lookup_aliases, ih, List.find?_cons]
      by_cases h : name ∈ f.aliases <;> simp [h]

/-- Names come before aliases, and of several aliases the first one counts. -/
theorem lookup_eq (m : Mappings) (name : String) :
    m.lookup name =
      (m.fields.find? fun f => f.name = name).or
        (m.fields.find? fun f => name ∈ f.aliases) := by
  rw [lookup, index, List.lookup_append, lookup_names, lookup_flatMap_aliases]

theorem mem_of_lookup (h : m.lookup name = some f) : f ∈ m.fields := by
  rw [lookup_eq, Option.or_eq_some_iff] at h
  rcases h with h | ⟨-, h⟩ <;> exact List.mem_of_find?_eq_some h

/-- An alias finds some mapping, though not always the one that lists it. -/
theorem exists_of_mem_aliases (hf : f ∈ m.fields) (hname : name ∈ f.aliases) :
    ∃ g, m.lookup name = some g := by
  have hlisted : (m.fields.find? fun f => name ∈ f.aliases).isSome = true :=
    List.find?_isSome.mpr ⟨f, hf, by simpa using hname⟩
  rw [← Option.isSome_iff_exists, lookup_eq, Option.isSome_or, hlisted, Bool.or_true]

end Searchlight.Mappings
