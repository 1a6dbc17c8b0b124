import Mathlib.Data.List.Forall2
import Mathlib.Data.List.Induction
import Searchlight.Proofs.Field.Properties

/-!
# What a tree of properties comes to

Flattening carries a path and a nested scope from each property to those inside it. They
are what the properties on the way say: the dotted path, and the path of the innermost
nested one. So the fields of a tree are those that its properties of supported types
stand for, each with its multi-fields behind it, in document order, and its aliases are
the alias properties that have a target.
-/

namespace Searchlight.Field.Document

variable {tree children members : List (String × Json)} {definition : Json} {path name : String}
  {nested : Option String} {p q : Property} {x y : Spot} {f : FieldMapping}

/-! ## Paths and scopes -/

def Property.IsNested (p : Property) : Prop := typeName? p.definition = some "nested"

/-- The nested scope of what stands in the given properties: the path of the innermost nested one
among them. -/
def IsScope (outer : List Property) : Option String → Prop
  | none => ∀ p ∈ outer, ¬p.IsNested
  | some nested => ∃ before p after, outer = before ++ p :: after ∧ p.IsNested ∧
      (∀ q ∈ after, ¬q.IsNested) ∧ nested = Spot.path ⟨before, p⟩

theorem path_behind (outer : List Property) (p q : Property) :
    Spot.path ⟨outer ++ [p], q⟩ = Spot.path ⟨outer, p⟩ ++ "." ++ q.name := by
  rw [Spot.path, Spot.path, List.map_append]
  exact String.intercalate_append_of_ne_nil (by simp) (by simp)

/-- A path begins with that of each property that it leads through. -/
theorem path_leads (before after : List Property) (p q : Property) :
    (Spot.path ⟨before, p⟩ ++ ".").toList <+: (Spot.path ⟨before ++ p :: after, q⟩).toList := by
  have hsplit : Spot.path ⟨before ++ p :: after, q⟩ =
      Spot.path ⟨before, p⟩ ++ "." ++
        String.intercalate "." ((after ++ [q]).map Property.name) := by
    rw [Spot.path, Spot.path,
      show before ++ p :: after ++ [q] = (before ++ [p]) ++ (after ++ [q]) by simp,
      List.map_append]
    exact String.intercalate_append_of_ne_nil (by simp) (by simp)
  rw [hsplit, String.toList_append]
  simp only [String.toList_append]
  exact List.prefix_append _ _

/-- What flattening carries into a property: what stands before the names in it, and its nested
scope. -/
def enter (context : String × Option String) (p : Property) : String × Option String :=
  (context.1 ++ p.name ++ ".",
    if typeName? p.definition = some "nested" then some (context.1 ++ p.name) else context.2)

theorem enter_path (outer : List Property) (p : Property) :
    (outer.foldl enter ("", none)).1 ++ p.name = Spot.path ⟨outer, p⟩ := by
  induction outer using List.reverseRecOn generalizing p with
  | nil => simp [Spot.path]
  | append_singleton outer q ih =>
      rw [path_behind, ← ih q, List.foldl_concat]
      rfl

/-- A property that is not nested adds nothing to a scope. -/
theorem isScope_concat {outer : List Property} (h : IsScope outer nested) (hp : ¬p.IsNested) :
    IsScope (outer ++ [p]) nested := by
  have hlast {inner : List Property} (hinner : ∀ q ∈ inner, ¬q.IsNested) :
      ∀ q ∈ inner ++ [p], ¬q.IsNested := by
    intro q hq
    rcases List.mem_append.mp hq with hq | hq
    · exact hinner q hq
    · exact List.mem_singleton.mp hq ▸ hp
  cases nested with
  | none => exact hlast h
  | some nested =>
      obtain ⟨before, q, after, rfl, hq, hafter, hpath⟩ := h
      exact ⟨before, q, after ++ [p], by simp, hq, hlast hafter, hpath⟩

theorem enter_scope (outer : List Property) : IsScope outer (outer.foldl enter ("", none)).2 := by
  induction outer using List.reverseRecOn with
  | nil => simp [IsScope]
  | append_singleton outer p ih =>
      rw [List.foldl_concat, enter]
      by_cases hnested : typeName? p.definition = some "nested"
      · rw [if_pos hnested]
        exact ⟨outer, p, [], rfl, hnested, by simp, enter_path outer p⟩
      · rw [if_neg hnested]
        exact isScope_concat ih hnested

/-! ## Flattening, property by property -/

theorem inside_eq (path : String) (nested type : Option String) (members : List (String × Json)) :
    inside path nested type members =
      ((members.lookup "properties").bind Json.members?).bind fun children =>
        if type = some "nested" then some (properties (path ++ ".") (some path) children)
        else if type = none ∨ type = some "object" then
          some (properties (path ++ ".") nested children)
        else none := by
  induction members with
  | nil => rw [inside, List.lookup_nil, Option.bind_none, Option.bind_none]
  | cons member rest ih =>
      obtain ⟨name, value⟩ := member
      rw [List.lookup_cons]
      by_cases h : name = "properties"
      · rw [h, beq_self_eq_true]
        cases value <;> rw [inside] <;> first | rfl | simp
      · rw [beq_eq_false_iff_ne.mpr (Ne.symm h), ← ih]
        cases value <;> rw [inside] <;> first | rw [if_neg h] | simp

theorem children?_object (members : List (String × Json)) :
    children? (.object members) =
      let type := typeName? (.object members)
      if type = some "nested" ∨ type = none ∨ type = some "object" then
        (members.lookup "properties").bind Json.members?
      else none := by
  rw [children?]
  cases htype : typeName? (Json.object members) with
  | none => rfl
  | some type => split <;> simp_all [Json.get?]

theorem property_object (path : String) (nested : Option String)
    (members : List (String × Json)) :
    property path nested (.object members) =
      match children? (.object members) with
      | some children =>
        properties (path ++ ".")
          (if typeName? (.object members) = some "nested" then some path else nested) children
      | none => plainProperty path nested (.object members) := by
  rw [property, inside_eq, children?_object]
  cases (members.lookup "properties").bind Json.members? with
  | none => simp
  | some children =>
      by_cases hnested : typeName? (.object members) = some "nested"
      · simp [hnested]
      · by_cases hobject : typeName? (.object members) = none ∨
            typeName? (.object members) = some "object"
        · simp [hnested, hobject]
        · simp [hnested, hobject]

/-- An object or nested property is what the properties inside it are. -/
theorem property_inner (context : String × Option String)
    (h : children? p.definition = some children) :
    property (context.1 ++ p.name) context.2 p.definition =
      properties (enter context p).1 (enter context p).2 children := by
  rw [enter]
  cases hd : p.definition with
  | object members => simp only [property_object, hd ▸ h]
  | _ => cases hd ▸ h

theorem property_leaf (h : children? definition = none) :
    property path nested definition = plainProperty path nested definition := by
  cases definition with
  | object members => rw [property_object, h]
  | _ => rw [property]; simp

/-- What a property comes to that contains no others. -/
def plainAt (context : String × Option String) (x : Spot) : Flattened :=
  let context := x.outer.foldl enter context
  plainProperty (context.1 ++ x.self.name) context.2 x.self.definition

section Parts

variable {α : Type} (part : Flattened → List α) (hnone : part {} = [])
  (happend : ∀ a b, part (a ++ b) = part a ++ part b)

include hnone happend

theorem part_properties (above : String) (nested : Option String)
    (tree : List (String × Json)) :
    part (properties above nested tree) =
      tree.flatMap fun (name, definition) => part (property (above ++ name) nested definition) := by
  induction tree with
  | nil => rw [properties, hnone, List.flatMap_nil]
  | cons member rest ih => rw [properties, happend, ih, List.flatMap_cons]

/-- Fields and aliases come from the spots, in their order. -/
theorem part_property (context : String × Option String) (p : Property) :
    part (property (context.1 ++ p.name) context.2 p.definition) =
      (spotsAt p).flatMap fun x => part (plainAt context x) := by
  induction p using property_induction generalizing context with
  | leaf p h =>
      rw [property_leaf h, spotsAt_leaf h, List.flatMap_singleton]
      rfl
  | inner p children h ih =>
      rw [property_inner context h, part_properties part hnone happend, flatMap_siblings,
        spotsAt_inner h, spots, List.flatMap_map, List.flatMap_assoc]
      exact List.flatMap_congr fun q hq => ih q hq (enter context p)

theorem part_tree (tree : List (String × Json)) :
    part (properties "" none tree) = (spots tree).flatMap fun x => part (plainAt ("", none) x) := by
  rw [part_properties part hnone happend, flatMap_siblings, spots, List.flatMap_assoc]
  exact List.flatMap_congr fun p _ => part_property part hnone happend ("", none) p

end Parts

theorem plainAt_eq (x : Spot) :
    plainAt ("", none) x =
      plainProperty x.path (x.outer.foldl enter ("", none)).2 x.self.definition := by
  rw [plainAt, enter_path]

/-! ## Fields -/

/-- The type of a field that a property stands for. -/
def type? (definition : Json) : Option FieldType :=
  (typeName? definition).bind FieldType.ofDocumentName?

def multiFields (definition : Json) : List (String × Json) :=
  ((definition.get? "fields").bind Json.members?).getD []

/-- A property of a supported type, or one of its multi-fields. -/
inductive IsField (tree : List (String × Json)) : Spot → Prop
  | property {x : Spot} (hx : Reaches tree x) (htype : (type? x.self.definition).isSome = true) :
      IsField tree x
  | multiField {x : Spot} {p : Property} (hx : Reaches tree x)
      (htype : (type? x.self.definition).isSome = true)
      (hp : p.IsAmong (multiFields x.self.definition))
      (hsub : (type? p.definition).isSome = true) : IsField tree ⟨x.outer ++ [x.self], p⟩

/-- What a field says about the spot it is made for. -/
structure Describes (x : Spot) (f : FieldMapping) : Prop where
  name : f.name = x.path
  path : f.path = x.path
  type : type? x.self.definition = some f.type
  analyzer : f.analyzer = (x.self.definition.get? "analyzer").bind Json.string?
  nested : IsScope x.outer f.nested

/-- No supported type is one of those that contain other properties. -/
theorem children?_of_type? (h : (type? definition).isSome = true) :
    children? definition = none := by
  rw [type?] at h
  rw [children?]
  split <;> rename_i htype
  · simp [htype] at h
  · rw [htype] at h
    exact absurd h (by decide)
  · rw [htype] at h
    exact absurd h (by decide)
  · rfl

/-- A spot of a supported type, then its multi-fields. -/
def fieldSpotsAt (x : Spot) : List Spot :=
  if (type? x.self.definition).isSome then
    x :: ((siblings (multiFields x.self.definition)).filter fun p =>
      (type? p.definition).isSome).map fun p => ⟨x.outer ++ [x.self], p⟩
  else []

def fieldSpots (tree : List (String × Json)) : List Spot := (spots tree).flatMap fieldSpotsAt

theorem mem_fieldSpots : x ∈ fieldSpots tree ↔ IsField tree x := by
  rw [fieldSpots, List.mem_flatMap]
  constructor
  · rintro ⟨y, hy, hx⟩
    have hreached := (mem_spots.mp hy).1
    rw [fieldSpotsAt] at hx
    split at hx
    · rename_i htype
      rcases List.mem_cons.mp hx with rfl | hx
      · exact .property hreached htype
      · obtain ⟨p, hp, rfl⟩ := List.mem_map.mp hx
        obtain ⟨hp, hsub⟩ := List.mem_filter.mp hp
        exact .multiField hreached htype (mem_siblings.mp hp) hsub
    · cases hx
  · intro h
    cases h with
    | property hx htype =>
        refine ⟨x, mem_spots.mpr ⟨hx, children?_of_type? htype⟩, ?_⟩
        rw [fieldSpotsAt, if_pos htype]
        exact List.mem_cons_self
    | multiField hx htype hp hsub =>
        refine ⟨_, mem_spots.mpr ⟨hx, children?_of_type? htype⟩, ?_⟩
        rw [fieldSpotsAt, if_pos htype]
        refine List.mem_cons_of_mem _ (List.mem_map.mpr ⟨_, ?_, rfl⟩)
        exact List.mem_filter.mpr ⟨mem_siblings.mpr hp, hsub⟩

theorem address_of_mem_fieldSpotsAt (h : y ∈ fieldSpotsAt x) :
    ∃ rest, y.address = x.address ++ rest := by
  rw [fieldSpotsAt] at h
  split at h
  · rcases List.mem_cons.mp h with rfl | h
    · exact ⟨[], (List.append_nil _).symm⟩
    · obtain ⟨p, -, rfl⟩ := List.mem_map.mp h
      exact ⟨[p.place], by simp [Spot.address]⟩
  · cases h

theorem pairwise_fieldSpotsAt (x : Spot) :
    (fieldSpotsAt x).Pairwise fun x y => x.address < y.address := by
  have haddress (p : Property) :
      Spot.address ⟨x.outer ++ [x.self], p⟩ = x.address ++ [p.place] := by
    simp [Spot.address]
  rw [fieldSpotsAt]
  split
  · refine List.pairwise_cons.mpr ⟨?_, ?_⟩
    · intro y hy
      obtain ⟨p, -, rfl⟩ := List.mem_map.mp hy
      rw [haddress]
      have hlt : x.address ++ [] < x.address ++ [p.place] :=
        List.append_left_lt (List.nil_lt_cons p.place [])
      simpa using hlt
    · rw [List.pairwise_map]
      refine ((pairwise_siblings _).filter _).imp ?_
      intro p q hlt
      rw [haddress, haddress]
      exact List.append_left_lt (.rel hlt)
  · exact .nil

/-- The fields of a tree stand in document order. -/
theorem pairwise_fieldSpots (tree : List (String × Json)) :
    (fieldSpots tree).Pairwise fun x y => x.address < y.address := by
  rw [fieldSpots, List.pairwise_flatMap]
  refine ⟨fun x _ => pairwise_fieldSpotsAt x, (diverge_spots tree).imp ?_⟩
  intro x y hdiverge u hu v hv
  obtain ⟨restu, hu⟩ := address_of_mem_fieldSpotsAt hu
  obtain ⟨restv, hv⟩ := address_of_mem_fieldSpotsAt hv
  rw [hu, hv]
  exact (hdiverge.append restu restv).lt

theorem describes_fieldAt (hpath : path = x.path) {type : FieldType}
    (htype : type? x.self.definition = some type) (hnested : IsScope x.outer nested) :
    Describes x (fieldAt path nested type x.self.definition) where
  name := hpath
  path := hpath
  type := htype
  analyzer := rfl
  nested := hnested

theorem plainProperty_fields (path : String) (nested : Option String) (definition : Json) :
    (plainProperty path nested definition).fields =
      match type? definition with
      | none => []
      | some type => fieldAt path nested type definition ::
          (multiFields definition).filterMap (multiField? path nested) := by
  rw [plainProperty, type?]
  split
  · rename_i htype
    rw [htype]
    rfl
  · rename_i htype
    rw [htype]
    cases (definition.get? "path").bind Json.string? <;> rfl
  · rename_i name hother htype
    rw [htype, Option.bind_some]
    cases FieldType.ofDocumentName? name <;> rfl

/-- The fields of a spot are those of the spots at it, one by one. -/
theorem describes_fieldSpotsAt (x : Spot) :
    List.Forall₂ Describes (fieldSpotsAt x) (plainAt ("", none) x).fields := by
  have hscope := enter_scope x.outer
  rw [plainAt_eq, plainProperty_fields, fieldSpotsAt]
  generalize (x.outer.foldl enter ("", none)).2 = nested at hscope
  cases htype : type? x.self.definition with
  | none => exact .nil
  | some type =>
      refine .cons (describes_fieldAt rfl htype hscope) ?_
      have hleaf : ¬x.self.IsNested := by
        intro hnested
        rw [type?, hnested] at htype
        cases htype
      have hinner : IsScope (x.outer ++ [x.self]) nested := isScope_concat hscope hleaf
      rw [filterMap_siblings]
      induction siblings (multiFields x.self.definition) with
      | nil => exact .nil
      | cons p rest ih =>
          cases hsub : type? p.definition with
          | none =>
              have hnone : multiField? x.path nested (p.name, p.definition) = none :=
                congrArg (Option.map _) hsub
              rwa [List.filter_cons_of_neg (by simp [hsub]), List.filterMap_cons_none]
              exact hnone
          | some subtype =>
              have hsome : multiField? x.path nested (p.name, p.definition) =
                  some (fieldAt (x.path ++ "." ++ p.name) nested subtype p.definition) :=
                congrArg (Option.map _) hsub
              rw [List.filter_cons_of_pos (by simp [hsub]), List.filterMap_cons, hsome]
              exact .cons
                (describes_fieldAt (path_behind x.outer x.self p).symm hsub hinner) ih

theorem describes_fieldSpots (tree : List (String × Json)) :
    List.Forall₂ Describes (fieldSpots tree) (properties "" none tree).fields := by
  rw [part_tree Flattened.fields rfl (fun _ _ => rfl), fieldSpots]
  induction spots tree with
  | nil => exact .nil
  | cons x rest ih =>
      rw [List.flatMap_cons, List.flatMap_cons]
      exact List.rel_append (describes_fieldSpotsAt x) ih

/-- Fields have no aliases at first. -/
theorem aliases_properties (h : f ∈ (properties "" none tree).fields) : f.aliases = [] := by
  rw [part_tree Flattened.fields rfl (fun _ _ => rfl)] at h
  obtain ⟨x, -, hf⟩ := List.mem_flatMap.mp h
  rw [plainAt, plainProperty_fields] at hf
  split at hf
  · cases hf
  · rcases List.mem_cons.mp hf with rfl | hf
    · rfl
    · obtain ⟨⟨name, definition⟩, -, hsub⟩ := List.mem_filterMap.mp hf
      obtain ⟨subtype, -, rfl⟩ := Option.map_eq_some_iff.mp hsub
      rfl

/-! ## Aliases -/

/-- Where an alias property points, if it says so with a string. -/
def target? (definition : Json) : Option String :=
  if typeName? definition = some "alias" then (definition.get? "path").bind Json.string? else none

/-- An alias property with the path it points at. -/
def IsAlias (tree : List (String × Json)) (x : Spot) (target : String) : Prop :=
  Reaches tree x ∧ target? x.self.definition = some target

def aliasSpots (tree : List (String × Json)) : List (Spot × String) :=
  (spots tree).filterMap fun x => (target? x.self.definition).map (x, ·)

theorem children?_of_target? {target : String} (h : target? definition = some target) :
    children? definition = none := by
  rw [target?] at h
  split at h
  · rename_i htype
    rw [children?, htype]
    rfl
  · cases h

theorem mem_aliasSpots {target : String} :
    (x, target) ∈ aliasSpots tree ↔ IsAlias tree x target := by
  rw [aliasSpots, List.mem_filterMap, IsAlias]
  constructor
  · rintro ⟨y, hy, htarget⟩
    obtain ⟨found, hfound, heq⟩ := Option.map_eq_some_iff.mp htarget
    obtain ⟨rfl, rfl⟩ := Prod.mk.inj heq
    exact ⟨(mem_spots.mp hy).1, hfound⟩
  · rintro ⟨hx, htarget⟩
    refine ⟨x, mem_spots.mpr ⟨hx, children?_of_target? htarget⟩, ?_⟩
    rw [htarget]
    rfl

theorem pairwise_aliasSpots (tree : List (String × Json)) :
    (aliasSpots tree).Pairwise fun a b => a.1.address < b.1.address := by
  rw [aliasSpots]
  refine List.Pairwise.filterMap _ ?_ (diverge_spots tree)
  intro x y hdiverge a ha b hb
  obtain ⟨_, -, rfl⟩ := Option.map_eq_some_iff.mp ha
  obtain ⟨_, -, rfl⟩ := Option.map_eq_some_iff.mp hb
  exact hdiverge.lt

theorem plainProperty_aliases (path : String) (nested : Option String) (definition : Json) :
    (plainProperty path nested definition).aliases =
      ((target? definition).map (path, ·)).toList := by
  rw [plainProperty, target?]
  split
  · rename_i htype
    rw [htype]
    rfl
  · rename_i htype
    rw [htype, if_pos rfl]
    cases (definition.get? "path").bind Json.string? <;> rfl
  · rename_i name hother htype
    rw [htype, if_neg (by simpa using hother)]
    cases FieldType.ofDocumentName? name <;> rfl

theorem aliases_tree (tree : List (String × Json)) :
    (properties "" none tree).aliases =
      (aliasSpots tree).map fun (x, target) => (x.path, target) := by
  rw [part_tree Flattened.aliases rfl (fun _ _ => rfl), aliasSpots, List.map_filterMap]
  rw [List.filterMap_eq_flatMap_toList]
  refine List.flatMap_congr fun x _ => ?_
  rw [plainAt_eq, plainProperty_aliases]
  cases target? x.self.definition <;> rfl

end Searchlight.Field.Document
