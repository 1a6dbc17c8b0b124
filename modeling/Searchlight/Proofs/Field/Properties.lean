import Mathlib.Data.List.Basic
import Searchlight.Field.Document

/-!
# Properties and where they stand

A property of a mapping document stands inside other properties, objects and nested ones,
each at some place among its siblings. What matters about it besides its definition is
what it stands in: from that come its dotted path and its nested scope. The places from
the outermost property inwards are its address, and addresses in lexicographic order are
document order.
-/

namespace Searchlight.Field.Document

/-- A property: its place among its siblings, its name and what defines it. -/
structure Property where
  place : Nat
  name : String
  definition : Json

/-- A property with all those that it stands in, the outermost one first. -/
structure Spot where
  outer : List Property
  self : Property

namespace Spot

def path (x : Spot) : String :=
  String.intercalate "." ((x.outer ++ [x.self]).map Property.name)

def address (x : Spot) : List Nat :=
  (x.outer ++ [x.self]).map Property.place

/-- The same spot inside one more property. -/
def inside (p : Property) (x : Spot) : Spot := ⟨p :: x.outer, x.self⟩

end Spot

/-- The properties inside an object or a nested property. No other property has any, whatever it
lists. -/
def children? (definition : Json) : Option (List (String × Json)) :=
  match typeName? definition with
  | none | some "object" | some "nested" => (definition.get? "properties").bind Json.members?
  | some _ => none

/-- Whether a property is one of those listed, at its place. -/
def Property.IsAmong (p : Property) (tree : List (String × Json)) : Prop :=
  tree[p.place]? = some (p.name, p.definition)

/-- From a property to itself, and on through objects and nested properties. -/
inductive Leads : Property → Spot → Prop
  | self (p : Property) : Leads p ⟨[], p⟩
  | inside {p q : Property} {children : List (String × Json)} {x : Spot}
      (hchildren : children? p.definition = some children) (hq : q.IsAmong children)
      (hx : Leads q x) : Leads p (x.inside p)

/-- A property of a tree, at any depth. -/
def Reaches (tree : List (String × Json)) (x : Spot) : Prop :=
  ∃ p : Property, p.IsAmong tree ∧ Leads p x

variable {tree children : List (String × Json)} {definition : Json} {p : Property} {x : Spot}

/-! ## Siblings -/

def siblings (tree : List (String × Json)) : List Property :=
  tree.zipIdx.map fun ((name, definition), place) => ⟨place, name, definition⟩

theorem mem_siblings : p ∈ siblings tree ↔ p.IsAmong tree := by
  rw [siblings, List.mem_map]
  constructor
  · rintro ⟨⟨⟨name, definition⟩, place⟩, hmem, rfl⟩
    exact List.mem_zipIdx_iff_getElem?.mp hmem
  · intro h
    exact ⟨((p.name, p.definition), p.place), List.mem_zipIdx_iff_getElem?.mpr h, rfl⟩

theorem pairwise_siblings (tree : List (String × Json)) :
    (siblings tree).Pairwise fun p q => p.place < q.place := by
  have hplaces : (siblings tree).map Property.place = List.range tree.length := by
    rw [siblings, List.map_map, List.range_eq_range', ← List.zipIdx_map_snd 0 tree]
    rfl
  rw [← List.pairwise_map, hplaces]
  exact List.pairwise_lt_range

theorem map_siblings (tree : List (String × Json)) :
    (siblings tree).map (fun p => (p.name, p.definition)) = tree := by
  rw [siblings, List.map_map]
  exact List.zipIdx_map_fst 0 tree

theorem flatMap_siblings {α : Type} (tree : List (String × Json)) (f : String × Json → List α) :
    tree.flatMap f = (siblings tree).flatMap fun p => f (p.name, p.definition) := by
  conv_lhs => rw [← map_siblings tree, List.flatMap_map]

theorem filterMap_siblings {α : Type} (tree : List (String × Json))
    (f : String × Json → Option α) :
    tree.filterMap f = (siblings tree).filterMap fun p => f (p.name, p.definition) := by
  conv_lhs => rw [← map_siblings tree, List.filterMap_map]
  rfl

theorem sizeOf_lt_of_children (hchildren : children? definition = some children)
    (hp : p ∈ siblings children) : sizeOf p.definition < sizeOf definition := by
  have hproperties : (definition.get? "properties").bind Json.members? = some children := by
    rw [children?] at hchildren
    split at hchildren <;> first | exact hchildren | cases hchildren
  obtain ⟨value, hvalue, hmembers⟩ := Option.bind_eq_some_iff.mp hproperties
  cases value with
  | object inner =>
      obtain rfl := Option.some.inj hmembers
      cases definition with
      | object members =>
          obtain ⟨before, after, hsplit, -⟩ := List.lookup_eq_some_iff.mp hvalue
          have hmem : ("properties", Json.object inner) ∈ members := by simp [hsplit]
          have hlist := List.sizeOf_lt_of_mem hmem
          have hitem := List.sizeOf_lt_of_mem (List.mem_of_getElem? (mem_siblings.mp hp))
          simp only [Json.object.sizeOf_spec, Prod.mk.sizeOf_spec] at hlist hitem ⊢
          omega
      | _ => cases hvalue
  | _ => cases hmembers

/-! ## Properties in document order -/

/-- A property that contains no others, or those that it contains. -/
def spotsAt (p : Property) : List Spot :=
  match h : children? p.definition with
  | none => [⟨[], p⟩]
  | some children =>
    (siblings children).attach.flatMap fun ⟨q, hq⟩ =>
      have := sizeOf_lt_of_children h hq
      (spotsAt q).map (Spot.inside p)
termination_by sizeOf p.definition

/-- The properties of a tree that contain no others. -/
def spots (tree : List (String × Json)) : List Spot := (siblings tree).flatMap spotsAt

theorem spotsAt_leaf (h : children? p.definition = none) : spotsAt p = [⟨[], p⟩] := by
  rw [spotsAt]
  split
  · rfl
  · rename_i hchildren
    cases h.symm.trans hchildren

theorem spotsAt_inner (h : children? p.definition = some children) :
    spotsAt p = (spots children).map (Spot.inside p) := by
  rw [spotsAt]
  split
  · rename_i hnone
    cases h.symm.trans hnone
  · rename_i found hchildren
    obtain rfl := Option.some.inj (h.symm.trans hchildren)
    rw [spots, List.map_flatMap]
    simp

/-- What holds of a property that contains no others, and of one if it holds of those it
contains. -/
theorem property_induction {motive : Property → Prop}
    (leaf : ∀ p, children? p.definition = none → motive p)
    (inner : ∀ p children, children? p.definition = some children →
      (∀ q ∈ siblings children, motive q) → motive p) (p : Property) : motive p := by
  induction hn : sizeOf p.definition using Nat.strongRecOn generalizing p with
  | _ n ih =>
      cases h : children? p.definition with
      | none => exact leaf p h
      | some children =>
          refine inner p children h fun q hq => ih _ ?_ q rfl
          exact hn ▸ sizeOf_lt_of_children h hq

theorem mem_spotsAt : x ∈ spotsAt p ↔ Leads p x ∧ children? x.self.definition = none := by
  induction p using property_induction generalizing x with
  | leaf p h =>
      rw [spotsAt_leaf h, List.mem_singleton]
      constructor
      · rintro rfl
        exact ⟨.self p, h⟩
      · rintro ⟨hx, -⟩
        cases hx with
        | self => rfl
        | inside hchildren => cases h.symm.trans hchildren
  | inner p children h ih =>
      rw [spotsAt_inner h, List.mem_map]
      constructor
      · rintro ⟨y, hy, rfl⟩
        obtain ⟨q, hq, hy⟩ := List.mem_flatMap.mp hy
        obtain ⟨hy, hleaf⟩ := (ih q hq).mp hy
        exact ⟨.inside h (mem_siblings.mp hq) hy, hleaf⟩
      · rintro ⟨hx, hleaf⟩
        cases hx with
        | self => cases h.symm.trans hleaf
        | inside hchildren hq hy =>
            obtain rfl := Option.some.inj (h.symm.trans hchildren)
            have hq := mem_siblings.mpr hq
            exact ⟨_, List.mem_flatMap.mpr ⟨_, hq, (ih _ hq).mpr ⟨hy, hleaf⟩⟩, rfl⟩

/-- The spots of a tree are all properties in it that contain no others. -/
theorem mem_spots : x ∈ spots tree ↔ Reaches tree x ∧ children? x.self.definition = none := by
  simp only [spots, List.mem_flatMap, mem_siblings, mem_spotsAt, Reaches]
  constructor
  · rintro ⟨p, hp, hx, hleaf⟩
    exact ⟨⟨p, hp, hx⟩, hleaf⟩
  · rintro ⟨⟨p, hp, hx⟩, hleaf⟩
    exact ⟨p, hp, hx, hleaf⟩

/-! ## Document order -/

/-- Behind what they have in common, the first address goes on at a lesser place. Neither is the
beginning of the other, so this stays whatever is added behind them. -/
inductive Diverge : List Nat → List Nat → Prop
  | here {i j : Nat} (h : i < j) (a b : List Nat) : Diverge (i :: a) (j :: b)
  | behind (i : Nat) {a b : List Nat} (h : Diverge a b) : Diverge (i :: a) (i :: b)

theorem Diverge.append {a b : List Nat} (h : Diverge a b) (c d : List Nat) :
    Diverge (a ++ c) (b ++ d) := by
  induction h with
  | here h a b => exact .here h _ _
  | behind i h ih => exact .behind i ih

theorem Diverge.lt {a b : List Nat} (h : Diverge a b) : a < b := by
  induction h with
  | here h a b => exact .rel h
  | behind i h ih => exact .cons ih

theorem Leads.address_eq (h : Leads p x) : ∃ rest, x.address = p.place :: rest := by
  cases h with
  | self => exact ⟨[], rfl⟩
  | inside => exact ⟨_, rfl⟩

/-- Spots of different siblings diverge at the siblings. -/
theorem diverge_of_siblings
    (h : ∀ p ∈ siblings tree,
      (spotsAt p).Pairwise fun x y => Diverge x.address y.address) :
    (spots tree).Pairwise fun x y => Diverge x.address y.address := by
  rw [spots, List.pairwise_flatMap]
  refine ⟨h, (pairwise_siblings tree).imp ?_⟩
  intro p q hlt x hx y hy
  obtain ⟨restx, hx⟩ := (mem_spotsAt.mp hx).1.address_eq
  obtain ⟨resty, hy⟩ := (mem_spotsAt.mp hy).1.address_eq
  rw [hx, hy]
  exact .here hlt restx resty

theorem diverge_spotsAt (p : Property) :
    (spotsAt p).Pairwise fun x y => Diverge x.address y.address := by
  induction p using property_induction with
  | leaf p h =>
      rw [spotsAt_leaf h]
      exact List.pairwise_singleton _ _
  | inner p children h ih =>
      rw [spotsAt_inner h, List.pairwise_map]
      exact (diverge_of_siblings ih).imp (.behind p.place)

/-- Spots stand in document order. -/
theorem diverge_spots (tree : List (String × Json)) :
    (spots tree).Pairwise fun x y => Diverge x.address y.address :=
  diverge_of_siblings fun p _ => diverge_spotsAt p

end Searchlight.Field.Document
