import Mathlib.Data.List.Basic
import Searchlight.Query.Document

/-!
# Redundant members

Normalizing leaves a value alone just if no object in it has a redundant member.
Redundant members that are added to the objects of a value, anywhere and at any
depth, make no difference to what it is normalized to.
-/

namespace Searchlight.Json

/-- Flags of the engine that do not change what a document asks for. -/
def scoringFlags : List String := ["disable_coord", "adjust_pure_negative"]

theorem isRedundant_iff {name : String} {v : Json} :
    isRedundant name v = true ↔
      name ∈ scoringFlags ∨ name = "boost" ∧ v.isOne = true := by
  simp [isRedundant, scoringFlags, or_assoc]

/-- No object of a value has a redundant member, at any depth. -/
inductive Clean : Json → Prop
  | null : Clean .null
  | bool (b : Bool) : Clean (.bool b)
  | integer (n : Int) : Clean (.integer n)
  | float (x : Double) : Clean (.float x)
  | string (s : String) : Clean (.string s)
  | array {items : List Json} (h : ∀ v ∈ items, Clean v) : Clean (.array items)
  | object {members : List (String × Json)}
      (hnames : ∀ m ∈ members, isRedundant m.1 m.2 = false)
      (h : ∀ m ∈ members, Clean m.2) : Clean (.object members)

theorem clean_array {items : List Json} :
    (array items).Clean ↔ ∀ v ∈ items, v.Clean := by
  refine ⟨fun h => ?_, .array⟩
  cases h with
  | array h => exact h

theorem clean_object {members : List (String × Json)} :
    (object members).Clean ↔
      (∀ m ∈ members, isRedundant m.1 m.2 = false) ∧ ∀ m ∈ members, m.2.Clean := by
  refine ⟨fun h => ?_, fun ⟨hnames, h⟩ => .object hnames h⟩
  cases h with
  | object hnames h => exact ⟨hnames, h⟩

/-! ## Normalized values -/

theorem normalizeItems_eq : ∀ items, normalizeItems items = items.map normalize
  | [] => rfl
  | v :: items => by rw [normalizeItems, normalizeItems_eq items, List.map_cons]

theorem isOne_normalize (v : Json) : v.normalize.isOne = v.isOne := by
  cases v <;> rfl

/-- Whether a member is redundant depends on nothing that is normalized. -/
theorem isRedundant_congr {v w : Json} (h : v.isOne = w.isOne) (name : String) :
    isRedundant name v = isRedundant name w := by
  rw [isRedundant, isRedundant, h]

mutual

theorem clean_normalize : ∀ v : Json, v.normalize.Clean
  | null => .null
  | bool b => .bool b
  | integer n => .integer n
  | float x => .float x
  | string s => .string s
  | array items => by
      rw [normalize]
      exact .array (clean_normalizeItems items)
  | object members => by
      rw [normalize]
      exact .object (fun m hm => (clean_normalizeMembers members m hm).1)
        fun m hm => (clean_normalizeMembers members m hm).2

theorem clean_normalizeItems : ∀ items : List Json,
    ∀ v ∈ normalizeItems items, v.Clean
  | [] => by simp [normalizeItems]
  | v :: items => by
      rw [normalizeItems]
      exact List.forall_mem_cons.mpr ⟨clean_normalize v, clean_normalizeItems items⟩

theorem clean_normalizeMembers : ∀ members : List (String × Json),
    ∀ m ∈ normalizeMembers members, isRedundant m.1 m.2 = false ∧ m.2.Clean
  | [] => by simp [normalizeMembers]
  | (name, v) :: members => by
      rw [normalizeMembers]
      split
      · exact clean_normalizeMembers members
      · rename_i hname
        refine List.forall_mem_cons.mpr ⟨⟨?_, clean_normalize v⟩,
          clean_normalizeMembers members⟩
        rw [isRedundant_congr (isOne_normalize v)]
        simpa using hname

end

theorem normalizeMembers_eq_self : ∀ {members : List (String × Json)},
    (∀ m ∈ members, isRedundant m.1 m.2 = false) →
      (∀ m ∈ members, m.2.normalize = m.2) → normalizeMembers members = members
  | [], _, _ => rfl
  | (name, v) :: members, hnames, h => by
      obtain ⟨hname, hnames⟩ := List.forall_mem_cons.mp hnames
      obtain ⟨hv, h⟩ := List.forall_mem_cons.mp h
      rw [normalizeMembers, if_neg (by simpa using hname), hv,
        normalizeMembers_eq_self hnames h]

theorem Clean.normalize_eq {v : Json} (h : v.Clean) : v.normalize = v := by
  induction h with
  | null | bool | integer | float | string => rfl
  | array _ ih =>
      rw [normalize, normalizeItems_eq, List.map_congr_left ih, List.map_id']
  | object hnames _ ih => rw [normalize, normalizeMembers_eq_self hnames ih]

theorem normalize_eq_self {v : Json} : v.normalize = v ↔ v.Clean :=
  ⟨fun h => h ▸ clean_normalize v, Clean.normalize_eq⟩

/-! ## Members that are added -/

mutual

/-- The second value is the first one with redundant members added. -/
inductive Padded : Json → Json → Prop
  | refl (v : Json) : Padded v v
  | array {items items' : List Json} :
      PaddedItems items items' → Padded (array items) (array items')
  | object {members members' : List (String × Json)} :
      PaddedMembers members members' → Padded (object members) (object members')

inductive PaddedItems : List Json → List Json → Prop
  | nil : PaddedItems [] []
  | cons {v w : Json} {items items' : List Json} :
      Padded v w → PaddedItems items items' → PaddedItems (v :: items) (w :: items')

inductive PaddedMembers : List (String × Json) → List (String × Json) → Prop
  | nil : PaddedMembers [] []
  | member (name : String) {v w : Json} {members members' : List (String × Json)} :
      Padded v w → PaddedMembers members members' →
        PaddedMembers ((name, v) :: members) ((name, w) :: members')
  | redundant {name : String} {v : Json} {members members' : List (String × Json)} :
      isRedundant name v = true → PaddedMembers members members' →
        PaddedMembers members ((name, v) :: members')

end

theorem Padded.isOne_eq {v w : Json} (h : Padded v w) : w.isOne = v.isOne := by
  cases h <;> rfl

mutual

/-- **Redundant members make no difference to what a value is normalized to.** -/
theorem Padded.normalize_eq : ∀ {v w : Json}, Padded v w → w.normalize = v.normalize
  | _, _, .refl _ => rfl
  | _, _, .array h => by rw [normalize, normalize, h.normalize_eq]
  | _, _, .object h => by rw [normalize, normalize, h.normalize_eq]

theorem PaddedItems.normalize_eq : ∀ {items items' : List Json},
    PaddedItems items items' → normalizeItems items' = normalizeItems items
  | _, _, .nil => rfl
  | _, _, .cons h hs => by
      rw [normalizeItems, normalizeItems, h.normalize_eq, hs.normalize_eq]

theorem PaddedMembers.normalize_eq : ∀ {members members' : List (String × Json)},
    PaddedMembers members members' →
      normalizeMembers members' = normalizeMembers members
  | _, _, .nil => rfl
  | _, _, .member name h hs => by
      rw [normalizeMembers, normalizeMembers, h.normalize_eq, hs.normalize_eq,
        isRedundant_congr h.isOne_eq]
  | _, _, .redundant hname hs => by
      rw [normalizeMembers, if_pos hname, hs.normalize_eq]

end

/-- A value is what it is normalized to with redundant members, just if it has
none itself. -/
theorem normalize_padded_iff {v : Json} :
    (∀ w, Padded v w → w.normalize = v) ↔ v.Clean := by
  constructor
  · intro h
    exact normalize_eq_self.mp (h v (.refl v))
  · intro h w hw
    rw [hw.normalize_eq, h.normalize_eq]

end Searchlight.Json
