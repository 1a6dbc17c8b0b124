import Searchlight.Proofs.Config.Warnings

/-!
# Aliases that lead elsewhere

The check follows the aliases with a table of owners of its own: the names first, then
every alias that has no owner yet. That table and the lookup of names agree, so the check
reports an alias of a mapping exactly if looking the alias up finds another mapping, and
it names that one.
-/

namespace Searchlight

namespace Config

variable {owners : List (String × String)} {field name other : String}
  {aliases : List String} {fields : List FieldMapping} {m : Mappings}
  {default : Option String}

/-! ## Owners -/

/-- The warning about an alias, given the owner it has in the end. -/
def collision? (field name : String) (owner : Option String) : Option Warning :=
  owner.bind fun other =>
    if other = field then none else some (.aliasCollision name field other)

/-- An alias that belongs to its own field collides with nothing. -/
theorem collision?_self (field name : String) : collision? field name (some field) = none :=
  if_pos rfl

theorem collision?_eq_some {w : Warning} {owner : Option String} :
    collision? field name owner = some w ↔
      ∃ other, owner = some other ∧ other ≠ field ∧ w = .aliasCollision name field other := by
  rw [collision?, Option.bind_eq_some_iff]
  refine exists_congr fun other => and_congr_right fun _ => ?_
  by_cases h : other = field
  · simp [h]
  · simp [h, eq_comm]

/-- A field gets the aliases of it that have no owner. -/
theorem lookup_claimAliases (field : String) (owners : List (String × String))
    (aliases : List String) (name : String) :
    (claimAliases field owners aliases).1.lookup name =
      (owners.lookup name).or (if name ∈ aliases then some field else none) := by
  induction aliases generalizing owners with
  | nil => simp [claimAliases]
  | cons a rest ih =>
      rw [claimAliases]
      split
      · rename_i hnone
        rw [ih, List.lookup_cons]
        by_cases h : name = a
        · simp [h, hnone]
        · simp [h, beq_eq_false_iff_ne.mpr h]
      · rename_i other hsome
        show (claimAliases field owners rest).1.lookup name = _
        rw [ih]
        by_cases h : name = a
        · simp [h, hsome]
        · simp [h]

/-- What goes to a field while its aliases are gone through collides with nothing, so the owners
before that tell which aliases collide. -/
theorem warnings_claimAliases (field : String) (owners : List (String × String))
    (aliases : List String) :
    (claimAliases field owners aliases).2 =
      aliases.filterMap fun name => collision? field name (owners.lookup name) := by
  induction aliases generalizing owners with
  | nil => rfl
  | cons a rest ih =>
      rw [claimAliases]
      split
      · rename_i hnone
        have hrest (name : String) : collision? field name (((a, field) :: owners).lookup name) =
            collision? field name (owners.lookup name) := by
          rw [List.lookup_cons]
          by_cases h : name = a
          · rw [h, beq_self_eq_true, collision?_self, hnone]
            rfl
          · rw [beq_eq_false_iff_ne.mpr h]
        rw [ih, List.filterMap_cons_none (by rw [hnone]; rfl)]
        simp only [hrest]
      · rename_i other hsome
        show (if other = field then _ else _) = _
        split
        · rename_i hsame
          rw [ih, List.filterMap_cons_none (by rw [hsome, hsame]; exact collision?_self field a)]
        · rename_i hne
          have hhere :
              collision? field a (owners.lookup a) = some (.aliasCollision a field other) :=
            collision?_eq_some.mpr ⟨other, hsome, hne, rfl⟩
          rw [ih, List.filterMap_cons, hhere]

/-- The owners in the end decide, although the aliases are gone through one by one: a name that has
an owner keeps it, and one that gets its owner late has the first field that lists it. -/
theorem claimAll_eq (owners : List (String × String)) (fields : List FieldMapping) :
    claimAll owners fields = fields.flatMap fun f => f.aliases.filterMap fun name =>
      collision? f.name name ((owners.lookup name).or
        ((fields.find? fun g => name ∈ g.aliases).map (·.name))) := by
  induction fields generalizing owners with
  | nil => rfl
  | cons f rest ih =>
      have hlater (name : String) : ((claimAliases f.name owners f.aliases).1.lookup name).or
            ((rest.find? fun g => name ∈ g.aliases).map (·.name)) =
          (owners.lookup name).or
            (((f :: rest).find? fun g => name ∈ g.aliases).map (·.name)) := by
        rw [lookup_claimAliases, Option.or_assoc, List.find?_cons]
        by_cases h : name ∈ f.aliases <;> simp [h]
      have hhere : ∀ name ∈ f.aliases, collision? f.name name (owners.lookup name) =
          collision? f.name name ((owners.lookup name).or
            (((f :: rest).find? fun g => name ∈ g.aliases).map (·.name))) := by
        intro name hname
        rw [List.find?_cons_of_pos (by simpa using hname)]
        cases owners.lookup name with
        | none => exact (collision?_self f.name name).symm
        | some other => rfl
      show (claimAliases f.name owners f.aliases).2 ++
        claimAll (claimAliases f.name owners f.aliases).1 rest = _
      rw [warnings_claimAliases, List.flatMap_cons, ih, List.filterMap_congr hhere]
      simp only [hlater]

/-! ## Owners and lookup -/

theorem lookup_owners (fields : List FieldMapping) (name : String) :
    (fields.map fun f => (f.name, f.name)).lookup name =
      (fields.find? fun f => f.name = name).map (·.name) := by
  rw [← Mappings.lookup_names]
  induction fields with
  | nil => rfl
  | cons f rest ih =>
      rw [List.map_cons, List.map_cons, List.lookup_cons, List.lookup_cons, ih]
      cases name == f.name <;> rfl

/-- In the end every name belongs to the mapping that looking it up finds. -/
theorem aliasCollisions_eq (m : Mappings) :
    aliasCollisions m = m.fields.flatMap fun f => f.aliases.filterMap fun name =>
      collision? f.name name ((m.lookup name).map (·.name)) := by
  simp only [aliasCollisions, claimAll_eq, lookup_owners, Mappings.lookup_eq, Option.map_or]

theorem mem_aliasCollisions {w : Warning} :
    w ∈ aliasCollisions m ↔ ∃ f ∈ m.fields, ∃ name ∈ f.aliases, ∃ g,
      m.lookup name = some g ∧ g.name ≠ f.name ∧ w = .aliasCollision name f.name g.name := by
  simp [aliasCollisions_eq, collision?_eq_some]

/-- Only the walk through the aliases reports collisions. -/
theorem collision_mem_warnings :
    .aliasCollision name field other ∈ warnings default m ↔
      .aliasCollision name field other ∈ aliasCollisions m := by
  rw [mem_warnings_iff (by simp) (by simp)]
  refine or_iff_left ?_
  rintro ⟨f, -, hf⟩
  rcases mem_fieldWarnings.mp hf with ⟨_, -, -, h⟩ | ⟨_, -, -, h⟩ <;> cases h

end Config

open Config

/-- **The check and the lookup agree on aliases.** Whatever mappings are given, those kept are the
first of their names, a name finds the kept mapping of that name and else the first one that lists
it, and the check reports an alias exactly if it does not lead to the mapping that lists it. The
other field it names is the one that the alias leads to. -/
theorem collisions_agree_with_lookup (c : Config) (fields : List FieldMapping) :
    let m := Mappings.ofFields fields
    let reports := warnings c.index.defaultField m
    m.fields = Mappings.firstOfName fields ∧
      (∀ name, m.lookup name =
        (m.fields.find? fun f => f.name = name).or
          (m.fields.find? fun f => name ∈ f.aliases)) ∧
      ∀ f ∈ m.fields, ∀ name ∈ f.aliases,
        ((∃ other, .aliasCollision name f.name other ∈ reports) ↔ m.lookup name ≠ some f) ∧
          ∀ other, .aliasCollision name f.name other ∈ reports ↔
            ∃ g, m.lookup name = some g ∧ g ≠ f ∧ g.name = other := by
  intro m reports
  have hother : ∀ f ∈ m.fields, ∀ name ∈ f.aliases, ∀ other,
      Warning.aliasCollision name f.name other ∈ reports ↔
        ∃ g, m.lookup name = some g ∧ g ≠ f ∧ g.name = other := by
    intro f hf name hname other
    rw [collision_mem_warnings, mem_aliasCollisions]
    constructor
    · rintro ⟨f', -, name', -, g, hg, hne, heq⟩
      obtain ⟨rfl, hfield, rfl⟩ := Warning.aliasCollision.inj heq
      exact ⟨g, hg, fun h => hne (h ▸ hfield), rfl⟩
    · rintro ⟨g, hg, hne, rfl⟩
      refine ⟨f, hf, name, hname, g, hg, ?_, rfl⟩
      intro hsame
      exact hne (Mappings.eq_of_name_eq (Mappings.mem_of_lookup hg) hf hsame)
  refine ⟨Mappings.fields_ofFields fields, Mappings.lookup_eq m, ?_⟩
  intro f hf name hname
  refine ⟨?_, hother f hf name hname⟩
  -- an alias of a kept mapping always finds something
  obtain ⟨g, hg⟩ : ∃ g, m.lookup name = some g := Mappings.exists_of_mem_aliases hf hname
  constructor
  · rintro ⟨other, hreport⟩ hlookup
    obtain ⟨g, hg, hne, -⟩ := (hother f hf name hname other).mp hreport
    exact hne (Option.some.inj (hg.symm.trans hlookup))
  · intro hlookup
    exact ⟨g.name, (hother f hf name hname _).mpr ⟨g, hg, fun h => hlookup (h ▸ hg), rfl⟩⟩

/-- An alias that is the name of a field, one that two fields list, and a mapping that is dropped
with its alias. -/
theorem collisions_agree_with_lookup_shared :
    let title : FieldMapping := { name := "title", path := "t", type := .text, aliases := ["name"] }
    let name : FieldMapping := { name := "name", path := "n", type := .keyword }
    let second : FieldMapping := { title with path := "t2", aliases := ["caption", "heading"] }
    let subject : FieldMapping :=
      { name := "subject", path := "s", type := .text, aliases := ["heading", "topic"] }
    let caption : FieldMapping :=
      { name := "caption", path := "c", type := .text, aliases := ["heading", "caption"] }
    let m := Mappings.ofFields [title, name, second, subject, caption]
    m.fields = [title, name, subject, caption] ∧
      (.aliasCollision "name" "title" "name" ∈ warnings none m ∧ m.lookup "name" = some name) ∧
      (.aliasCollision "heading" "caption" "subject" ∈ warnings none m ∧
        m.lookup "heading" = some subject) ∧
      ¬∃ other, .aliasCollision "topic" "subject" other ∈ warnings none m := by
  intro title name second subject caption m
  have hfields : m.fields = [title, name, subject, caption] := by decide
  obtain ⟨-, -, hagree⟩ :=
    collisions_agree_with_lookup {} [title, name, second, subject, caption]
  have hname : m.lookup "name" = some name := by decide
  have hheading : m.lookup "heading" = some subject := by decide
  have htopic : m.lookup "topic" = some subject := by decide
  refine ⟨hfields, ⟨?_, hname⟩, ⟨?_, hheading⟩, ?_⟩
  · exact ((hagree title (by decide) "name" (by decide)).2 "name").mpr
      ⟨name, hname, by decide, rfl⟩
  · exact ((hagree caption (by decide) "heading" (by decide)).2 "subject").mpr
      ⟨subject, hheading, by decide, rfl⟩
  · intro h
    exact (hagree subject (by decide) "topic" (by decide)).1.mp h htopic

end Searchlight
