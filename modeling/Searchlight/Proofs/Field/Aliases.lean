import Searchlight.Proofs.Config.Collision
import Searchlight.Proofs.Field.Flattening

/-!
# The fields of a mapping document

The aliases of a document go one by one to the first field that has the path they point
at, so in the end each such field has the aliases that point at its path, in document
order, and no other field has any. An alias that points at no field is the only thing
that can be wrong with a document that has properties at all.
-/

namespace Searchlight

namespace Field.Document

variable {tree : List (String × Json)} {entries : List (String × String)} {seen : List String}
  {fields : List FieldMapping} {name target : String}

/-! ## The top of a document -/

/-- The properties at the top of a document, which may be wrapped in `mappings`: its own, or else
those of the only thing in it. -/
def IsTop (document : Json) (top : List (String × Json)) : Prop :=
  let mappings := (document.get? "mappings").getD document
  mappings.get? "properties" = some (.object top) ∨
    (∀ own, mappings.get? "properties" ≠ some (.object own)) ∧
      ∃ name only, mappings = .object [(name, only)] ∧
        only.get? "properties" = some (.object top)

theorem bind_members?_eq_some {value : Option Json} {members : List (String × Json)} :
    value.bind Json.members? = some members ↔ value = some (.object members) := by
  rw [Option.bind_eq_some_iff]
  constructor
  · rintro ⟨value, rfl, hmembers⟩
    cases value with
    | object found => rw [Option.some.inj hmembers]
    | _ => cases hmembers
  · rintro rfl
    exact ⟨_, rfl, rfl⟩

theorem rootProperties?_eq_some_iff {document : Json} {top : List (String × Json)} :
    rootProperties? document = some top ↔ IsTop document top := by
  simp only [rootProperties?, IsTop]
  generalize (document.get? "mappings").getD document = mappings
  cases hown : (mappings.get? "properties").bind Json.members? with
  | some own => simp [bind_members?_eq_some.mp hown, eq_comm]
  | none =>
      have hnot (own : List (String × Json)) : mappings.get? "properties" ≠ some (.object own) := by
        intro h
        cases hown.symm.trans (bind_members?_eq_some.mpr h)
      rw [or_iff_right (hnot top), and_iff_right hnot]
      constructor
      · intro h
        dsimp only at h
        split at h
        · rename_i name only
          exact ⟨name, only, rfl, bind_members?_eq_some.mp h⟩
        · cases h
      · rintro ⟨name, only, rfl, hproperties⟩
        exact bind_members?_eq_some.mpr hproperties

/-! ## Attaching aliases -/

/-- The names that point at a path. -/
def pointingAt (path : String) (entries : List (String × String)) : List String :=
  (entries.filter fun (_, target) => target = path).map Prod.fst

/-- Fields with all aliases that point at them. The first field of a path is the one whose path is
not among those `seen` before. -/
def withAliases (entries : List (String × String)) (seen : List String) :
    List FieldMapping → List FieldMapping
  | [] => []
  | f :: rest =>
    (if f.path ∈ seen then f
      else { f with aliases := f.aliases ++ pointingAt f.path entries }) ::
        withAliases entries (f.path :: seen) rest

theorem withAliases_nil (seen : List String) (fields : List FieldMapping) :
    withAliases [] seen fields = fields := by
  induction fields generalizing seen with
  | nil => rfl
  | cons f rest ih => simp [withAliases, pointingAt, ih]

/-- Nothing is left to attach behind the first field of a path. -/
theorem withAliases_of_seen (h : target ∈ seen) :
    withAliases [(name, target)] seen fields = fields := by
  induction fields generalizing seen with
  | nil => rfl
  | cons f rest ih =>
      rw [withAliases, ih (List.mem_cons_of_mem _ h)]
      by_cases hseen : f.path ∈ seen
      · rw [if_pos hseen]
      · have hne : target ≠ f.path := fun heq => hseen (heq ▸ h)
        simp [hseen, pointingAt, hne]

theorem path_withAliases (entries : List (String × String)) (seen : List String)
    (fields : List FieldMapping) :
    (withAliases entries seen fields).map (·.path) = fields.map (·.path) := by
  induction fields generalizing seen with
  | nil => rfl
  | cons f rest ih =>
      rw [withAliases, List.map_cons, List.map_cons, ih]
      split <;> rfl

theorem withAliases_cons (entries : List (String × String)) (seen : List String)
    (fields : List FieldMapping) :
    withAliases entries seen (withAliases [(name, target)] seen fields) =
      withAliases ((name, target) :: entries) seen fields := by
  induction fields generalizing seen with
  | nil => rfl
  | cons f rest ih =>
      rw [withAliases, withAliases, withAliases]
      by_cases hseen : f.path ∈ seen
      · simp only [if_pos hseen, ih]
      · simp only [if_neg hseen, ih]
        by_cases htarget : target = f.path <;> simp [pointingAt, htarget]

theorem attach?_eq (h : target ∉ seen) :
    attach? name target fields =
      if target ∈ fields.map (·.path) then some (withAliases [(name, target)] seen fields)
      else none := by
  induction fields generalizing seen with
  | nil => rfl
  | cons f rest ih =>
      rw [attach?, withAliases]
      by_cases hpath : f.path = target
      · rw [if_pos hpath, if_pos (by simp [hpath]), withAliases_of_seen (by simp [hpath]),
          if_neg (hpath ▸ h)]
        simp [pointingAt, hpath]
      · have hkeep : (if f.path ∈ seen then f
            else { f with aliases := f.aliases ++ pointingAt f.path [(name, target)] }) = f := by
          split
          · rfl
          · simp [pointingAt, Ne.symm hpath]
        have hunseen : target ∉ f.path :: seen := by simp [h, Ne.symm hpath]
        rw [if_neg hpath, hkeep, ih hunseen]
        by_cases hmem : target ∈ rest.map (·.path) <;>
          simp only [List.map_cons, List.mem_cons, hmem, Ne.symm hpath, false_or, if_true, if_false,
            Option.map_some, Option.map_none]

/-- All aliases are attached if each of them points at a field. -/
theorem attachAll_eq_ok {result : List FieldMapping} :
    attachAll entries fields = .ok result ↔
      (∀ entry ∈ entries, entry.2 ∈ fields.map (·.path)) ∧
        result = withAliases entries [] fields := by
  induction entries generalizing fields with
  | nil => simp [attachAll, withAliases_nil, eq_comm]
  | cons entry entries ih =>
      obtain ⟨name, target⟩ := entry
      rw [attachAll, attach?_eq (List.not_mem_nil)]
      by_cases hmem : target ∈ fields.map (·.path)
      · rw [if_pos hmem]
        show attachAll entries _ = _ ↔ _
        rw [ih, path_withAliases, withAliases_cons, List.forall_mem_cons, and_iff_right hmem]
      · rw [if_neg hmem]
        constructor
        · intro h
          cases h
        · rintro ⟨hall, -⟩
          exact absurd (hall _ List.mem_cons_self) hmem

theorem exists_fault_attachAll :
    (∃ fault, attachAll entries fields = .error fault) ↔
      ∃ entry ∈ entries, entry.2 ∉ fields.map (·.path) := by
  constructor
  · rintro ⟨fault, h⟩
    by_contra hall
    push Not at hall
    cases h.symm.trans (attachAll_eq_ok.mpr ⟨hall, rfl⟩)
  · rintro ⟨entry, hentry, hmissing⟩
    cases h : attachAll entries fields with
    | error fault => exact ⟨fault, rfl⟩
    | ok result => exact absurd ((attachAll_eq_ok.mp h).1 entry hentry) hmissing

theorem getElem?_withAliases (hfresh : ∀ f ∈ fields, f.aliases = []) {i : Nat} {f : FieldMapping}
    (h : (withAliases entries seen fields)[i]? = some f) :
    f.aliases = if f.path ∈ seen ++ (fields.take i).map (·.path) then []
      else pointingAt f.path entries := by
  induction fields generalizing seen i with
  | nil => cases h
  | cons g rest ih =>
      obtain ⟨hg, hrest⟩ := List.forall_mem_cons.mp hfresh
      cases i with
      | zero =>
          obtain rfl := Option.some.inj h
          by_cases hseen : g.path ∈ seen <;> simp [hseen, hg]
      | succ i =>
          rw [ih hrest h]
          refine if_congr ?_ rfl rfl
          simp only [List.mem_append, List.mem_cons, List.take_succ_cons, List.map_cons]
          tauto

theorem describes_withAliases {spots : List Spot} (h : List.Forall₂ Describes spots fields)
    (entries : List (String × String)) (seen : List String) :
    List.Forall₂ Describes spots (withAliases entries seen fields) := by
  induction h generalizing seen with
  | nil => exact .nil
  | cons hf _ ih =>
      refine .cons ?_ (ih _)
      split
      · exact hf
      · exact ⟨hf.name, hf.path, hf.type, hf.analyzer, hf.nested⟩

/-! ## What flattening says -/

/-- Fields that say exactly what a tree of properties does: one for each property of a supported
type and for each of its multi-fields, in document order, and the aliases at the first fields of
the paths that they point at. -/
structure IsFlattening (tree : List (String × Json)) (fields : List FieldMapping) : Prop where
  described : ∃ spots : List Spot, (∀ x, x ∈ spots ↔ IsField tree x) ∧
    spots.Pairwise (fun x y => x.address < y.address) ∧ List.Forall₂ Describes spots fields
  aliases : ∃ entries : List (Spot × String),
    (∀ x target, (x, target) ∈ entries ↔ IsAlias tree x target) ∧
      entries.Pairwise (fun a b => a.1.address < b.1.address) ∧
        ∀ (i : Nat) (f : FieldMapping), fields[i]? = some f →
          f.aliases = if f.path ∈ (fields.take i).map (·.path) then []
            else (entries.filter fun (_, target) => target = f.path).map fun (x, _) => x.path
  pointed : ∀ x target, IsAlias tree x target → ∃ f ∈ fields, f.path = target

theorem paths_of_describes {spots : List Spot} (h : List.Forall₂ Describes spots fields) :
    fields.map (·.path) = spots.map Spot.path := by
  induction h with
  | nil => rfl
  | cons hf _ ih => rw [List.map_cons, List.map_cons, hf.path, ih]

theorem mem_paths {target : String} :
    target ∈ (properties "" none tree).fields.map (·.path) ↔
      ∃ x, IsField tree x ∧ x.path = target := by
  simp only [paths_of_describes (describes_fieldSpots tree), List.mem_map, mem_fieldSpots]

theorem isFlattening_of_attached {result : List FieldMapping}
    (h : attachAll (properties "" none tree).aliases (properties "" none tree).fields =
      .ok result) : IsFlattening tree result := by
  obtain ⟨hpointed, rfl⟩ := attachAll_eq_ok.mp h
  rw [aliases_tree] at hpointed ⊢
  refine ⟨⟨fieldSpots tree, fun _ => mem_fieldSpots, pairwise_fieldSpots tree,
    describes_withAliases (describes_fieldSpots tree) _ _⟩,
    ⟨aliasSpots tree, fun _ _ => mem_aliasSpots, pairwise_aliasSpots tree, ?_⟩, ?_⟩
  · intro i f hf
    rw [getElem?_withAliases (fun _ => aliases_properties) hf, List.map_take, List.map_take,
      path_withAliases, pointingAt, List.filter_map, List.map_map]
    rfl
  · intro x target halias
    have hmem := hpointed (x.path, target)
      (List.mem_map.mpr ⟨(x, target), mem_aliasSpots.mpr halias, rfl⟩)
    rw [← path_withAliases] at hmem
    obtain ⟨f, hf, hpath⟩ := List.mem_map.mp hmem
    exact ⟨f, hf, hpath⟩

theorem exists_describes {spots : List Spot} (h : List.Forall₂ Describes spots fields)
    {f : FieldMapping} (hf : f ∈ fields) : ∃ x, Describes x f := by
  induction h with
  | nil => cases hf
  | cons hx _ ih =>
      rcases List.mem_cons.mp hf with rfl | hf
      · exact ⟨_, hx⟩
      · exact ih hf

/-- What a field says about its nested path is never wrong. -/
theorem Describes.enclosed {x : Spot} {f : FieldMapping} (h : Describes x f) {nested : String}
    (hnested : f.nested = some nested) : (nested ++ ".").toList <+: f.path.toList := by
  have hscope := h.nested
  rw [hnested] at hscope
  obtain ⟨before, p, after, houter, -, -, rfl⟩ := hscope
  rw [h.path, show x = ⟨before ++ p :: after, x.self⟩ by rw [← houter]]
  exact path_leads before after p x.self

/-- The check finds the nested path wrong in none of the fields that a tree comes to. -/
theorem IsFlattening.not_mem_of_warning (h : IsFlattening tree fields) {default : Option String}
    {m : Mappings} {field nested path : String}
    (hw : .nestedNotPrefix field nested path ∈ Config.warnings default m) :
    ∃ g ∈ m.fields, g ∉ fields ∧ g.name = field ∧ g.nested = some nested ∧ g.path = path := by
  rcases (Config.mem_warnings_iff (by simp) (by simp)).mp hw with hw | ⟨g, hg, hw⟩
  · obtain ⟨_, -, _, -, _, -, -, heq⟩ := Config.mem_aliasCollisions.mp hw
    cases heq
  · rcases Config.mem_fieldWarnings.mp hw with ⟨nested, hnested, houtside, heq⟩ | ⟨_, -, -, heq⟩
    · obtain ⟨rfl, rfl, rfl⟩ := Config.Warning.nestedNotPrefix.inj heq
      refine ⟨g, hg, fun hmem => ?_, rfl, hnested, rfl⟩
      obtain ⟨spots, -, -, hdescribed⟩ := h.described
      obtain ⟨x, hx⟩ := exists_describes hdescribed hmem
      exact houtside (hx.enclosed hnested)
    · cases heq

variable {document : Json}

theorem fields_eq_ok (h : Field.Document.fields document = .ok fields) :
    ∃ top, IsTop document top ∧ IsFlattening top fields := by
  rw [Field.Document.fields] at h
  cases htop : rootProperties? document with
  | none =>
      rw [htop] at h
      cases h
  | some top =>
      rw [htop] at h
      exact ⟨top, rootProperties?_eq_some_iff.mp htop, isFlattening_of_attached h⟩

/-- A document fails for want of properties, or for an alias that points at no field. -/
theorem exists_fault_iff :
    (∃ fault, Field.Document.fields document = .error fault) ↔
      (¬∃ top, IsTop document top) ∨
        ∃ top x target, IsTop document top ∧ IsAlias top x target ∧
          ∀ y, IsField top y → y.path ≠ target := by
  simp only [Field.Document.fields, ← rootProperties?_eq_some_iff]
  cases rootProperties? document with
  | none => simp
  | some top =>
      show (∃ fault, attachAll _ _ = _) ↔ _
      rw [exists_fault_attachAll, or_iff_right (fun h => h ⟨top, rfl⟩)]
      constructor
      · rintro ⟨entry, hentry, hmissing⟩
        rw [aliases_tree] at hentry
        obtain ⟨⟨x, target⟩, halias, rfl⟩ := List.mem_map.mp hentry
        refine ⟨top, x, target, rfl, mem_aliasSpots.mp halias, ?_⟩
        intro y hy hpath
        exact hmissing (mem_paths.mpr ⟨y, hy, hpath⟩)
      · rintro ⟨_, x, target, heq, halias, hmissing⟩
        obtain rfl := Option.some.inj heq
        refine ⟨(x.path, target), ?_, ?_⟩
        · rw [aliases_tree]
          exact List.mem_map.mpr ⟨(x, target), mem_aliasSpots.mpr halias, rfl⟩
        · intro hmem
          obtain ⟨y, hy, hpath⟩ := mem_paths.mp hmem
          exact hmissing y hy hpath

/-- **A mapping document is flattened exactly.** Its fields are those of its properties, in document
order and with their aliases; each is named by its path, which its nested path encloses, so the
check never warns about that. A document has fields unless it has no properties at all or one of
its aliases points at no field. -/
theorem fields_flattened (document : Json) :
    (∀ flattened, Field.Document.fields document = .ok flattened →
      (∃ top, IsTop document top ∧ IsFlattening top flattened) ∧
        (∀ f ∈ flattened, f.name = f.path ∧
          ∀ nested, f.nested = some nested → (nested ++ ".").toList <+: f.path.toList) ∧
        ∀ default m field nested path,
          .nestedNotPrefix field nested path ∈ Config.warnings default m →
            ∃ g ∈ m.fields, g ∉ flattened ∧ g.name = field ∧ g.nested = some nested ∧
              g.path = path) ∧
    ((∃ fault, Field.Document.fields document = .error fault) ↔
      (¬∃ top, IsTop document top) ∨
        ∃ top x target, IsTop document top ∧ IsAlias top x target ∧
          ∀ y, IsField top y → y.path ≠ target) := by
  refine ⟨?_, exists_fault_iff⟩
  intro flattened h
  obtain ⟨top, htop, hflat⟩ := fields_eq_ok h
  refine ⟨⟨top, htop, hflat⟩, ?_, fun _ _ _ _ _ => hflat.not_mem_of_warning⟩
  intro f hf
  obtain ⟨spots, -, -, hdescribed⟩ := hflat.described
  obtain ⟨x, hx⟩ := exists_describes hdescribed hf
  exact ⟨hx.name.trans hx.path.symm, fun _ => hx.enclosed⟩

/-- Multi-fields, an alias in front of what it points at, an object inside a nested property, a
typed property that lists properties of its own, and two fields of one path. -/
theorem fields_flattened_nested :
    let keyword : Json := .object [("type", .string "keyword")]
    let title : Json := .object [("type", .string "text"), ("analyzer", .string "simple"),
      ("fields", .object [("raw", keyword), ("far", .object [("type", .string "geo_point")])]),
      ("properties", .object [("lost", keyword)])]
    let score : Json := .object
      [("properties", .object [("score", .object [("type", .string "byte")])])]
    let comments : Json := .object [("type", .string "nested"),
      ("properties", .object [("meta", score), ("body", keyword)])]
    let heading : Json := .object [("type", .string "alias"), ("path", .string "title.raw")]
    let properties : Json := .object
      [("heading", heading), ("title", title), ("comments", comments), ("title.raw", keyword)]
    let document : Json := .object
      [("mappings", .object [("doc", .object [("properties", properties)])])]
    let flattened : List FieldMapping := [
      { name := "title", path := "title", type := .text, analyzer := "simple" },
      { name := "title.raw", path := "title.raw", type := .keyword, aliases := ["heading"] },
      { name := "comments.meta.score", path := "comments.meta.score", type := .long,
        nested := "comments" },
      { name := "comments.body", path := "comments.body", type := .keyword, nested := "comments" },
      { name := "title.raw", path := "title.raw", type := .keyword }]
    Field.Document.fields document = .ok flattened ∧
      (∃ top, IsTop document top ∧ IsFlattening top flattened) ∧
        ∀ default field nested path, .nestedNotPrefix field nested path ∉
          Config.warnings default (Mappings.ofFields flattened) := by
  intro keyword title score comments heading properties document flattened
  have hfields : Field.Document.fields document = .ok flattened := by rfl
  obtain ⟨htop, -, hwarnings⟩ := (fields_flattened document).1 flattened hfields
  refine ⟨hfields, htop, ?_⟩
  intro default field nested path hw
  obtain ⟨g, hg, hnot, -⟩ := hwarnings default _ field nested path hw
  have hkept : ∀ g ∈ (Mappings.ofFields flattened).fields, g ∈ flattened := by decide
  exact hnot (hkept g hg)

end Field.Document

end Searchlight
