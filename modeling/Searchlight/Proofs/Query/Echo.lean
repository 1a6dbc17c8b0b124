import Searchlight.Proofs.Json.Redundant
import Searchlight.Proofs.Number.One
import Searchlight.Proofs.Query.Document

/-!
# Echoed documents

An engine that echoes a document adds members that do not change what it asks
for. Normalizing the echo gives the document back, unless the document itself has
a member that would be removed. Kinds and parameters are not named like such
members, and a boost of one is left out. That leaves the paths of fields, which
name the parameters of their leaves: what a leaf asks of a field whose path is a
scoring flag is removed.
-/

namespace Searchlight

namespace Query

open Document Json

/-- The paths that name the parameters of the leaves of a query. -/
def keyPaths (q : Query) : List String := q.nodes.filterMap under

/-- No leaf has its parameters under a path that is a scoring flag. -/
def FlagFree (q : Query) : Prop := ∀ path ∈ q.keyPaths, path ∉ scoringFlags

variable {q : Query} {outer : Option Single} {d : Json} {ps : Members}

theorem flagFree_boost {factor : Single} : (boost q factor).FlagFree ↔ q.FlagFree := by
  simp [FlagFree, keyPaths, nodes, under, field?]

/-- A query is free of flags if its own path is none and its parts are. -/
theorem flagFree_iff (hq : isBoost q = false) :
    q.FlagFree ↔
      (∀ path ∈ q.under, path ∉ scoringFlags) ∧ ∀ p ∈ q.parts, p.FlagFree := by
  have hleaf : ∀ {q : Query}, q.nodes = [q] → q.parts = [] →
      (q.FlagFree ↔ (∀ path ∈ q.under, path ∉ scoringFlags) ∧
        ∀ p ∈ q.parts, p.FlagFree) := by
    intro q hnodes hparts
    simp [FlagFree, keyPaths, hnodes, hparts]
  cases q with
  | boost q factor => cases hq
  | nested path q => simp [FlagFree, keyPaths, nodes, parts, under, field?]
  | bool must filter should mustNot =>
      simp only [FlagFree, keyPaths, List.mem_filterMap, mem_nodes_bool, parts]
      constructor
      · intro h
        refine ⟨by simp [under, field?], ?_⟩
        rintro p hp path ⟨x, hx, hpath⟩
        exact h path ⟨x, .inr ⟨p, hp, hx⟩, hpath⟩
      · rintro ⟨-, h⟩ path ⟨x, rfl | ⟨p, hp, hx⟩, hpath⟩
        · cases hpath
        · exact h p hp path ⟨x, hx, hpath⟩
  | _ => exact hleaf rfl rfl

/-! ## Members of documents -/

theorem isRedundant_kind (q : Query) (v : Json) : isRedundant q.kind v = false := by
  induction q using clauses_induction with
  | boost q factor ih => exact ih
  | all | nested | bool => rfl
  | leaf q f hf => cases q <;> first | rfl | cases hf

theorem isRedundant_of_params (h : q.params = .ok ps) :
    ∀ m ∈ ps, isRedundant m.1 m.2 = false := by
  intro m hm
  have hname := mem_paramNames_of_params h m hm
  rw [Bool.eq_false_iff, ne_eq, isRedundant_iff, not_or]
  refine ⟨fun hflag => ?_, fun hboost => ne_boost_of_mem_params h m hm hboost.1⟩
  have hdisjoint : ∀ name ∈ paramNames, name ∉ scoringFlags := by decide
  exact hdisjoint m.1 hname hflag

/-- The boost of a document is not one. -/
theorem clean_boostMember {node : String} {last : Members}
    (h : boostMember node outer = .ok last) :
    ∀ m ∈ last, isRedundant m.1 m.2 = false ∧ m.2.Clean := by
  cases outer with
  | none => cases h; simp
  | some factor =>
      rw [boostMember] at h
      split at h
      · cases h; simp
      · rename_i hone
        obtain ⟨j, hj, rfl⟩ := map_eq_ok.mp h
        obtain ⟨-, rfl⟩ := float_eq_ok.mp hj
        have hwide : (Json.float factor.widen).isOne = false :=
          Bool.eq_false_iff.mpr (mt Binary.same_one_of_widen hone)
        simp [isRedundant, hwide, Clean.float]

theorem clean_value {node : String} {v : Value} {j : Json}
    (h : Document.value node v = .ok j) : j.Clean := by
  rw [(value_ok h).1]
  cases v with
  | text s => exact .string s
  | integer n => exact .integer n
  | float x => exact .float x
  | boolean b => exact .bool b

theorem clean_body {path : Option String} {ms : Members}
    (hnames : ∀ m ∈ ms, isRedundant m.1 m.2 = false) :
    (body path ms).Clean ↔
      (∀ p ∈ path, p ∉ scoringFlags) ∧ ∀ m ∈ ms, m.2.Clean := by
  have hobject : (object ms).Clean ↔ ∀ m ∈ ms, m.2.Clean :=
    clean_object.trans (and_iff_right hnames)
  cases path with
  | none => simp [body, hobject]
  | some path =>
      have hname : isRedundant path (object ms) = false ↔ path ∉ scoringFlags := by
        rw [Bool.eq_false_iff, ne_eq, isRedundant_iff]
        simp [isOne]
      simp [body, clean_object, hname, hobject]

/-! ## Documents -/

/-- Kind, path, parameters and boost of a document are looked at one by one. -/
theorem clean_of_parts (hq : isBoost q = false)
    (hparts : ∀ p ∈ q.parts, ∀ {d}, p.document = .ok d → (d.Clean ↔ p.FlagFree))
    (h : documentWith outer q = .ok d) : d.Clean ↔ q.FlagFree := by
  obtain ⟨ps, last, hps, hlast, rfl⟩ := (documentWith_eq_ok hq).mp h
  have hboost := clean_boostMember hlast
  have hnames : ∀ m ∈ ps ++ last, isRedundant m.1 m.2 = false :=
    List.forall_mem_append.mpr
      ⟨isRedundant_of_params hps, fun m hm => (hboost m hm).1⟩
  have hlast : ∀ m ∈ last, m.2.Clean := fun m hm => (hboost m hm).2
  rw [flagFree_iff hq, ← forall_params (fun _ _ _ hj => clean_value hj) clean_array hparts hps, clean_object]
  simp only [List.forall_mem_singleton, isRedundant_kind, true_and, clean_body hnames,
    List.forall_mem_append, and_iff_left hlast]

theorem clean_documentWith (q : Query) : ∀ {outer : Option Single} {d : Json},
    documentWith outer q = .ok d → (d.Clean ↔ q.FlagFree) := by
  induction q using clauses_induction with
  | all =>
      intro outer d h
      exact clean_of_parts rfl (by simp [parts]) h
  | leaf q f hf =>
      intro outer d h
      obtain ⟨hq, hparts⟩ : isBoost q = false ∧ q.parts = [] := by
        cases q <;> first | exact ⟨rfl, rfl⟩ | cases hf
      exact clean_of_parts hq (by simp [hparts]) h
  | nested path q ih =>
      intro outer d h
      refine clean_of_parts rfl (fun p hp d hd => ?_) h
      obtain rfl := List.mem_singleton.mp hp
      exact ih hd
  | bool must filter should mustNot ih =>
      intro outer d h
      exact clean_of_parts rfl (fun p hp _ hd => ih p hp hd) h
  | boost q factor ih =>
      intro outer d h
      rw [flagFree_boost]
      exact ih h

/-- **Normalizing an echo gives what normalizing the document gives**, and that
is the document itself, in its own order, just if no leaf has its parameters
under the path of a scoring flag. -/
theorem normalize_padded_document {q : Query} {d : Json} (h : q.document = .ok d) :
    (∀ d', Padded d d' → d'.normalize = d.normalize) ∧
      ((∀ d', Padded d d' → d'.normalize = d) ↔
        ∀ path ∈ q.keyPaths, path ≠ "disable_coord" ∧ path ≠ "adjust_pure_negative") := by
  refine ⟨fun d' hd' => hd'.normalize_eq, ?_⟩
  rw [normalize_padded_iff, clean_documentWith q h]
  simp [FlagFree, scoringFlags]

/-- Flags and boosts of one in an echo, beside a boost that counts and a field
whose path is that of a boost. -/
theorem normalize_padded_document_boost :
    let f : Field := { name := "boost", path := "boost", type := .text }
    let q : Query := .bool [.boost (.fullText f "a") (.nearest false 3 2)] [] [] []
    let leaf (last : Members) : Json :=
      .object [("match", .object [("boost", .object
        ([("query", .string "a"), ("boost", .float (.nearest false 3 2))] ++ last))])]
    let d : Json := .object [("bool", .object [("must", .array [leaf []])])]
    let d' : Json := .object [("boost", .integer 1), ("bool", .object
      [("adjust_pure_negative", .bool true),
        ("must", .array [leaf [("disable_coord", .array [.null])]]),
        ("boost", .float .one)])]
    q.document = .ok d ∧ Padded d d' ∧ d'.normalize = d := by
  intro f q leaf d d'
  have hdoc : q.document = .ok d := rfl
  have hleaf : Padded (leaf []) (leaf [("disable_coord", .array [.null])]) :=
    .object (.member _ (.object (.member _ (.object (.member _ (.refl _)
      (.member _ (.refl _) (.redundant rfl .nil)))) .nil)) .nil)
  have hpadded : Padded d d' :=
    .object (.redundant rfl (.member _ (.object (.redundant rfl
      (.member _ (.array (.cons hleaf .nil)) (.redundant rfl .nil)))) .nil))
  have hpaths : ∀ path ∈ q.keyPaths,
      path ≠ "disable_coord" ∧ path ≠ "adjust_pure_negative" := by
    simp [q, f, keyPaths, nodes, nodesAll, under, field?]
  exact ⟨hdoc, hpadded, (normalize_padded_document hdoc).2.mpr hpaths d' hpadded⟩

/-- A term on a field whose path is a scoring flag is not given back. -/
theorem normalize_document_of_flag :
    let f : FieldMapping :=
      { name := "disable_coord", path := "disable_coord", type := .keyword }
    let q : Query := .term f.toField (.text "x")
    let d : Json :=
      .object [("term", .object [("disable_coord", .object [("value", .string "x")])])]
    resolve (Mappings.ofFields [f]).lookup {}
        (some (.leaf (some "disable_coord") (.term "x"))) = .ok q ∧
      q.document = .ok d ∧ d.normalize = .object [("term", .object [])] ∧
        d.normalize ≠ d := by
  intro f q d
  have hnormal : d.normalize = .object [("term", .object [])] := rfl
  refine ⟨rfl, rfl, hnormal, ?_⟩
  rw [hnormal]
  simp [d]

end Query

end Searchlight
