import Mathlib.Data.String.Basic
import Searchlight.Config.File

/-!
# Named entries

Sections and fields are lists of named entries, in order of their names. A list in order holds
each name once, and what its names find says all about it.
-/

namespace Searchlight.Config

variable {α : Type} {entries others : List (String × α)} {name key : String} {v : α}

theorem lookup_entry (key name : String) (v : α) (rest : List (String × α)) :
    ((name, v) :: rest).lookup key = if key = name then some v else rest.lookup key := by
  rw [List.lookup_cons]
  by_cases h : key = name
  · rw [if_pos h, beq_iff_eq.mpr h]
  · rw [if_neg h, beq_eq_false_iff_ne.mpr h]

theorem lookup_eq_none : entries.lookup key = none ↔ key ∉ entries.map (·.1) := by
  induction entries with
  | nil => simp
  | cons e rest ih =>
      obtain ⟨n, w⟩ := e
      by_cases h : key = n <;> simp [lookup_entry, h, ih]

theorem lookup_filter (keep : String → Bool) (entries : List (String × α)) (key : String) :
    (entries.filter fun e => keep e.1).lookup key =
      if keep key then entries.lookup key else none := by
  induction entries with
  | nil => simp
  | cons e rest ih =>
      obtain ⟨n, w⟩ := e
      rw [List.filter_cons, lookup_entry]
      by_cases hn : keep n
      · rw [if_pos hn, lookup_entry, ih]
        by_cases h : key = n <;> simp [h, hn]
      · rw [if_neg hn, ih]
        by_cases h : key = n <;> simp [h, hn]

/-! ## Entries in order -/

/-- The names increase strictly. -/
def InOrder (entries : List (String × α)) : Prop :=
  entries.Pairwise fun a b => a.1 < b.1

theorem InOrder.tail {e : String × α} (h : InOrder (e :: entries)) : InOrder entries :=
  (List.pairwise_cons.mp h).2

/-- The first entry of a list in order is the only one of its name. -/
theorem InOrder.lookup_head (h : InOrder ((name, v) :: entries)) : entries.lookup name = none := by
  refine lookup_eq_none.mpr fun hmem => ?_
  obtain ⟨e, he, rfl⟩ := List.mem_map.mp hmem
  exact lt_irrefl _ ((List.pairwise_cons.mp h).1 e he)

theorem InOrder.lookup_of_mem (h : InOrder entries) (hmem : (name, v) ∈ entries) :
    entries.lookup name = some v := by
  induction entries with
  | nil => cases hmem
  | cons e rest ih =>
      obtain ⟨n, w⟩ := e
      rw [lookup_entry]
      rcases List.mem_cons.mp hmem with heq | hmem
      · obtain ⟨rfl, rfl⟩ := Prod.mk.inj heq
        exact if_pos rfl
      · have hlt : n < name := (List.pairwise_cons.mp h).1 _ hmem
        rw [if_neg (ne_of_gt hlt), ih h.tail hmem]

/-- Nothing stands below the first name. -/
theorem InOrder.lookup_below (h : InOrder ((name, v) :: entries)) (hlt : key < name) :
    ((name, v) :: entries).lookup key = none := by
  refine lookup_eq_none.mpr fun hmem => ?_
  obtain ⟨e, he, rfl⟩ := List.mem_map.mp hmem
  rcases List.mem_cons.mp he with rfl | he
  · exact lt_irrefl _ hlt
  · exact lt_asymm hlt ((List.pairwise_cons.mp h).1 e he)

/-- A list in order is determined by what its names find. -/
theorem InOrder.ext (h : InOrder entries) (h' : InOrder others)
    (hlookup : ∀ name, entries.lookup name = others.lookup name) : entries = others := by
  induction entries generalizing others with
  | nil =>
      cases others with
      | nil => rfl
      | cons e rest =>
          obtain ⟨n, v⟩ := e
          exact absurd (hlookup n) (by simp)
  | cons e rest ih =>
      obtain ⟨n, v⟩ := e
      cases others with
      | nil => exact absurd (hlookup n) (by simp)
      | cons e' rest' =>
          obtain ⟨n', v'⟩ := e'
          have hhere : ((n, v) :: rest).lookup n = some v := by rw [lookup_entry, if_pos rfl]
          have hhere' : ((n', v') :: rest').lookup n' = some v' := by rw [lookup_entry, if_pos rfl]
          -- of two different first names the smaller one is missing from the other list
          obtain rfl : n = n' := by
            rcases lt_trichotomy n n' with hlt | heq | hlt
            · cases hhere.symm.trans ((hlookup n).trans (h'.lookup_below hlt))
            · exact heq
            · cases hhere'.symm.trans ((hlookup n').symm.trans (h.lookup_below hlt))
          obtain rfl : v = v' :=
            Option.some.inj (hhere.symm.trans ((hlookup n).trans hhere'))
          refine congrArg _ (ih h.tail h'.tail fun name => ?_)
          by_cases hname : name = n
          · rw [hname, h.lookup_head, h'.lookup_head]
          · simpa [lookup_entry, hname] using hlookup name

/-! ## Adding an entry -/

theorem lookup_insertNamed (name : String) (v : α) (entries : List (String × α)) (key : String) :
    (insertNamed name v entries).lookup key =
      if key = name then some v else entries.lookup key := by
  induction entries with
  | nil => rw [insertNamed, lookup_entry]
  | cons e rest ih =>
      obtain ⟨n, w⟩ := e
      rw [insertNamed, lookup_entry]
      split
      · rename_i hn
        rw [lookup_entry, hn]
        by_cases h : key = name <;> simp [h]
      · rename_i hn
        split
        · rw [lookup_entry, lookup_entry]
        · rw [lookup_entry, ih]
          by_cases h : key = n
          · simp [h, hn]
          · simp [h]

theorem mem_insertNamed {e : String × α} (h : e ∈ insertNamed name v entries) :
    e = (name, v) ∨ e ∈ entries := by
  induction entries with
  | nil => exact .inl (List.mem_singleton.mp h)
  | cons e' rest ih =>
      obtain ⟨n, w⟩ := e'
      rw [insertNamed] at h
      split at h
      · exact (List.mem_cons.mp h).imp_right (List.mem_cons_of_mem _)
      · split at h
        · exact List.mem_cons.mp h
        · rcases List.mem_cons.mp h with rfl | h
          · exact .inr List.mem_cons_self
          · exact (ih h).imp_right (List.mem_cons_of_mem _)

theorem InOrder.insertNamed (h : InOrder entries) (name : String) (v : α) :
    InOrder (insertNamed name v entries) := by
  induction entries with
  | nil => exact List.pairwise_singleton _ _
  | cons e rest ih =>
      obtain ⟨n, w⟩ := e
      have hfirst := (List.pairwise_cons.mp h).1
      rw [Config.insertNamed]
      split
      · rename_i hn
        exact List.pairwise_cons.mpr ⟨fun e he => hn ▸ hfirst e he, h.tail⟩
      · split
        · rename_i hlt
          refine List.pairwise_cons.mpr ⟨?_, h⟩
          intro e he
          rcases List.mem_cons.mp he with rfl | he
          · exact hlt
          · exact lt_trans hlt (hfirst e he)
        · rename_i hne hle
          have hlt : n < name := lt_of_le_of_ne (not_lt.mp hle) hne
          refine List.pairwise_cons.mpr ⟨?_, ih h.tail⟩
          intro e he
          rcases mem_insertNamed he with rfl | he
          · exact hlt
          · exact hfirst e he

/-- An entry above all others comes last. -/
theorem insertNamed_last (h : ∀ e ∈ entries, e.1 < name) (v : α) :
    insertNamed name v entries = entries ++ [(name, v)] := by
  induction entries with
  | nil => rfl
  | cons e rest ih =>
      obtain ⟨n, w⟩ := e
      obtain ⟨hlt, hrest⟩ := List.forall_mem_cons.mp h
      rw [insertNamed, if_neg (ne_of_lt hlt), if_neg (lt_asymm hlt), ih hrest, List.cons_append]

theorem InOrder.lt_of_append (h : InOrder (entries ++ (name, v) :: others)) :
    ∀ e ∈ entries, e.1 < name :=
  fun e he => (List.pairwise_append.mp h).2.2 e he (name, v) List.mem_cons_self

/-- Entries that come in order are put one behind the other. -/
theorem foldl_insertNamed (h : InOrder (entries ++ others)) :
    others.foldl (fun done e => insertNamed e.1 e.2 done) entries = entries ++ others := by
  induction others generalizing entries with
  | nil => simp
  | cons e others ih =>
      obtain ⟨n, w⟩ := e
      have hassoc : entries ++ (n, w) :: others = entries ++ [(n, w)] ++ others := by simp
      rw [List.foldl_cons, insertNamed_last h.lt_of_append, hassoc]
      exact ih (hassoc ▸ h)

/-! ## Sections of a file -/

theorem inOrder_readFields {v : Toml} {sections : List (String × FieldSection)}
    (h : readFields v = some sections) : InOrder sections := by
  have hfold : ∀ (read done : List (String × FieldSection)), InOrder done →
      InOrder (read.foldl (fun done e => insertNamed e.1 e.2 done) done) := by
    intro read
    induction read with
    | nil => exact fun _ hdone => hdone
    | cons e rest ih => exact fun done hdone => ih _ (hdone.insertNamed e.1 e.2)
  rw [readFields] at h
  obtain ⟨es, -, h⟩ := Option.bind_eq_some_iff.mp h
  obtain ⟨read, -, h⟩ := Option.bind_eq_some_iff.mp h
  exact Option.some.inj h ▸ hfold read [] .nil

/-- The field sections of a file that has been read are in order. -/
theorem inOrder_of_read {text : String} {file : File} (h : File.read? text = some file) :
    InOrder (file.fields.getD []) := by
  obtain ⟨es, -, h⟩ := Option.bind_eq_some_iff.mp h
  rw [ofEntries] at h
  split at h
  · obtain ⟨root, -, h⟩ := Option.bind_eq_some_iff.mp h
    obtain ⟨index, -, h⟩ := Option.bind_eq_some_iff.mp h
    obtain ⟨fields, hfields, h⟩ := Option.bind_eq_some_iff.mp h
    obtain rfl := Option.some.inj h
    cases hsection : es.lookup "fields" with
    | none =>
        rw [hsection, setting] at hfields
        obtain rfl := Option.some.inj hfields
        exact .nil
    | some v =>
        rw [hsection, setting, Option.map_eq_some_iff] at hfields
        obtain ⟨sections, hsections, rfl⟩ := hfields
        exact inOrder_readFields hsections
  · cases h

end Searchlight.Config
