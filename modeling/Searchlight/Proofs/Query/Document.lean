import Searchlight.Proofs.Query.Nodes
import Searchlight.Proofs.Query.Parameters

/-!
# What a document tells about its query

A query is determined by its document, down to the paths of its fields. What a
document leaves out is what the query does not have: empty clause lists, slop of
zero, open ends and boosts of one.
-/

namespace Searchlight

/-! ## Queries on paths -/

/-- A field of which nothing but the path is left. -/
def Field.reduced (f : Field) : Field :=
  { name := f.path, path := f.path, type := .keyword }

namespace Query

mutual

/-- The query with each of its fields reduced to the path. -/
def reduced : Query → Query
  | all => all
  | term f v => term f.reduced v
  | fullText f s => fullText f.reduced s
  | phrase f s slop => phrase f.reduced s slop
  | range f lower upper => range f.reduced lower upper
  | wildcard f p => wildcard f.reduced p
  | fuzzy f s distance => fuzzy f.reduced s distance
  | regex f p => regex f.reduced p
  | .exists f => .exists f.reduced
  | nested path q => nested path q.reduced
  | bool must filter should mustNot =>
      bool (reducedAll must) (reducedAll filter) (reducedAll should)
        (reducedAll mustNot)
  | boost q factor => boost q.reduced factor

def reducedAll : List Query → List Query
  | [] => []
  | q :: rest => q.reduced :: reducedAll rest

end

theorem reduced_field {f g : Field} (h : f.path = g.path) :
    f.reduced = g.reduced := by
  rw [Field.reduced, Field.reduced, h]

/-- Documents tell nothing of a field but its path. -/
theorem documents_reduced {qs : List Query}
    (h : ∀ q ∈ qs, ∀ outer, documentWith outer q.reduced = documentWith outer q) :
    documents (reducedAll qs) = documents qs := by
  induction qs with
  | nil => rfl
  | cons q qs ih =>
      obtain ⟨hq, hqs⟩ := List.forall_mem_cons.mp h
      rw [reducedAll, documents, documents, hq, ih hqs]

theorem documentWith_reduced (q : Query) :
    ∀ outer, documentWith outer q.reduced = documentWith outer q := by
  induction q using clauses_induction with
  | all => exact fun _ => rfl
  | leaf q f hf =>
      cases q with
      | all | nested | bool | boost => cases hf
      | _ => exact fun _ => rfl
  | nested path q ih =>
      intro outer
      rw [reduced, documentWith, documentWith, ih]
  | bool must filter should mustNot ih =>
      intro outer
      obtain ⟨hm, hf, hs, hn⟩ := forall_mem_clauses.mp ih
      rw [reduced, documentWith, documentWith, documents_reduced hm, documents_reduced hf,
        documents_reduced hs, documents_reduced hn]
  | boost q factor ih =>
      intro outer
      rw [reduced, documentWith.eq_def, documentWith.eq_def]
      exact ih _

open Document

variable {q r : Query}

/-! ## Parts -/

/-- The queries whose documents stand among the parameters. -/
def parts : Query → List Query
  | nested _ q => [q]
  | bool must filter should mustNot => must ++ filter ++ should ++ mustNot
  | _ => []

theorem settled_parts (h : ∀ x ∈ q.nodes, x.Settled) :
    ∀ p ∈ q.parts, ∀ x ∈ p.nodes, x.Settled := by
  intro p hp x hx
  cases q with
  | nested path q =>
      obtain rfl := List.mem_singleton.mp hp
      exact h x (List.mem_cons_of_mem _ hx)
  | bool must filter should mustNot =>
      exact h x (mem_nodes_bool.mpr (.inr ⟨p, hp, hx⟩))
  | _ => cases hp

/-- A query without the boost around it. -/
def core : Query → Query
  | boost q _ => q
  | q => q

/-- The factor of the boost around a query. -/
def outerFactor : Query → Option Single
  | boost _ factor => some factor
  | _ => none

theorem document_eq (q : Query) :
    q.document = documentWith q.outerFactor q.core := by
  cases q <;> rfl

theorem sizeOf_of_mem_parts {p : Query} (h : p ∈ q.parts) : sizeOf p < sizeOf q := by
  cases q with
  | nested path q =>
      obtain rfl := List.mem_singleton.mp h
      simp
  | bool must filter should mustNot =>
      simp only [parts, List.mem_append] at h
      rcases h with ((h | h) | h) | h <;>
        have := List.sizeOf_lt_of_mem h <;> simp <;> omega
  | _ => cases h

theorem sizeOf_parts_lt {p : Query} (h : p ∈ q.core.parts) :
    sizeOf p < sizeOf q := by
  cases q with
  | boost q factor =>
      have hlt : sizeOf p < sizeOf q := sizeOf_of_mem_parts h
      simp only [boost.sizeOf_spec]
      omega
  | _ => exact sizeOf_of_mem_parts h

theorem settled_core (h : ∀ x ∈ q.nodes, x.Settled) :
    isBoost q.core = false ∧ Effective q.outerFactor ∧
      ∀ x ∈ q.core.nodes, x.Settled := by
  cases q with
  | boost q factor =>
      obtain ⟨hboost, hone⟩ : (boost q factor).Settled := h _ (mem_nodes_self _)
      refine ⟨hboost, ?_, fun x hx => h x (List.mem_cons_of_mem _ hx)⟩
      intro f hf
      rwa [← Option.some.inj hf]
  | _ => exact ⟨rfl, fun _ hf => (Option.not_mem_none _ hf).elim, h⟩

/-! ## What documents determine -/

/-- The document of a query tells what the query is on paths. -/
def Determined (q : Query) : Prop :=
  ∀ {r : Query} {d : Json}, (∀ x ∈ q.nodes, x.Settled) →
    (∀ x ∈ r.nodes, x.Settled) → q.document = .ok d → r.document = .ok d →
      q.reduced = r.reduced

theorem documents_cons {qs : List Query} {ds : List Json} :
    documents (q :: qs) = .ok ds ↔
      ∃ d ds', q.document = .ok d ∧ documents qs = .ok ds' ∧ ds = d :: ds' := by
  simp only [documents, document, bind_eq_ok, Except.ok.injEq]
  constructor
  · rintro ⟨d, hd, ds', hds, rfl⟩
    exact ⟨d, ds', hd, hds, rfl⟩
  · rintro ⟨d, ds', hd, hds, rfl⟩
    exact ⟨d, hd, ds', hds, rfl⟩

theorem reducedAll_of_documents {qs : List Query} :
    ∀ {rs : List Query} {ds : List Json}, (∀ q ∈ qs, Determined q) →
      (∀ q ∈ qs, ∀ x ∈ q.nodes, x.Settled) →
      (∀ r ∈ rs, ∀ x ∈ r.nodes, x.Settled) → documents qs = .ok ds →
      documents rs = .ok ds → reducedAll qs = reducedAll rs := by
  induction qs with
  | nil =>
      intro rs ds _ _ _ hqs hrs
      cases hqs
      cases rs with
      | nil => rfl
      | cons r rs =>
          obtain ⟨_, _, _, _, h⟩ := documents_cons.mp hrs
          cases h
  | cons q qs ih =>
      intro rs ds hdet hq hr hqs hrs
      obtain ⟨d, ds', hd, hds, rfl⟩ := documents_cons.mp hqs
      cases rs with
      | nil => cases hrs
      | cons r rs =>
          obtain ⟨d', ds'', hd', hds', h⟩ := documents_cons.mp hrs
          obtain ⟨rfl, rfl⟩ := List.cons.inj h
          obtain ⟨hdet, hdets⟩ := List.forall_mem_cons.mp hdet
          obtain ⟨hq, hqs⟩ := List.forall_mem_cons.mp hq
          obtain ⟨hr, hrs⟩ := List.forall_mem_cons.mp hr
          rw [reducedAll, reducedAll, hdet hq hr hd hd',
            ih hdets hqs hrs hds hds']

/-- The parameters of a kind determine the query. -/
theorem reduced_of_params (hsame : SameKind q r) (hunder : q.under = r.under)
    {ps : Members} (hq : q.params = .ok ps) (hr : r.params = .ok ps)
    (hdet : ∀ p ∈ q.parts, Determined p)
    (hsq : ∀ x ∈ q.nodes, x.Settled) (hsr : ∀ x ∈ r.nodes, x.Settled) :
    q.reduced = r.reduced := by
  have hsq := settled_parts hsq
  have hsr := settled_parts hsr
  cases hsame with
  | all => rfl
  | term f g v w =>
      obtain ⟨j, hj, rfl⟩ := map_eq_ok.mp hq
      obtain ⟨j', hj', h⟩ := map_eq_ok.mp hr
      rw [(value_ok hj).1, (value_ok hj').1] at h
      obtain rfl : w = v := Value.json_inj.mp (by simpa using h)
      rw [reduced, reduced, reduced_field (Option.some.inj hunder)]
  | fullText f g s t =>
      cases hq
      obtain rfl : t = s := by simpa [params] using hr
      rw [reduced, reduced, reduced_field (Option.some.inj hunder)]
  | phrase f g s t m n =>
      cases hq
      obtain ⟨rfl, h⟩ : t = s ∧ _ := by simpa [params] using hr
      obtain rfl : m = n := by
        cases m <;> cases n <;> simp_all [natural]
      rw [reduced, reduced, reduced_field (Option.some.inj hunder)]
  | range f g a b c d =>
      obtain ⟨rfl, rfl⟩ :=
        ends_inj ((params_range hq).1.symm.trans (params_range hr).1)
      rw [reduced, reduced, reduced_field (Option.some.inj hunder)]
  | wildcard f g s t | regex f g s t =>
      cases hq
      obtain rfl : t = s := by simpa [params] using hr
      rw [reduced, reduced, reduced_field (Option.some.inj hunder)]
  | fuzzy f g s t m n =>
      cases hq
      obtain ⟨rfl, h⟩ : t = s ∧ _ := by simpa [params] using hr
      obtain rfl : m = n := by
        cases m <;> cases n <;> simp_all [natural]
      rw [reduced, reduced, reduced_field (Option.some.inj hunder)]
  | «exists» f g =>
      cases hq
      have hpath : g.path = f.path := by simpa [params] using hr
      rw [reduced, reduced, reduced_field hpath]
  | nested s t q r =>
      obtain ⟨d, hd, rfl⟩ := map_eq_ok.mp hq
      obtain ⟨d', hd', h⟩ := map_eq_ok.mp hr
      obtain ⟨rfl, rfl⟩ : t = s ∧ d' = d := by simpa using h
      have hpart : q ∈ (nested t q).parts := List.mem_singleton.mpr rfl
      rw [reduced, reduced, hdet q hpart (hsq q hpart)
        (hsr r (List.mem_singleton.mpr rfl)) hd hd']
  | bool m f s n m' f' s' n' =>
      obtain ⟨dm, df, ds, dn, hm, hf, hs, hn, rfl⟩ := params_bool.mp hq
      obtain ⟨_, _, _, _, hm', hf', hs', hn', h⟩ := params_bool.mp hr
      obtain ⟨rfl, rfl, rfl, rfl⟩ := clauses_inj h
      obtain ⟨hdm, hdf, hds, hdn⟩ := forall_mem_clauses.mp hdet
      obtain ⟨hsm, hsf, hss, hsn⟩ := forall_mem_clauses.mp hsq
      obtain ⟨hsm', hsf', hss', hsn'⟩ := forall_mem_clauses.mp hsr
      rw [reduced, reduced, reducedAll_of_documents hdm hsm hsm' hm hm',
        reducedAll_of_documents hdf hsf hsf' hf hf',
        reducedAll_of_documents hds hss hss' hs hs',
        reducedAll_of_documents hdn hsn hsn' hn hn']

theorem reduced_of_core (ho : q.outerFactor = r.outerFactor)
    (hc : q.core.reduced = r.core.reduced) : q.reduced = r.reduced := by
  cases q <;> cases r <;> simp_all [outerFactor, core, reduced]

/-- Kind, path, parameters and boost are read off a document one by one. -/
theorem determined_of_parts (hdet : ∀ p ∈ q.core.parts, Determined p) :
    Determined q := by
  intro r d hsq hsr hq hr
  obtain ⟨hbq, heq, hsq⟩ := settled_core hsq
  obtain ⟨hbr, her, hsr⟩ := settled_core hsr
  rw [document_eq, documentWith_eq_ok hbq] at hq
  rw [document_eq, documentWith_eq_ok hbr] at hr
  obtain ⟨ps, last, hps, hlast, rfl⟩ := hq
  obtain ⟨ps', last', hps', hlast', h⟩ := hr
  -- the kind tells whether the parameters stand under a path
  obtain ⟨hkind, hbody⟩ : q.core.kind = r.core.kind ∧ _ := by simpa using h
  have hsame := sameKind_of_kind hbq hbr hkind
  obtain ⟨hunder, hmembers⟩ := body_inj hsame.isSome_under hbody
  -- the boost is told from the parameters by its name
  obtain ⟨rfl, hfinite⟩ := boostMember_ok heq hlast
  obtain ⟨rfl, -⟩ := boostMember_ok her hlast'
  have hboost : ∀ {outer : Option Single}, ∀ m ∈ boostParam outer,
      ¬m.1 ≠ "boost" := fun m hm => not_not.mpr (mem_boostParam hm)
  obtain ⟨rfl, hlast⟩ := append_inj_of_names (p := (· ≠ "boost"))
    (ne_boost_of_mem_params hps) (ne_boost_of_mem_params hps') hboost hboost
    hmembers
  exact reduced_of_core (boostParam_inj hfinite hlast)
    (reduced_of_params hsame hunder hps hps' hdet hsq hsr)

theorem determined (q : Query) : Determined q :=
  determined_of_parts fun p _ => determined p
termination_by sizeOf q
decreasing_by exact sizeOf_parts_lt ‹_›

/-! ## Values in documents -/

section Values

variable {P : Query → Prop} {Q : Json → Prop}
  (hvalue : ∀ (node : String) {v : Value} {j : Json}, Document.value node v = .ok j → Q j)
  (harray : ∀ {items : List Json}, Q (.array items) ↔ ∀ v ∈ items, Q v)

/-- What the documents of queries have in common is read off the queries. -/
theorem forall_documents {qs : List Query} :
    ∀ {ds : List Json}, (∀ q ∈ qs, ∀ {d}, q.document = .ok d → (Q d ↔ P q)) →
      documents qs = .ok ds → ((∀ d ∈ ds, Q d) ↔ ∀ q ∈ qs, P q) := by
  induction qs with
  | nil =>
      intro ds _ hds
      cases hds
      simp
  | cons q qs ih =>
      intro ds h hds
      obtain ⟨d, ds', hd, hds', rfl⟩ := documents_cons.mp hds
      obtain ⟨hq, hqs⟩ := List.forall_mem_cons.mp h
      rw [List.forall_mem_cons, List.forall_mem_cons, hq hd, ih hqs hds']

include hvalue in
theorem forall_bound {node inclusive exclusive : String} {b : Bound Value} {ms : Members}
    (h : Document.bound node inclusive exclusive b = .ok ms) : ∀ m ∈ ms, Q m.2 := by
  cases b with
  | unbounded => cases h; simp
  | inclusive v | exclusive v =>
      obtain ⟨j, hj, rfl⟩ := map_eq_ok.mp h
      simpa using hvalue node hj

include harray in
theorem forall_clause {label : String} {items : List Json} :
    (∀ m ∈ clause label items, Q m.2) ↔ ∀ v ∈ items, Q v := by
  cases items <;> simp [clause, harray]

include hvalue harray in
/-- Parameters are values, and the documents of parts. -/
theorem forall_params
    (hparts : ∀ p ∈ q.parts, ∀ {d}, p.document = .ok d → (Q d ↔ P p)) {ps : Members}
    (h : q.params = .ok ps) : (∀ m ∈ ps, Q m.2) ↔ ∀ p ∈ q.parts, P p := by
  have hstring : ∀ s, Q (.string s) := fun s => hvalue "" (v := .text s) rfl
  have hnatural : ∀ n, Q (natural n) := fun n => hvalue "" (v := .integer n) rfl
  cases q with
  | all | boost =>
      cases h
      simp [parts]
  | fullText | wildcard | regex | «exists» =>
      cases h
      simp [parts, hstring]
  | phrase f s slop =>
      cases h
      split <;> simp [parts, hstring, hnatural]
  | fuzzy f s distance =>
      cases h
      cases distance <;> simp [parts, hstring, hnatural]
  | term f v =>
      obtain ⟨j, hj, rfl⟩ := map_eq_ok.mp h
      simp [parts, hvalue _ hj]
  | range f lower upper =>
      obtain ⟨l, hl, h⟩ := bind_eq_ok.mp h
      obtain ⟨u, hu, rfl⟩ := map_eq_ok.mp h
      have hends : ∀ m ∈ l ++ u, Q m.2 :=
        List.forall_mem_append.mpr ⟨forall_bound hvalue hl, forall_bound hvalue hu⟩
      simpa [parts] using hends
  | nested path q =>
      obtain ⟨j, hj, rfl⟩ := map_eq_ok.mp h
      have hq : Q j ↔ P q := hparts q (List.mem_singleton.mpr rfl) hj
      simp [parts, hq, hstring]
  | bool must filter should mustNot =>
      obtain ⟨m, f, s, n, hm, hf, hs, hn, rfl⟩ := params_bool.mp h
      obtain ⟨hpm, hpf, hps, hpn⟩ := forall_mem_clauses.mp hparts
      simp only [parts, Document.clauses, List.forall_mem_append, forall_clause harray]
      rw [forall_documents hpm hm, forall_documents hpf hf, forall_documents hps hs,
        forall_documents hpn hn]

end Values

/-! ## Numbers in documents -/

theorem finite_array {items : List Json} :
    (Json.array items).Finite ↔ ∀ v ∈ items, v.Finite := by
  refine ⟨fun h => ?_, .array⟩
  cases h with
  | array h => exact h

theorem finite_params
    (hparts : ∀ p ∈ q.parts, ∀ {d}, p.document = .ok d → d.Finite)
    {ps : Members} (h : q.params = .ok ps) : ∀ m ∈ ps, m.2.Finite := by
  refine (forall_params (P := fun _ => True) (fun _ _ _ hj => (value_ok hj).2) finite_array
    (fun p hp d hd => ?_) h).mpr fun _ _ => trivial
  exact iff_of_true (hparts p hp hd) trivial

theorem finite_body {path : Option String} {ps : Members}
    (h : ∀ m ∈ ps, m.2.Finite) : (body path ps).Finite := by
  cases path with
  | none => exact .object h
  | some path =>
      refine .object fun m hm => ?_
      rw [List.mem_singleton.mp hm]
      exact .object h

/-- A document holds finite numbers only. -/
theorem finite_document (q : Query) (hs : ∀ x ∈ q.nodes, x.Settled) {d : Json}
    (h : q.document = .ok d) : d.Finite := by
  obtain ⟨hb, heff, hs⟩ := settled_core hs
  rw [document_eq, documentWith_eq_ok hb] at h
  obtain ⟨ps, last, hps, hlast, rfl⟩ := h
  have hparams : ∀ m ∈ ps, m.2.Finite := by
    refine finite_params (fun p hp _ hd => ?_) hps
    exact finite_document p (settled_parts hs p hp) hd
  obtain ⟨rfl, hfinite⟩ := boostMember_ok heff hlast
  have hboost : ∀ m ∈ boostParam q.outerFactor, m.2.Finite := by
    intro m hm
    cases ho : q.outerFactor with
    | none => simp [ho, boostParam] at hm
    | some factor =>
        rw [ho] at hm
        rw [List.mem_singleton.mp hm]
        exact .float (hfinite factor ho)
  refine .object fun m hm => ?_
  rw [List.mem_singleton.mp hm]
  exact finite_body (List.forall_mem_append.mpr ⟨hparams, hboost⟩)
termination_by sizeOf q
decreasing_by exact sizeOf_parts_lt ‹_›

end Query

variable {lookup lookup' : String → Option FieldMapping}
  {options options' : ResolveOptions} {e e' : Option Expr} {q q' : Query}
  {d d' : Json}

/-- **A document loses nothing of a query but what its fields are besides their
paths.** Two resolved queries whose documents have one compact text are the same
on paths. -/
theorem reduced_of_compactText
    (h : resolve lookup options e = .ok q)
    (h' : resolve lookup' options' e' = .ok q')
    (hd : q.document = .ok d) (hd' : q'.document = .ok d')
    (htext : d.compactText = d'.compactText) : q.reduced = q'.reduced := by
  have hs := settled_of_resolve h
  have hs' := settled_of_resolve h'
  obtain rfl := Json.compactText_injective (Query.finite_document q hs hd)
    (Query.finite_document q' hs' hd') htext
  exact Query.determined q hs hs' hd hd'

/-- A field and an alias of it in another index, which have one path. -/
theorem reduced_of_compactText_renamed :
    let first : FieldMapping :=
      { name := "price", path := "item.price", type := .double }
    let second : FieldMapping :=
      { name := "cost", path := "item.price", type := .double,
        analyzer := some "none" }
    let e (name : String) : Expr := .bool .and
      [.boosted (.leaf (some name) (.range (.inclusive "0.5") (.exclusive "3")))
          (.nearest false 3 2),
        .not (.leaf (some name) (.term "2"))]
    let q (mapping : FieldMapping) : Query := .bool
      [.boost (.range mapping.toField (.inclusive (.float (.nearest false 1 2)))
        (.exclusive (.float (.nearest false 3 1)))) (.nearest false 3 2)] [] []
      [.term mapping.toField (.float (.nearest false 2 1))]
    let d : Json := .object [("bool", .object
      [("must", .array [.object [("range", .object [("item.price", .object
          [("gte", .float (.nearest false 1 2)),
            ("lt", .float (.nearest false 3 1)),
            ("boost", .float (.nearest false 3 2))])])]]),
        ("must_not", .array [.object [("term", .object [("item.price", .object
          [("value", .float (.nearest false 2 1))])])]])])]
    resolve (fun _ => some first) {} (some (e "price")) = .ok (q first) ∧
      resolve (fun _ => some second) {} (some (e "cost")) = .ok (q second) ∧
      (q first).document = .ok d ∧ (q second).document = .ok d ∧
      (q first).reduced = (q second).reduced := by
  intro first second e q d
  have h : resolve (fun _ => some first) {} (some (e "price")) = .ok (q first) :=
    rfl
  have h' : resolve (fun _ => some second) {} (some (e "cost")) = .ok (q second) :=
    rfl
  have hd : (q first).document = .ok d := rfl
  have hd' : (q second).document = .ok d := rfl
  exact ⟨h, h', hd, hd', reduced_of_compactText h h' hd hd' rfl⟩

end Searchlight
