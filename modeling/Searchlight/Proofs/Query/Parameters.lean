import Searchlight.Proofs.Json.Compact
import Searchlight.Proofs.Number.Widening
import Searchlight.Proofs.Query.Normal
import Searchlight.Query.Document

/-!
# Parameters of documents

The document of a query that is no boost is the name of its kind with its
parameters, the boost above it being the last of them. The parameters of a kind
have different names, and none is that of a boost, so that each is found again.
-/

namespace Searchlight

/-! ## Values and ends of ranges -/

/-- The JSON form of a value, if it has one. -/
def Value.json : Value → Json
  | text s => .string s
  | integer n => .integer n
  | float x => .float x
  | boolean b => .bool b

theorem Value.json_inj {v w : Value} : v.json = w.json ↔ v = w := by
  cases v <;> cases w <;> simp [json]

namespace Document

variable {node inclusive exclusive label : String} {place : NonFinite}
  {x : Double} {j : Json} {v : Value} {ms : Members} {items items' : List Json}

theorem float_eq_ok :
    float node place x = .ok j ↔ x.isFinite = true ∧ j = .float x := by
  rw [float]
  split
  · rename_i hx
    simp [hx, eq_comm]
  · rename_i hx
    simp [hx]

theorem value_ok (h : value node v = .ok j) : j = v.json ∧ j.Finite := by
  cases v with
  | text s => cases h; exact ⟨rfl, .string s⟩
  | integer n => cases h; exact ⟨rfl, .integer n⟩
  | float x =>
      obtain ⟨hx, rfl⟩ := float_eq_ok.mp h
      exact ⟨rfl, .float hx⟩
  | boolean b => cases h; exact ⟨rfl, .bool b⟩

/-- The members of one end of a range. -/
def boundMembers (inclusive exclusive : String) : Bound Value → Members
  | .unbounded => []
  | .inclusive v => [(inclusive, v.json)]
  | .exclusive v => [(exclusive, v.json)]

theorem bound_ok {b : Bound Value}
    (h : bound node inclusive exclusive b = .ok ms) :
    ms = boundMembers inclusive exclusive b ∧ ∀ m ∈ ms, m.2.Finite := by
  cases b with
  | unbounded => cases h; simp [boundMembers]
  | inclusive v | exclusive v =>
      obtain ⟨j, hj, rfl⟩ := map_eq_ok.mp h
      obtain ⟨rfl, hfinite⟩ := value_ok hj
      simp [boundMembers, hfinite]

theorem mem_boundMembers {b : Bound Value} {m : String × Json}
    (h : m ∈ boundMembers inclusive exclusive b) :
    m.1 = inclusive ∨ m.1 = exclusive := by
  cases b <;> simp_all [boundMembers]

theorem boundMembers_inj (hne : inclusive ≠ exclusive) {b b' : Bound Value}
    (h : boundMembers inclusive exclusive b =
      boundMembers inclusive exclusive b') : b = b' := by
  have hne' := hne.symm
  cases b <;> cases b' <;> simp_all [boundMembers, Value.json_inj]

/-! ## Names of members -/

theorem mem_clause {m : String × Json} (h : m ∈ clause label items) :
    m = (label, .array items) := by
  rw [clause] at h
  split at h
  · cases h
  · simpa using h

theorem clause_inj (h : clause label items = clause label items') :
    items = items' := by
  cases items <;> cases items' <;> simp_all [clause]

/-- Members are told apart by their names. -/
theorem append_inj_of_names {p : String → Prop} {l l' u u' : Members}
    (hl : ∀ m ∈ l, p m.1) (hl' : ∀ m ∈ l', p m.1) (hu : ∀ m ∈ u, ¬p m.1)
    (hu' : ∀ m ∈ u', ¬p m.1) (h : l ++ u = l' ++ u') : l = l' ∧ u = u' := by
  classical
  have hkeep : ∀ {a b : Members}, (∀ m ∈ a, p m.1) → (∀ m ∈ b, ¬p m.1) →
      (a ++ b).filter (fun m => p m.1) = a := by
    intro a b ha hb
    rw [List.filter_append, List.filter_eq_self.mpr (by simpa using ha),
      List.filter_eq_nil_iff.mpr (by simpa using hb), List.append_nil]
  have heq : l = l' := by rw [← hkeep hl hu, h, hkeep hl' hu']
  subst heq
  exact ⟨rfl, List.append_cancel_left h⟩

theorem append_clause_inj {l l' : Members} (hl : ∀ m ∈ l, m.1 ≠ label)
    (hl' : ∀ m ∈ l', m.1 ≠ label)
    (h : l ++ clause label items = l' ++ clause label items') :
    l = l' ∧ items = items' := by
  have hname : ∀ {items : List Json}, ∀ m ∈ clause label items, ¬m.1 ≠ label := by
    intro items m hm
    rw [mem_clause hm]
    simp
  obtain ⟨hfront, hclause⟩ :=
    append_inj_of_names (p := (· ≠ label)) hl hl' hname hname h
  exact ⟨hfront, clause_inj hclause⟩

/-- The two ends of a range have different names. -/
theorem ends_inj {a b c d : Bound Value}
    (h : boundMembers "gte" "gt" a ++ boundMembers "lte" "lt" b =
      boundMembers "gte" "gt" c ++ boundMembers "lte" "lt" d) :
    a = c ∧ b = d := by
  have hlower : ∀ {b : Bound Value}, ∀ m ∈ boundMembers "gte" "gt" b,
      m.1 = "gte" ∨ m.1 = "gt" := fun _ hm => mem_boundMembers hm
  have hupper : ∀ {b : Bound Value}, ∀ m ∈ boundMembers "lte" "lt" b,
      ¬(m.1 = "gte" ∨ m.1 = "gt") := by
    intro b m hm
    rcases mem_boundMembers hm with h | h <;> simp [h]
  obtain ⟨hac, hbd⟩ := append_inj_of_names
    (p := fun name => name = "gte" ∨ name = "gt") hlower hlower hupper hupper h
  exact ⟨boundMembers_inj (by decide) hac, boundMembers_inj (by decide) hbd⟩

/-- The members of a boolean query. -/
def clauses (must filter should mustNot : List Json) : Members :=
  clause "must" must ++ clause "filter" filter ++ clause "should" should ++
    clause "must_not" mustNot

theorem ne_of_mem_clause {m : String × Json} {name : String} (hne : label ≠ name)
    (h : m ∈ clause label items) : m.1 ≠ name := by
  rw [mem_clause h]
  exact hne

/-- The clause lists have different names. -/
theorem clauses_inj {m f s n m' f' s' n' : List Json}
    (h : clauses m f s n = clauses m' f' s' n') :
    m = m' ∧ f = f' ∧ s = s' ∧ n = n' := by
  have hmust : ∀ {m : List Json}, ∀ x ∈ clause "must" m, x.1 ≠ "filter" :=
    fun _ => ne_of_mem_clause (by decide)
  have hfilter : ∀ {m f : List Json},
      ∀ x ∈ clause "must" m ++ clause "filter" f, x.1 ≠ "should" := by
    intro m f x hx
    rcases List.mem_append.mp hx with hx | hx
    · exact ne_of_mem_clause (by decide) hx
    · exact ne_of_mem_clause (by decide) hx
  have hshould : ∀ {m f s : List Json},
      ∀ x ∈ clause "must" m ++ clause "filter" f ++ clause "should" s,
        x.1 ≠ "must_not" := by
    intro m f s x hx
    rcases List.mem_append.mp hx with hx | hx
    · rcases List.mem_append.mp hx with hx | hx
      · exact ne_of_mem_clause (by decide) hx
      · exact ne_of_mem_clause (by decide) hx
    · exact ne_of_mem_clause (by decide) hx
  obtain ⟨h, hn⟩ := append_clause_inj hshould hshould h
  obtain ⟨h, hs⟩ := append_clause_inj hfilter hfilter h
  obtain ⟨h, hf⟩ := append_clause_inj hmust hmust h
  exact ⟨clause_inj h, hf, hs, hn⟩

/-! ## Boosts -/

/-- The member of a boost. -/
def boostParam : Option Single → Members
  | none => []
  | some factor => [("boost", .float factor.widen)]

/-- A factor of one is no boost. -/
def Effective (outer : Option Single) : Prop :=
  ∀ factor ∈ outer, factor.same .one = false

theorem boostMember_ok {outer : Option Single} (heff : Effective outer)
    (h : boostMember node outer = .ok ms) :
    ms = boostParam outer ∧ ∀ factor ∈ outer, factor.widen.isFinite = true := by
  cases outer with
  | none => cases h; simp [boostParam]
  | some factor =>
      rw [boostMember, heff factor rfl] at h
      obtain ⟨j, hj, rfl⟩ := map_eq_ok.mp h
      obtain ⟨hfinite, rfl⟩ := float_eq_ok.mp hj
      simp [boostParam, hfinite]

theorem mem_boostParam {outer : Option Single} {m : String × Json}
    (h : m ∈ boostParam outer) : m.1 = "boost" := by
  cases outer with
  | none => cases h
  | some factor => rw [List.mem_singleton.mp h]

theorem boostParam_inj {outer outer' : Option Single}
    (hfinite : ∀ factor ∈ outer, factor.widen.isFinite = true)
    (h : boostParam outer = boostParam outer') : outer = outer' := by
  cases outer with
  | none => cases outer' <;> simp_all [boostParam]
  | some factor =>
      cases outer' with
      | none => simp [boostParam] at h
      | some factor' =>
          simp only [boostParam, List.cons.injEq, Prod.mk.injEq,
            Json.float.injEq, true_and, and_true] at h
          rw [Binary.widen_injective (hfinite factor rfl) h]

end Document

namespace Query

open Document

/-! ## Kinds and parameters -/

/-- The path that the parameters stand under. -/
def under : Query → Option String
  | .exists _ => none
  | q => q.field?.map Field.path

/-- The parameters of a query that is no boost, without the boost above it. -/
def params : Query → Except DocumentError Members
  | all | boost _ _ => .ok []
  | term _ v => (Document.value "term" v).map fun j => [("value", j)]
  | fullText _ s => .ok [("query", .string s)]
  | phrase _ s slop =>
      .ok (("query", .string s) ::
        if 0 < slop then [("slop", natural slop)] else [])
  | range _ lower upper =>
      Document.bound "range" "gte" "gt" lower >>= fun l =>
        (Document.bound "range" "lte" "lt" upper).map fun u => l ++ u
  | wildcard _ p | regex _ p => .ok [("value", .string p)]
  | fuzzy _ s distance =>
      .ok (("value", .string s) ::
        match distance with
        | some d => [("fuzziness", natural d)]
        | none => [])
  | .exists f => .ok [("field", .string f.path)]
  | nested path q =>
      (documentWith none q).map fun inner =>
        [("path", .string path), ("query", inner)]
  | bool must filter should mustNot =>
      documents must >>= fun m => documents filter >>= fun f =>
        documents should >>= fun s => (documents mustNot).map fun n =>
          Document.clauses m f s n

def body (path : Option String) (params : Members) : Json :=
  match path with
  | some path => .object [(path, .object params)]
  | none => .object params

theorem documentWith_eq {q : Query} (hq : isBoost q = false)
    (outer : Option Single) :
    documentWith outer q =
      q.params >>= fun ps => (boostMember q.kind outer).map fun last =>
        .object [(q.kind, body q.under (ps ++ last))] := by
  cases q with
  | boost q factor => cases hq
  | all | fullText | phrase | wildcard | fuzzy | regex | «exists» => rfl
  | term f v =>
      simp only [documentWith, params, map_bind]
      rfl
  | range f l u =>
      simp only [documentWith, params, map_bind, bind_assoc]
      rfl
  | nested path q =>
      simp only [documentWith, params, map_bind]
      rfl
  | bool must filter should mustNot =>
      simp only [documentWith, params, map_bind, bind_assoc]
      rfl

variable {q r : Query} {outer outer' : Option Single} {d : Json}

theorem documentWith_eq_ok (hq : isBoost q = false) :
    documentWith outer q = .ok d ↔
      ∃ ps last, q.params = .ok ps ∧ boostMember q.kind outer = .ok last ∧
        d = .object [(q.kind, body q.under (ps ++ last))] := by
  simp only [documentWith_eq hq, bind_eq_ok, map_eq_ok]
  constructor
  · rintro ⟨ps, hps, last, hlast, rfl⟩
    exact ⟨ps, last, hps, hlast, rfl⟩
  · rintro ⟨ps, last, hps, hlast, rfl⟩
    exact ⟨ps, hps, last, hlast, rfl⟩

/-! ## Kinds -/

/-- Two queries of one kind, neither of them a boost. -/
inductive SameKind : Query → Query → Prop
  | all : SameKind all all
  | term (f g : Field) (v w : Value) : SameKind (term f v) (term g w)
  | fullText (f g : Field) (s t : String) :
      SameKind (fullText f s) (fullText g t)
  | phrase (f g : Field) (s t : String) (m n : ℕ) :
      SameKind (phrase f s m) (phrase g t n)
  | range (f g : Field) (a b c d : Bound Value) :
      SameKind (range f a b) (range g c d)
  | wildcard (f g : Field) (s t : String) :
      SameKind (wildcard f s) (wildcard g t)
  | fuzzy (f g : Field) (s t : String) (m n : Option ℕ) :
      SameKind (fuzzy f s m) (fuzzy g t n)
  | regex (f g : Field) (s t : String) : SameKind (regex f s) (regex g t)
  | exists (f g : Field) : SameKind (.exists f) (.exists g)
  | nested (s t : String) (q r : Query) : SameKind (nested s q) (nested t r)
  | bool (m f s n m' f' s' n' : List Query) :
      SameKind (bool m f s n) (bool m' f' s' n')

theorem sameKind_of_kind (hq : isBoost q = false) (hr : isBoost r = false)
    (h : q.kind = r.kind) : SameKind q r := by
  cases q <;> cases r <;> first | constructor | simp_all [kind, isBoost]

theorem SameKind.isSome_under (h : SameKind q r) :
    q.under.isSome = r.under.isSome := by
  cases h <;> rfl

theorem body_inj {path path' : Option String} {ps ps' : Members}
    (hsome : path.isSome = path'.isSome) (h : body path ps = body path' ps') :
    path = path' ∧ ps = ps' := by
  cases path <;> cases path' <;> simp_all [body]

theorem params_range {f : Field} {lower upper : Bound Value} {ps : Members}
    (h : (range f lower upper).params = .ok ps) :
    ps = boundMembers "gte" "gt" lower ++ boundMembers "lte" "lt" upper ∧
      ∀ m ∈ ps, m.2.Finite := by
  obtain ⟨l, hl, h⟩ := bind_eq_ok.mp h
  obtain ⟨u, hu, rfl⟩ := map_eq_ok.mp h
  obtain ⟨rfl, hfl⟩ := bound_ok hl
  obtain ⟨rfl, hfu⟩ := bound_ok hu
  exact ⟨rfl, List.forall_mem_append.mpr ⟨hfl, hfu⟩⟩

theorem params_bool {must filter should mustNot : List Query} {ps : Members} :
    (bool must filter should mustNot).params = .ok ps ↔
      ∃ m f s n, documents must = .ok m ∧ documents filter = .ok f ∧
        documents should = .ok s ∧ documents mustNot = .ok n ∧
          ps = Document.clauses m f s n := by
  simp only [params, bind_eq_ok, map_eq_ok]
  constructor
  · rintro ⟨m, hm, f, hf, s, hs, n, hn, rfl⟩
    exact ⟨m, f, s, n, hm, hf, hs, hn, rfl⟩
  · rintro ⟨m, f, s, n, hm, hf, hs, hn, rfl⟩
    exact ⟨m, hm, f, hf, s, hs, n, hn, rfl⟩

/-- The names that parameters have. -/
def paramNames : List String :=
  ["value", "query", "slop", "gte", "gt", "lte", "lt", "fuzziness", "field", "path",
    "must", "filter", "should", "must_not"]

theorem mem_paramNames_of_params {ps : Members} (h : q.params = .ok ps) :
    ∀ m ∈ ps, m.1 ∈ paramNames := by
  cases q with
  | all | fullText | wildcard | regex | «exists» | boost =>
      cases h
      simp [paramNames]
  | phrase f s slop =>
      cases h
      split <;> simp [paramNames]
  | fuzzy f s distance =>
      cases h
      cases distance <;> simp [paramNames]
  | term f v =>
      obtain ⟨j, -, rfl⟩ := map_eq_ok.mp h
      simp [paramNames]
  | nested path q =>
      obtain ⟨j, -, rfl⟩ := map_eq_ok.mp h
      simp [paramNames]
  | range f lower upper =>
      obtain ⟨rfl, -⟩ := params_range h
      intro m hm
      rcases List.mem_append.mp hm with hm | hm <;>
        rcases mem_boundMembers hm with h | h <;> simp [h, paramNames]
  | bool must filter should mustNot =>
      obtain ⟨m, f, s, n, -, -, -, -, rfl⟩ := params_bool.mp h
      intro x hx
      simp only [Document.clauses, List.mem_append] at hx
      rcases hx with ((hx | hx) | hx) | hx <;> simp [mem_clause hx, paramNames]

/-- No parameter is named like a boost. -/
theorem ne_boost_of_mem_params {ps : Members} (h : q.params = .ok ps) :
    ∀ m ∈ ps, m.1 ≠ "boost" := by
  intro m hm
  exact ne_of_mem_of_not_mem (mem_paramNames_of_params h m hm) (by decide)

end Query

end Searchlight
