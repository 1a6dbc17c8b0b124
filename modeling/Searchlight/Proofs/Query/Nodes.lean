import Searchlight.Proofs.Query.Meaning
import Searchlight.Proofs.Query.Typing

/-!
# The normal form at every node

The normal form of resolved queries, said of each node alone. Nested objects
hold leaves, so that nothing is left to put into normal form inside of them.
-/

namespace Searchlight

namespace Query

/-- What every node of a resolved query is, even where groups are empty: a
nested object holds a leaf on a field, and boosts neither multiply nor are
one. -/
def Settled : Query → Prop
  | nested _ q => q.field? ≠ none
  | boost q factor => isBoost q = false ∧ factor.same .one = false
  | _ => True

/-- No boolean query is empty or filters. It has at least two alternatives and
nothing else, or no alternatives and not just one positive clause; and it has no
clause that could be spliced into it. Boosts neither multiply nor are one. -/
def NodeNormal : Query → Prop
  | bool must filter should mustNot =>
      filter = [] ∧
        (must = [] ∧ mustNot = [] ∧ 2 ≤ should.length ∨
          should = [] ∧ (2 ≤ must.length ∨ 1 ≤ mustNot.length)) ∧
        (∀ required excluded, bool required [] [] excluded ∉ must) ∧
        ∀ options, bool [] [] options [] ∉ should
  | boost q factor =>
      (∀ inner f, q ≠ boost inner f) ∧ factor.same .one = false
  | _ => True

theorem clausewise_settled :
    Clausewise fun q => ∀ x ∈ q.nodes, x.Settled where
  toSplits := splits_nodes fun _ _ _ _ => trivial
  boosted := by
    intro q factor hq x hx
    rcases mem_nodes_boosted hx with hx | ⟨rfl, hb, hone⟩ | ⟨inner, first, rfl, rfl, hone⟩
    · exact hq x hx
    · exact ⟨hb, hone⟩
    · have hboost : (boost inner first).Settled := hq _ (mem_nodes_self _)
      exact ⟨hboost.1, hone⟩

theorem nodeNormal_of_field {q : Query} {f : Field} (h : q.field? = some f) :
    ∀ x ∈ q.nodes, x.NodeNormal := by
  intro x hx
  rw [nodes_of_field h, List.mem_singleton] at hx
  subst hx
  cases x <;> trivial

/-- Where nested objects hold leaves, a normal query is normal at every node. -/
theorem nodeNormal_of_normal (q : Query) :
    q.Normal → (∀ x ∈ q.nodes, x.Settled) → ∀ x ∈ q.nodes, x.NodeNormal := by
  induction q using clauses_induction with
  | all =>
      intro _ _ x hx
      obtain rfl := List.mem_singleton.mp hx
      trivial
  | leaf q f hf =>
      intro _ _
      exact nodeNormal_of_field hf
  | nested path q ih =>
      intro _ hsettled x hx
      rw [nodes, List.mem_cons] at hx
      rcases hx with rfl | hx
      · trivial
      · have hq : (nested path q).Settled := hsettled _ (by simp [nodes])
        obtain ⟨f, hf⟩ := Option.ne_none_iff_exists'.mp hq
        exact nodeNormal_of_field hf x hx
  | bool must filter should mustNot ih =>
      intro hnormal hsettled x hx
      obtain ⟨rfl, hform, hm, hs, hn⟩ := hnormal
      rcases mem_nodes_bool.mp hx with rfl | ⟨q, hq, hx⟩
      · refine ⟨rfl, ?_, ?_, ?_⟩
        · rcases hform with ⟨rfl, hsize, -⟩ | ⟨rfl, rfl, hsize, -⟩
          · exact .inr ⟨rfl, hsize.imp_right List.length_pos_iff.mpr⟩
          · exact .inl ⟨rfl, rfl, hsize⟩
        · intro required excluded hmem
          rcases hform with ⟨-, -, hclauses⟩ | ⟨rfl, -, -⟩
          · exact absurd (hclauses _ hmem) (by simp [isConjunction])
          · cases hmem
        · intro options hmem
          rcases hform with ⟨rfl, -⟩ | ⟨-, -, -, hclauses⟩
          · cases hmem
          · exact absurd (hclauses _ hmem) (by simp [isDisjunction])
      · have hnormal : q.Normal := by
          simp only [List.append_nil, List.mem_append] at hq
          rcases hq with (hq | hq) | hq
          · exact allNormal_iff.mp hm q hq
          · exact allNormal_iff.mp hs q hq
          · exact allNormal_iff.mp hn q hq
        refine ih q hq hnormal (fun y hy => hsettled y ?_) x hx
        exact mem_nodes_bool.mpr (.inr ⟨q, hq, hy⟩)
  | boost q factor ih =>
      intro hnormal hsettled x hx
      obtain ⟨hb, hone, hnormal⟩ := hnormal
      rw [nodes, List.mem_cons] at hx
      rcases hx with rfl | hx
      · refine ⟨?_, hone⟩
        rintro inner f rfl
        cases hb
      · refine ih hnormal (fun y hy => hsettled y ?_) x hx
        simp [nodes, hy]

end Query

namespace Resolution

open Query

variable {lookup : String → Option FieldMapping} {options : ResolveOptions}

/-- A leaf resolves to a query without parts, or to one inside of a nested
object. -/
theorem forall_nodes_leaf {N : Query → Prop} (hall : N .all)
    (hliteral : ∀ {f literal q}, literalQuery f literal = .ok q → N q)
    (hnested : ∀ {f literal q} (path : String), literalQuery f literal = .ok q →
      N (.nested path q))
    {scope field : Option String} {literal : Literal} {q : Query}
    (h : leaf lookup options scope field literal = .ok q) :
    ∀ x ∈ q.nodes, N x := by
  simp only [leaf] at h
  split at h
  · obtain rfl := Except.ok.inj h
    simpa [nodes] using hall
  · obtain ⟨f, -, h⟩ := bind_eq_ok.mp h
    obtain ⟨q', hq', h⟩ := bind_eq_ok.mp h
    obtain rfl := Except.ok.inj h
    have hfield := (suits_literalQuery hq').1
    cases f.nested with
    | none => simpa [inNested, nodes_of_field hfield] using hliteral hq'
    | some path =>
        simpa [inNested, nodes, nodes_of_field hfield] using
          ⟨hnested path hq', hliteral hq'⟩

theorem settled_leaf {scope field : Option String} {literal : Literal}
    {q : Query} (h : leaf lookup options scope field literal = .ok q) :
    ∀ x ∈ q.nodes, x.Settled := by
  refine forall_nodes_leaf (N := Settled) trivial ?_ ?_ h
  · intro f literal q hq
    have hfield := (suits_literalQuery hq).1
    cases q with
    | nested path q => cases hfield
    | boost q factor => cases hfield
    | _ => trivial
  · intro f literal q path hq
    show q.field? ≠ none
    simp [(suits_literalQuery hq).1]

end Resolution

/-- **Every resolved query is settled**, also where groups are empty. -/
theorem settled_of_resolve {lookup : String → Option FieldMapping}
    {options : ResolveOptions} {e : Option Expr} {q : Query}
    (h : resolve lookup options e = .ok q) : ∀ x ∈ q.nodes, x.Settled :=
  Query.clausewise_settled.resolve (by simp [Query.nodes, Query.Settled])
    (fun _ _ _ _ => Resolution.settled_leaf) h

/-- **Resolved queries are in normal form.** Below a filter around the whole,
every node of what an expression without empty groups resolves to is normal. -/
theorem resolve_nodeNormal {lookup : String → Option FieldMapping}
    {options : ResolveOptions} {e : Expr} {q : Query} (hne : e.GroupsNonempty)
    (h : resolve lookup options (some e) = .ok q) :
    ∃ root, q = (if options.asFilter then .bool [] [root] [] [] else root) ∧
      ∀ x ∈ root.nodes, x.NodeNormal := by
  have hsettled := settled_of_resolve h
  rw [resolve] at h
  obtain ⟨root, hroot, rfl⟩ := map_eq_ok.mp h
  obtain ⟨hnormal, -⟩ := (Resolution.meaning_invariant lookup options
    fun _ => false).query e hroot hne
  refine ⟨root, rfl, Query.nodeNormal_of_normal root hnormal fun x hx => ?_⟩
  split at hsettled
  · exact hsettled x (Query.mem_nodes_bool.mpr (.inr ⟨root, by simp, hx⟩))
  · exact hsettled x hx

/-- Alternatives with boosts that cancel out, a scoped group that is spliced and
a negated disjunction, resolved to a filter. -/
theorem resolve_nodeNormal_spliced :
    let lookup (name : String) : Option FieldMapping :=
      some { name := name, path := name, type := .text }
    let options : ResolveOptions := ⟨some "body", true⟩
    let term (text : String) : Expr := .leaf none (.term text)
    let e : Expr := .bool .or
      [.boosted (.boosted (term "a") (.nearest false 2 1)) (.nearest false 1 2),
        .inField "title" (.bool .or [term "b", term "c"]),
        .not (.bool .or [term "d", .leaf none (.wildcard "*")])]
    let on (name text : String) : Query :=
      .fullText { name := name, path := name, type := .text } text
    let root : Query := .bool [] []
      [on "body" "a", on "title" "b", on "title" "c",
        .bool [] [] [] [on "body" "d", .all]] []
    e.GroupsNonempty ∧
      resolve lookup options (some e) = .ok (.bool [] [root] [] []) ∧
      ∀ x ∈ root.nodes, x.NodeNormal := by
  intro lookup options term e on root
  have hne : e.GroupsNonempty := by
    simp [e, term, Expr.not, Expr.GroupsNonempty, Expr.AllGroupsNonempty]
  have h : resolve lookup options (some e) = .ok (.bool [] [root] [] []) := rfl
  obtain ⟨r, hr, hnormal⟩ := resolve_nodeNormal hne h
  obtain rfl : root = r := by simpa [options] using hr
  exact ⟨hne, h, hnormal⟩

end Searchlight
