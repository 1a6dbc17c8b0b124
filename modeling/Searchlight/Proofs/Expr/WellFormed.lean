import Searchlight.Proofs.Expr.Nodes
import Searchlight.Proofs.Expr.Spelling

/-!
# Parsed expressions are well formed

What holds of every node of an expression that a query string stands for, and
how long its paths are. The shape of the nodes comes from how operands are
joined, their texts from the tokens that a scan can give, and the length of the
paths from the number of levels that a query may open.
-/

namespace Searchlight

open Text Scan

/-- Words of a phrase, with one space between them. -/
def IsPhrase (text : String) : Prop :=
  ∃ ws : List (List Char), ws ≠ [] ∧ (∀ w ∈ ws, w ≠ [] ∧ ∀ c ∈ w, isBlank c = false) ∧
    text.toList = [' '].intercalate ws

/-- Texts are not empty, and a distance is at most two. -/
def Literal.WellFormed : Literal → Prop
  | .term text => text ≠ ""
  | .phrase text _ => IsPhrase text
  | .range _ _ => True
  | .wildcard pattern => pattern ≠ ""
  | .fuzzy text distance => text ≠ "" ∧ ∀ n ∈ distance, n ≤ maxFuzzyDistance
  | .regex pattern => pattern ≠ ""

/-- The node itself is well formed, whatever its parts are. No part of a field
scope names a field again. -/
def Expr.WellFormed : Expr → Prop
  | leaf field literal => (∀ name ∈ field, name ≠ "") ∧ literal.WellFormed
  | inField field body => field ≠ "" ∧ ∀ x ∈ body.nodes, x.namesField = false
  | bool op operands => Joined op operands
  | boosted _ factor => factor.isFinite = true ∧ factor.isPositive = true

/-- The text of a phrase is made of its words. -/
theorem isPhrase_of_phraseText {text : String} (hne : text ≠ "")
    (htext : Parse.phraseText text = text) : IsPhrase text := by
  have hwords : text.toList = [' '].intercalate (words text.toList) := by
    rw [← htext, Parse.phraseText, String.toList_ofList, words_intercalate]
  refine ⟨words text.toList, ?_, ?_, hwords⟩
  · intro hnil
    rw [hnil] at hwords
    exact hne (by simpa using hwords)
  · intro w hw
    obtain ⟨hne, hall⟩ := mem_runs hw
    exact ⟨hne, fun c hc => by simpa using hall c hc⟩

theorem Literal.Spellable.wellFormed {ctx : Scan.Context} {l : Literal} (h : l.Spellable ctx) :
    l.WellFormed := by
  cases l with
  | term text => exact h
  | phrase text slop => exact isPhrase_of_phraseText h.1 h.2.1
  | range lower upper => trivial
  | wildcard pattern =>
      obtain ⟨c, cs, hp, -, -⟩ := h
      show pattern ≠ ""
      rintro rfl
      cases hp
  | fuzzy text distance => exact h
  | regex pattern => exact h.1

namespace Expr

mutual

theorem Shaped.wellFormed : ∀ {e : Expr}, e.Shaped → e.Spellable →
    ∀ x ∈ e.nodes, x.WellFormed
  | leaf _ _, _, h, x, hx => by
      obtain rfl := List.mem_singleton.mp hx
      exact ⟨h.1, h.2.wellFormed⟩
  | inField _ body, hs, h, x, hx => by
      rcases List.mem_cons.mp hx with rfl | hx
      · exact ⟨h.1, namesField_of_mem_nodes hs.1⟩
      · exact Shaped.wellFormed hs.2 h.2 x hx
  | bool _ operands, hs, h, x, hx => by
      rcases List.mem_cons.mp hx with rfl | hx
      · exact hs.1
      · exact AllShaped.wellFormed hs.2 h x hx
  | boosted body _, hs, h, x, hx => by
      rcases List.mem_cons.mp hx with rfl | hx
      · exact hs.1
      · exact Shaped.wellFormed (e := body) hs.2 h x hx

theorem AllShaped.wellFormed : ∀ {es : List Expr}, AllShaped es → AllSpellable es →
    ∀ x ∈ nodesAll es, x.WellFormed
  | [], _, _, x, hx => absurd hx List.not_mem_nil
  | _ :: _, hs, h, x, hx => by
      rcases List.mem_append.mp hx with hx | hx
      · exact Shaped.wellFormed hs.1 h.1 x hx
      · exact AllShaped.wellFormed hs.2 h.2 x hx

end

end Expr

/-- **What a query string stands for is well formed and not too high.** On a way
from the root to a leaf there are at most four nodes for each level that may be
opened, and four more; and no more negations and field scopes than levels. -/
theorem wellFormed_of_parseQuery {query : String} {e : Expr}
    (h : parseQuery query = .ok (some e)) :
    (∀ x ∈ e.nodes, x.WellFormed) ∧
      ∀ path ∈ e.paths, path.length ≤ 4 * maxDepth + 4 ∧
        path.countP Expr.opensLevel ≤ maxDepth := by
  constructor
  · exact (shaped_of_parseQuery h).wellFormed (spellable_of_parseQuery h)
  · obtain ⟨ts, d, -, -, -, hlevels, rfl⟩ := parseQuery_eq_ok_some_iff.mp h
    exact d.bounded_expr.mono (by omega) hlevels

/-- A scope with an alternative of its own, negated. -/
theorem wellFormed_of_parseQuery_scoped :
    let query := "x -title:(a b~1 OR \"c  d\")"
    let leaf (literal : Literal) : Expr := .leaf none literal
    let scope : Expr := .inField "title" (.bool .or
      [.bool .and [leaf (.term "a"), leaf (.fuzzy "b" (some 1))], leaf (.phrase "c d" 0)])
    let e : Expr := .bool .and [leaf (.term "x"), scope.not]
    parseQuery query = .ok (some e) ∧ scope ∈ e.nodes ∧ scope.WellFormed ∧
      [e, scope.not, scope] <+: (e.paths.getD 1 []) ∧
      (e.paths.getD 1 []).length ≤ 4 * maxDepth + 4 := by
  intro query leaf scope e
  have hparse : parseQuery query = .ok (some e) := by decide +kernel
  have hscope : scope ∈ e.nodes := by simp [e, scope, leaf, Expr.nodes, Expr.nodesAll, Expr.not]
  have hpath : e.paths.getD 1 [] ∈ e.paths := by
    simp [e, scope, leaf, Expr.paths, Expr.pathsAll, Expr.not]
  obtain ⟨hnodes, hpaths⟩ := wellFormed_of_parseQuery hparse
  exact ⟨hparse, hscope, hnodes scope hscope, ⟨_, rfl⟩, (hpaths _ hpath).1⟩

end Searchlight
