import Searchlight.Proofs.Expr.Shape

/-!
# Expressions in their surroundings

A frame is an expression with a hole in it. What stands in the hole is negated
if single negations are right above it, through field scopes and through each
other, and their number is odd.
-/

namespace Searchlight.Expr

/-- An expression with a hole. -/
inductive Frame where
  | hole
  | inField (field : String) (body : Frame)
  | bool (op : BoolOp) (before : List Expr) (inner : Frame) (after : List Expr)
  | boosted (body : Frame) (factor : Single)

namespace Frame

def fill : Frame → Expr → Expr
  | hole, e => e
  | inField name f, e => .inField name (f.fill e)
  | bool op before f after, e => .bool op (before ++ f.fill e :: after)
  | boosted f factor, e => .boosted (f.fill e) factor

/-- Whether a negation meets what is in the hole, with or without a negation in
front of the whole. -/
def negates (negated : Bool) : Frame → Bool
  | hole => negated
  | inField _ f => f.negates negated
  | bool .not [] f [] => f.negates (!negated)
  | bool _ _ f _ => f.negates false
  | boosted f _ => f.negates false

variable {x y : Expr}

theorem shaped_of_fill : ∀ {f : Frame}, (f.fill x).Shaped → x.Shaped
  | hole, h => h
  | inField _ f, h => shaped_of_fill (f := f) h.2
  | boosted f _, h => shaped_of_fill (f := f) h.2
  | bool _ _ f _, h => shaped_of_fill (f := f) (allShaped_iff.mp h.2 _ (by simp))

theorem groupsNonempty_fill (h : x.GroupsNonempty → y.GroupsNonempty) :
    ∀ {f : Frame}, (f.fill x).GroupsNonempty → (f.fill y).GroupsNonempty
  | hole, hx => h hx
  | inField _ f, hx => groupsNonempty_fill h (f := f) hx
  | boosted f _, hx => groupsNonempty_fill h (f := f) hx
  | bool _ before f after, hx => by
      refine ⟨by simp, ?_⟩
      have hall := allGroupsNonempty_iff.mp hx.2
      refine allGroupsNonempty_iff.mpr fun e he => ?_
      rcases List.mem_append.mp he with he | he
      · exact hall e (List.mem_append_left _ he)
      · rcases List.mem_cons.mp he with rfl | he
        · exact groupsNonempty_fill h (hall _ (by simp))
        · exact hall e (by simp [he])

/-- A negation that the parser returns has one operand. -/
theorem single_of_joined {before after : List Expr} {e : Expr}
    (h : Joined .not (before ++ e :: after)) : before = [] ∧ after = [] := by
  have hlen : (before ++ e :: after).length = 1 := h
  rw [List.length_append, List.length_cons] at hlen
  exact ⟨List.eq_nil_of_length_eq_zero (by omega),
    List.eq_nil_of_length_eq_zero (by omega)⟩

/-- Beside an operand of a conjunction or disjunction there is another one. -/
theorem others_of_shaped {op : BoolOp} (hop : op ≠ .not) {before after : List Expr}
    {e : Expr} (h : (Expr.bool op (before ++ e :: after)).Shaped) :
    before ++ after ≠ [] ∧ (∀ o ∈ before ++ after, o.Shaped) ∧ e.Shaped := by
  have htwo := h.1.two_le hop
  have hall := allShaped_iff.mp h.2
  refine ⟨fun hnil => ?_, fun o ho => hall o ?_, hall e (by simp)⟩
  · obtain ⟨rfl, rfl⟩ := List.append_eq_nil_iff.mp hnil
    simp at htwo
  · rcases List.mem_append.mp ho with ho | ho
    · exact List.mem_append_left _ ho
    · simp [ho]

end Frame

end Searchlight.Expr
