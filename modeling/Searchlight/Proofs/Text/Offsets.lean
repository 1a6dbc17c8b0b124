import Mathlib.Data.Nat.Basic
import Searchlight.Text.Bytes

/-!
# Characters and their offsets

Every character of a text stands at an offset in bytes, and these offsets are where the
text may be cut.
-/

namespace Searchlight

namespace Text

variable {cs : List Char} {c : Char} {offset o : Nat}

theorem byteLength_eq : ∀ cs : List Char, byteLength cs = (String.ofList cs).utf8ByteSize
  | [] => rfl
  | c :: cs => by
      rw [byteLength_cons, byteLength_eq cs, String.ofList_cons, String.utf8ByteSize_append,
        String.utf8ByteSize_singleton]

theorem byteLength_pos (h : cs ≠ []) : 0 < byteLength cs := by
  cases cs with
  | nil => exact absurd rfl h
  | cons c cs =>
      have hsize := c.utf8Size_pos
      rw [byteLength_cons]
      omega

/-- What is in front of a part of a text ends where the text may be cut. -/
theorem isValid_of_append {text before after : String} (h : text = before ++ after) :
    String.Pos.Raw.IsValid text ⟨before.utf8ByteSize⟩ :=
  String.Pos.Raw.isValid_iff_exists_append.mpr ⟨before, after, h, rfl⟩

/-- The characters of a text that starts at an offset, each with its own offset. -/
def placed (offset : Nat) : List Char → List (Nat × Char)
  | [] => []
  | c :: rest => (offset, c) :: placed (offset + c.utf8Size) rest

theorem placed_append (offset : Nat) (a b : List Char) :
    placed offset (a ++ b) = placed offset a ++ placed (offset + byteLength a) b := by
  induction a generalizing offset with
  | nil => rfl
  | cons c a ih =>
      rw [List.cons_append, placed, placed, ih, byteLength_cons, Nat.add_assoc, List.cons_append]

theorem mem_of_placed (h : (o, c) ∈ placed offset cs) :
    c ∈ cs ∧ offset ≤ o ∧ o < offset + byteLength cs := by
  induction cs generalizing offset with
  | nil => cases h
  | cons d cs ih =>
      have hsize := d.utf8Size_pos
      rw [byteLength_cons]
      rcases List.mem_cons.mp h with h | h
      · obtain ⟨rfl, rfl⟩ := Prod.mk.inj h
        exact ⟨List.mem_cons_self, by omega, by omega⟩
      · obtain ⟨hmem, hle, hlt⟩ := ih h
        exact ⟨List.mem_cons_of_mem _ hmem, by omega, by omega⟩

end Text

end Searchlight
