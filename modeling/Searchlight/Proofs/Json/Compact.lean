import Searchlight.Proofs.Json.Scalar

/-!
# Compact text determines its value

No compact text is the beginning of another one where a number would end: strings
are delimited, numbers go on to where they end, and arrays and objects close
themselves.
-/

namespace Searchlight.Json

/-! ## Values -/

/-- Every number of a value is finite, at any depth. -/
inductive Finite : Json → Prop
  | null : Finite .null
  | bool (b : Bool) : Finite (.bool b)
  | integer (n : ℤ) : Finite (.integer n)
  | float {x : Double} (h : x.isFinite = true) : Finite (.float x)
  | string (s : String) : Finite (.string s)
  | array {items : List Json} (h : ∀ v ∈ items, Finite v) :
      Finite (.array items)
  | object {members : List (String × Json)} (h : ∀ m ∈ members, Finite m.2) :
      Finite (.object members)

/-- What the first character of a text tells about its value. -/
inductive Shape where
  | null
  | bool
  | number
  | string
  | array
  | object

def shape : Json → Shape
  | null => .null
  | bool _ => .bool
  | integer _ | float _ => .number
  | string _ => .string
  | array _ => .array
  | object _ => .object

def Shape.ofChar? (c : Char) : Option Shape :=
  if isNumeric c then some .number
  else [('n', .null), ('t', .bool), ('f', .bool), ('"', .string), ('[', .array),
    ('\x7b', .object)].lookup c

theorem ofChar_of_numeric {cs : List Char} (h : Numeric cs) (hne : cs ≠ []) :
    ∃ c rest, cs = c :: rest ∧ Shape.ofChar? c = some .number := by
  obtain ⟨c, rest, rfl⟩ := List.exists_cons_of_ne_nil hne
  exact ⟨c, rest, rfl, if_pos (h c (by simp))⟩

theorem compact_float {x : Double} (h : x.isFinite = true) :
    compact (.float x) = Binary.documented.write x :=
  if_pos h

theorem ofChar_compact {v : Json} (h : v.Finite) :
    ∃ c rest, compact v = c :: rest ∧ Shape.ofChar? c = some v.shape := by
  cases h with
  | null => exact ⟨'n', _, rfl, rfl⟩
  | bool b =>
      cases b with
      | true => exact ⟨'t', _, rfl, rfl⟩
      | false => exact ⟨'f', _, rfl, rfl⟩
  | integer n =>
      have hne : (toString n).toList ≠ [] := by
        rw [toList_toString]
        exact List.append_ne_nil_of_right_ne_nil _ Nat.toDigits_ne_nil
      exact ofChar_of_numeric (numeric_toString n) hne
  | @float x hx =>
      have hnumeric := numeric_write Binary.documented hx
      have hmark := hasFloatMark_documented hx
      rw [compact_float hx]
      refine ofChar_of_numeric hnumeric ?_
      rcases hmark with hmark | hmark
      · exact List.ne_nil_of_mem hmark
      · exact List.ne_nil_of_mem hmark
  | string s => exact ⟨'"', _, rfl, rfl⟩
  | array h => exact ⟨'[', _, rfl, rfl⟩
  | object h => exact ⟨'\x7b', _, rfl, rfl⟩

theorem shape_eq {a b : Json} (ha : a.Finite) (hb : b.Finite) {r s : List Char}
    (h : compact a ++ r = compact b ++ s) : a.shape = b.shape := by
  obtain ⟨c, _, hcs, hc⟩ := ofChar_compact ha
  obtain ⟨d, _, hds, hd⟩ := ofChar_compact hb
  rw [hcs, hds] at h
  obtain rfl := (List.cons.inj h).1
  exact Option.some.inj (hc.symm.trans hd)

/-! ## Separated texts -/

variable {α : Type} {text : α → List Char} {Ok : α → Prop}

/-- Where a number would end, the text of `x` ends as well: what it stands for
and what follows it are determined. -/
def Delimited (text : α → List Char) (Ok : α → Prop) (x : α) : Prop :=
  ∀ {y : α} {r s : List Char}, Ok y → EndsNumber r → EndsNumber s →
    text x ++ r = text y ++ s → x = y ∧ r = s

/-- Texts with commas between them. -/
def joined (text : α → List Char) : List α → List Char
  | [] => []
  | [x] => text x
  | x :: rest => text x ++ ',' :: joined text rest

/-- What stands behind a text, up to the end of all of them. -/
def behind (text : α → List Char) (close : List Char) : List α → List Char
  | [] => close
  | x :: rest => ',' :: (joined text (x :: rest) ++ close)

theorem joined_cons_append (x : α) (rest : List α) (close : List Char) :
    joined text (x :: rest) ++ close = text x ++ behind text close rest := by
  cases rest <;> simp [joined, behind]

theorem endsNumber_cons {c : Char} (h : isNumeric c = false) (r : List Char) :
    EndsNumber (c :: r) := by
  simpa [EndsNumber] using h

theorem endsNumber_behind {c : Char} (hc : isNumeric c = false) (r : List Char)
    (rest : List α) : EndsNumber (behind text (c :: r) rest) := by
  cases rest with
  | nil => exact endsNumber_cons hc r
  | cons x rest => exact endsNumber_cons (by decide) _

section Closed

variable {close : Char} (hclose : isNumeric close = false) (hcomma : close ≠ ',')

include hclose hcomma

/-- A comma tells that there is one more, and the closing character that there
is none. -/
theorem behind_cancel {xs : List α} (hxs : ∀ x ∈ xs, Delimited text Ok x) :
    ∀ {ys : List α}, (∀ y ∈ ys, Ok y) → ∀ {r s : List Char},
      behind text (close :: r) xs = behind text (close :: s) ys →
        xs = ys ∧ r = s := by
  induction xs with
  | nil =>
      intro ys hys r s h
      cases ys with
      | nil => exact ⟨rfl, (List.cons.inj h).2⟩
      | cons y ys => exact absurd (List.cons.inj h).1 hcomma
  | cons x xs ih =>
      intro ys hys r s h
      cases ys with
      | nil => exact absurd (List.cons.inj h).1.symm hcomma
      | cons y ys =>
          obtain ⟨hx, hxs'⟩ := List.forall_mem_cons.mp hxs
          obtain ⟨hy, hys'⟩ := List.forall_mem_cons.mp hys
          have htexts := (List.cons.inj h).2
          rw [joined_cons_append, joined_cons_append] at htexts
          obtain ⟨rfl, hbehind⟩ := hx hy (endsNumber_behind hclose _ xs)
            (endsNumber_behind hclose _ ys) htexts
          obtain ⟨rfl, hrest⟩ := ih hxs' hys' hbehind
          exact ⟨rfl, hrest⟩

/-- Between brackets, separated texts are determined. -/
theorem joined_cancel (hhead : ∀ {y : α}, Ok y → ∀ r s, text y ++ r ≠ close :: s)
    {xs ys : List α} (hxs : ∀ x ∈ xs, Ok x) (hys : ∀ y ∈ ys, Ok y)
    (hone : ∀ x ∈ xs, Delimited text Ok x) {r s : List Char}
    (h : joined text xs ++ close :: r = joined text ys ++ close :: s) :
    xs = ys ∧ r = s := by
  cases xs with
  | nil =>
      cases ys with
      | nil => exact ⟨rfl, (List.cons.inj h).2⟩
      | cons y ys =>
          rw [joined_cons_append] at h
          exact absurd h.symm (hhead (hys y (by simp)) _ _)
  | cons x xs =>
      cases ys with
      | nil =>
          rw [joined_cons_append] at h
          exact absurd h (hhead (hxs x (by simp)) _ _)
      | cons y ys =>
          -- one comma more makes both texts stand behind something
          refine behind_cancel hclose hcomma hone hys ?_
          rw [behind, behind, h]

end Closed

/-! ## Compact text -/

theorem compactItems_eq (items : List Json) :
    compactItems items = joined compact items := by
  induction items with
  | nil => rfl
  | cons v rest ih =>
      cases rest with
      | nil => rfl
      | cons w rest => rw [compactItems, joined, ih] <;> simp

def compactMember (m : String × Json) : List Char :=
  writeString m.1 ++ ':' :: compact m.2

theorem compactMembers_eq (members : List (String × Json)) :
    compactMembers members = joined compactMember members := by
  induction members with
  | nil => rfl
  | cons m rest ih =>
      cases rest with
      | nil => rfl
      | cons w rest =>
          rw [compactMembers, joined, ih] <;> simp [compactMember]

theorem compact_ne_close {v : Json} (hv : v.Finite) {close : Char}
    (hclose : Shape.ofChar? close = none) (r s : List Char) :
    compact v ++ r ≠ close :: s := by
  intro h
  obtain ⟨c, _, hcs, hc⟩ := ofChar_compact hv
  rw [hcs] at h
  rw [(List.cons.inj h).1, hclose] at hc
  cases hc

theorem delimited_member {m : String × Json}
    (h : Delimited compact Finite m.2) :
    Delimited compactMember (fun m => m.2.Finite) m := by
  intro n r s hn hr hs heq
  simp only [compactMember, List.append_assoc, List.cons_append] at heq
  obtain ⟨hname, heq⟩ := writeString_cancel heq
  obtain ⟨hvalue, hrest⟩ := h hn hr hs (List.cons.inj heq).2
  exact ⟨Prod.ext hname hvalue, hrest⟩

theorem delimited_integer (n : ℤ) : Delimited compact Finite (.integer n) := by
  intro b r s hb hr hs h
  have hshape := shape_eq (.integer n) hb h
  cases hb with
  | integer m =>
      obtain ⟨htext, hrest⟩ := run_cancel (numeric_toString n)
        (numeric_toString m) hr hs h
      have hread := readInteger_toString n
      rw [htext, readInteger_toString] at hread
      rw [Option.some.inj hread]
      exact ⟨rfl, hrest⟩
  | float hy =>
      rw [compact_float hy] at h
      have hnumeric := numeric_write Binary.documented hy
      have hmark := hasFloatMark_documented hy
      obtain ⟨htext, -⟩ := run_cancel (numeric_toString n) hnumeric hr hs h
      exact absurd (htext ▸ hmark) (not_hasFloatMark_toString n)
  | _ => cases hshape

theorem delimited_float {x : Double} (hx : x.isFinite = true) :
    Delimited compact Finite (.float x) := by
  intro b r s hb hr hs h
  have hshape := shape_eq (.float hx) hb h
  have hnumeric := numeric_write Binary.documented hx
  have hmark := hasFloatMark_documented hx
  rw [compact_float hx] at h
  cases hb with
  | integer m =>
      obtain ⟨htext, -⟩ := run_cancel hnumeric (numeric_toString m) hr hs h
      exact absurd (htext ▸ hmark) (not_hasFloatMark_toString m)
  | float hy =>
      rw [compact_float hy] at h
      obtain ⟨htext, hrest⟩ :=
        run_cancel hnumeric (numeric_write _ hy) hr hs h
      rw [write_injective _ htext]
      exact ⟨rfl, hrest⟩
  | _ => cases hshape

/-- **The text of a value ends by itself**, or where a number would end. -/
theorem delimited_compact {a : Json} (ha : a.Finite) :
    Delimited compact Finite a := by
  induction ha with
  | null =>
      intro b r s hb hr hs h
      have hshape := shape_eq .null hb h
      cases hb with
      | null => exact ⟨rfl, List.append_cancel_left h⟩
      | _ => cases hshape
  | bool x =>
      intro b r s hb hr hs h
      have hshape := shape_eq (.bool x) hb h
      cases hb with
      | bool y => cases x <;> cases y <;> simp_all [compact]
      | _ => cases hshape
  | integer n => exact delimited_integer n
  | float hx => exact delimited_float hx
  | string x =>
      intro b r s hb hr hs h
      have hshape := shape_eq (.string x) hb h
      cases hb with
      | string y =>
          obtain ⟨rfl, hrest⟩ := writeString_cancel h
          exact ⟨rfl, hrest⟩
      | _ => cases hshape
  | @array items hitems ih =>
      intro b r s hb hr hs h
      have hshape := shape_eq (.array hitems) hb h
      cases hb with
      | array hitems' =>
          simp only [compact, compactItems_eq, List.cons_append,
            List.append_assoc, List.nil_append, List.cons.injEq, true_and] at h
          obtain ⟨rfl, hrest⟩ := joined_cancel (by decide) (by decide)
            (fun hv => compact_ne_close hv rfl) hitems hitems' ih h
          exact ⟨rfl, hrest⟩
      | _ => cases hshape
  | @object members hmembers ih =>
      intro b r s hb hr hs h
      have hshape := shape_eq (.object hmembers) hb h
      cases hb with
      | object hmembers' =>
          simp only [compact, compactMembers_eq, List.cons_append,
            List.append_assoc, List.nil_append, List.cons.injEq, true_and] at h
          have hhead : ∀ {m : String × Json}, m.2.Finite → ∀ r s,
              compactMember m ++ r ≠ '\x7d' :: s := by
            intro m _ r s heq
            simp [compactMember, writeString] at heq
          obtain ⟨rfl, hrest⟩ := joined_cancel (by decide) (by decide) hhead
            hmembers hmembers' (fun m hm => delimited_member (ih m hm)) h
          exact ⟨rfl, hrest⟩
      | _ => cases hshape

/-- **Different values have different compact texts.** -/
theorem compactText_injective {a b : Json} (ha : a.Finite) (hb : b.Finite)
    (h : a.compactText = b.compactText) : a = b := by
  have htext : compact a ++ [] = compact b ++ [] := by
    rw [List.append_nil, List.append_nil]
    exact String.ofList_injective h
  have hends : EndsNumber [] := by simp [EndsNumber]
  exact (delimited_compact ha hb hends hends htext).1

end Searchlight.Json
