import Searchlight.Proofs.Query.Document
import Searchlight.Proofs.Text.Quoted
import Searchlight.Query.Outline

/-!
# What a headline tells about its query

The headline of a query is a title with arguments between parentheses, of which
the first is a path, a nested object or a factor. Where no path has a comma in it,
the arguments are found again; and where the fields of one path have one type, so
are the values that they stand for. So a headline tells all of a leaf but what its
field is besides the path, and of another query what its own line can tell.
-/

namespace Searchlight

open Text Json

/-! ## Texts of values -/

theorem repr_injective {m n : ℕ} (h : m.repr.toList = n.repr.toList) : m = n := by
  rw [Nat.repr_eq_ofList_toDigits, Nat.repr_eq_ofList_toDigits, String.toList_ofList,
    String.toList_ofList] at h
  rw [← digitsValue_toDigits m, h, digitsValue_toDigits]

/-- Values that one type can have. -/
inductive Value.Alike : Value → Value → Prop
  | text (s t : String) : Alike (.text s) (.text t)
  | integer (m n : ℤ) : Alike (.integer m) (.integer n)
  | float {x y : Double} (hx : x.isFinite = true) (hy : y.isFinite = true) :
      Alike (.float x) (.float y)
  | boolean (b c : Bool) : Alike (.boolean b) (.boolean c)

theorem Value.alike_of_hasType {type : FieldType} {v w : Value} (hv : v.HasType type)
    (hw : w.HasType type) : Alike v w := by
  cases v <;> cases type <;> try exact hv.elim
  all_goals cases w <;> try exact hw.elim
  all_goals
    first
    | exact .text _ _
    | exact .integer _ _
    | exact .float hv hw
    | exact .boolean _ _

/-- The text of a value ends by itself, or where a number would end. -/
theorem Value.Alike.cancel {v w : Value} (h : Alike v w) {r s : List Char}
    (hr : EndsNumber r) (hs : EndsNumber s)
    (heq : v.outline.toList ++ r = w.outline.toList ++ s) : v = w ∧ r = s := by
  cases h with
  | text a b =>
      obtain ⟨rfl, hrest⟩ := quoted_cancel heq
      exact ⟨rfl, hrest⟩
  | integer m n =>
      obtain ⟨htext, hrest⟩ :=
        run_cancel (numeric_toString m) (numeric_toString n) hr hs heq
      have hread := readInteger_toString m
      rw [htext, readInteger_toString] at hread
      rw [Option.some.inj hread]
      exact ⟨rfl, hrest⟩
  | @float x y hx hy =>
      have hlayout : ∀ z : Double, (Value.float z).outline.toList = Binary.plain.write z :=
        fun z => String.toList_ofList
      rw [hlayout, hlayout] at heq
      obtain ⟨htext, hrest⟩ :=
        run_cancel (numeric_write _ hx) (numeric_write _ hy) hr hs heq
      rw [write_injective _ htext]
      exact ⟨rfl, hrest⟩
  | boolean b c => cases b <;> cases c <;> simp_all [Value.outline]

theorem printable_numeric {cs : List Char} (h : Numeric cs) :
    ∀ c ∈ cs, isPrintable c = true := by
  intro c hc
  have hnumeric := h c hc
  simp only [Json.isNumeric, isAsciiDigit, Bool.or_eq_true, Bool.and_eq_true, decide_eq_true_eq]
    at hnumeric
  rcases hnumeric with (((⟨hlow, hhigh⟩ | rfl) | rfl) | rfl) | rfl
  · have hlow : 0x30 ≤ c.toNat := hlow
    have hhigh : c.toNat ≤ 0x39 := hhigh
    rw [isPrintable, if_pos (by omega)]
    exact decide_eq_true (by omega)
  all_goals decide

theorem printable_number {f : BinaryFormat} (x : Binary f) :
    ∀ c ∈ x.text.toList, isPrintable c = true := by
  rw [Binary.text, String.toList_ofList]
  cases x with
  | nan =>
      rw [FloatStyle.write]
      exact List.all_eq_true.mp rfl
  | infinite negative =>
      rw [FloatStyle.write]
      cases negative <;> exact List.all_eq_true.mp rfl
  | finite negative rank => exact printable_numeric (numeric_write _ rfl)

theorem Value.printable_outline (v : Value) :
    ∀ c ∈ v.outline.toList, isPrintable c = true := by
  cases v with
  | text s => exact printable_quoted s
  | integer n => exact printable_numeric (numeric_toString n)
  | float x => exact printable_number x
  | boolean b => cases b <;> exact List.all_eq_true.mp rfl

namespace Query

/-! ## Parts of a headline -/

/-- The word that a headline begins with. -/
def title : Query → String
  | all => "MatchAll"
  | term _ _ => "Term"
  | fullText _ _ => "Match"
  | phrase _ _ _ => "Phrase"
  | range _ _ _ => "Range"
  | wildcard _ _ => "Wildcard"
  | fuzzy _ _ _ => "Fuzzy"
  | regex _ _ => "Regex"
  | .exists _ => "Exists"
  | nested _ _ => "Nested"
  | bool _ _ _ _ => "Bool"
  | boost _ _ => "Boost"

/-- The first argument, if there is any. -/
def subject : Query → Option String
  | all | bool _ _ _ _ => none
  | nested path _ => some path
  | boost _ factor => some factor.text
  | q => q.field?.map Field.path

/-- The ends of a range that are not open, by their names. -/
def limits (inclusive exclusive : String) : Bound Value → List (String × Value)
  | .unbounded => []
  | .inclusive v => [(inclusive, v)]
  | .exclusive v => [(exclusive, v)]

/-- The ends of a range, the lower one before the upper one. -/
def ends (lower upper : Bound Value) : List (String × Value) :=
  limits "gte" "gt" lower ++ limits "lte" "lt" upper

def limitText (limit : String × Value) : String := limit.1 ++ "=" ++ limit.2.outline

theorem boundOutline_eq (inclusive exclusive : String) (b : Bound Value) :
    boundOutline inclusive exclusive b = (limits inclusive exclusive b).map limitText := by
  cases b <;> rfl

/-- The arguments behind the first one. -/
def details : Query → List String
  | term _ v => [v.outline]
  | fullText _ s | wildcard _ s | regex _ s => [quoted s]
  | phrase _ s slop => quoted s :: if 0 < slop then ["slop=" ++ slop.repr] else []
  | range _ lower upper => (ends lower upper).map limitText
  | fuzzy _ s distance =>
      quoted s ::
        match distance with
        | some d => ["distance=" ++ d.repr]
        | none => []
  | _ => []

/-- Arguments with what separates each from the one before it. -/
def attached (arguments : List String) : List Char :=
  arguments.flatMap fun s => ',' :: ' ' :: s.toList

def bracketed (q : Query) : List Char :=
  match q.subject with
  | none => []
  | some first => '(' :: (first.toList ++ attached q.details ++ [')'])

theorem toList_call (name first : String) (rest : List String) :
    (call name (first :: rest)).toList =
      name.toList ++ '(' :: (first.toList ++ attached rest ++ [')']) := by
  have hjoined : ∀ (rest : List String) (first : String),
      (", ".intercalate (first :: rest)).toList = first.toList ++ attached rest := by
    intro rest
    induction rest with
    | nil => simp [attached]
    | cons s rest ih =>
        intro first
        rw [String.intercalate_cons_cons, String.toList_append, String.toList_append, ih s]
        simp [attached]
  simp [call, hjoined]

theorem toList_headline (q : Query) :
    q.headline.toList = q.title.toList ++ q.bracketed := by
  cases q with
  | all | bool => simp [headline, title, bracketed, subject]
  | range f lower upper =>
      rw [headline, boundOutline_eq, boundOutline_eq, List.cons_append, toList_call,
        ← List.map_append]
      rfl
  | _ => exact toList_call _ _ _

theorem head_attached (arguments : List String) :
    ∀ c ∈ (attached arguments).head?, c = ',' := by
  cases arguments with
  | nil => simp [attached]
  | cons s rest => simp [attached]

theorem endsNumber_attached (arguments : List String) : EndsNumber (attached arguments) := by
  intro c hc
  rw [head_attached arguments c hc]
  decide

theorem head_bracketed (q : Query) : ∀ c ∈ q.bracketed.head?, c = '(' := by
  rw [bracketed]
  split <;> simp

theorem bracket_notMem_title (q : Query) : '(' ∉ q.title.toList := by
  cases q <;> simp [title]

theorem sameKind_of_title {q r : Query} (hq : isBoost q = false)
    (h : q.title = r.title) : SameKind q r := by
  cases q <;> cases r <;> first | constructor | simp_all [title, isBoost]

/-! ## Ends of ranges -/

theorem attached_limit (limit : String × Value) (rest : List (String × Value)) :
    attached ((limit :: rest).map limitText) = ',' :: ' ' :: (limit.1.toList ++
      '=' :: (limit.2.outline.toList ++ attached (rest.map limitText))) := by
  simp [attached, limitText]

/-- Ends that are named without an equals sign are told from their texts. -/
theorem limits_cancel {as : List (String × Value)} :
    ∀ {bs : List (String × Value)}, (∀ a ∈ as, '=' ∉ a.1.toList) →
      (∀ b ∈ bs, '=' ∉ b.1.toList) → (∀ a ∈ as, ∀ b ∈ bs, a.2.Alike b.2) →
      attached (as.map limitText) = attached (bs.map limitText) → as = bs := by
  induction as with
  | nil =>
      intro bs _ _ _ h
      cases bs with
      | nil => rfl
      | cons b bs =>
          rw [attached_limit] at h
          cases h
  | cons a as ih =>
      intro bs ha hb halike h
      cases bs with
      | nil =>
          rw [attached_limit] at h
          cases h
      | cons b bs =>
          obtain ⟨ha, has⟩ := List.forall_mem_cons.mp ha
          obtain ⟨hb, hbs⟩ := List.forall_mem_cons.mp hb
          obtain ⟨hab, halike⟩ := List.forall_mem_cons.mp halike
          rw [attached_limit, attached_limit] at h
          obtain ⟨hname, h⟩ :=
            cancel_at ha hb (by simp) (by simp) (List.cons.inj (List.cons.inj h).2).2
          obtain ⟨hvalue, h⟩ := (hab b List.mem_cons_self).cancel (endsNumber_attached _)
            (endsNumber_attached _) (List.cons.inj h).2
          have hrest := ih has hbs (fun x hx y hy => halike x hx y (List.mem_cons_of_mem _ hy)) h
          rw [hrest, Prod.ext (String.toList_inj.mp hname) hvalue]

theorem mem_limits {inclusive exclusive : String} {b : Bound Value} {limit : String × Value}
    (h : limit ∈ limits inclusive exclusive b) :
    (limit.1 = inclusive ∨ limit.1 = exclusive) ∧ b.value? = some limit.2 := by
  cases b with
  | unbounded => cases h
  | inclusive v | exclusive v =>
      obtain rfl := List.mem_singleton.mp h
      simp [Bound.value?]

theorem equals_notMem_ends {lower upper : Bound Value} :
    ∀ limit ∈ ends lower upper, '=' ∉ limit.1.toList := by
  intro limit h
  rcases List.mem_append.mp h with h | h
  · rcases (mem_limits h).1 with hname | hname <;> simp [hname]
  · rcases (mem_limits h).1 with hname | hname <;> simp [hname]

theorem hasType_ends {lower upper : Bound Value} {type : FieldType}
    (hlower : ∀ v, lower.value? = some v → v.HasType type)
    (hupper : ∀ v, upper.value? = some v → v.HasType type) :
    ∀ limit ∈ ends lower upper, limit.2.HasType type := by
  intro limit h
  rcases List.mem_append.mp h with h | h
  · exact hlower _ (mem_limits h).2
  · exact hupper _ (mem_limits h).2

theorem ends_injective {a b c d : Bound Value} (h : ends a b = ends c d) :
    a = c ∧ b = d := by
  have hmembers : ∀ {inclusive exclusive : String} {b : Bound Value},
      Document.boundMembers inclusive exclusive b =
        (limits inclusive exclusive b).map fun limit => (limit.1, limit.2.json) := by
    intro inclusive exclusive b
    cases b <;> rfl
  apply Document.ends_inj
  rw [hmembers, hmembers, hmembers, hmembers, ← List.map_append, ← List.map_append]
  exact congrArg (List.map fun limit : String × Value => (limit.1, limit.2.json)) h

/-! ## Same headlines -/

/-- Mapped fields of one path have one type, and their paths have no comma and no
line feed in them. -/
structure Legible (lookup : String → Option FieldMapping) : Prop where
  type : ∀ {f g}, Mapped lookup f → Mapped lookup g → f.path = g.path → f.type = g.type
  path : ∀ {f}, Mapped lookup f → ',' ∉ f.path.toList ∧ '\n' ∉ f.path.toList
  nested : ∀ {f}, Mapped lookup f → ∀ path ∈ f.nested, '\n' ∉ path.toList

/-- Queries that are the same on paths, but for the queries in them. -/
inductive SameLine : Query → Query → Prop
  | all : SameLine all all
  | leaf {q r : Query} {f g : Field} (hq : q.field? = some f) (hr : r.field? = some g)
      (h : q.reduced = r.reduced) : SameLine q r
  | nested (path : String) (q r : Query) : SameLine (nested path q) (nested path r)
  | bool (m f s n m' f' s' n' : List Query) : SameLine (bool m f s n) (bool m' f' s' n')
  | boost (q r : Query) (factor : Single) : SameLine (boost q factor) (boost r factor)

theorem slop_injective {m n : ℕ}
    (h : attached (if 0 < m then ["slop=" ++ m.repr] else []) =
      attached (if 0 < n then ["slop=" ++ n.repr] else [])) : m = n := by
  split at h
  · split at h
    · exact repr_injective (by simpa [attached] using h)
    · simp [attached] at h
  · split at h
    · simp [attached] at h
    · omega

theorem distance_injective {m n : Option ℕ}
    (h : attached (match m with | some d => ["distance=" ++ d.repr] | none => []) =
      attached (match n with | some d => ["distance=" ++ d.repr] | none => [])) :
    m = n := by
  cases m with
  | none =>
      cases n with
      | none => rfl
      | some n => simp [attached] at h
  | some m =>
      cases n with
      | none => simp [attached] at h
      | some n => rw [repr_injective (m := m) (n := n) (by simpa [attached] using h)]

theorem attached_quoted (s : String) (rest : List String) :
    attached (quoted s :: rest) = ',' :: ' ' :: ((quoted s).toList ++ attached rest) := by
  simp [attached]

theorem attached_quoted_cancel {s t : String} {rest rest' : List String}
    (h : attached (quoted s :: rest) = attached (quoted t :: rest')) :
    s = t ∧ attached rest = attached rest' := by
  rw [attached_quoted, attached_quoted] at h
  exact quoted_cancel (List.cons.inj (List.cons.inj h).2).2

variable {lookup : String → Option FieldMapping} {q r : Query} {f g : Field}

/-- The path of a leaf ends where its details begin. -/
theorem leaf_cancel (hlegible : Legible lookup) (hf : Mapped lookup f)
    (hg : Mapped lookup g) (hq : q.subject = some f.path) (hr : r.subject = some g.path)
    (h : q.bracketed = r.bracketed) :
    f.path = g.path ∧ f.type = g.type ∧ attached q.details = attached r.details := by
  rw [bracketed, bracketed, hq, hr] at h
  have htexts := List.append_cancel_right (List.cons.inj h).2
  obtain ⟨hpath, hdetails⟩ := cancel_at (hlegible.path hf).1 (hlegible.path hg).1
    (head_attached _) (head_attached _) htexts
  have hpath : f.path = g.path := String.toList_inj.mp hpath
  exact ⟨hpath, hlegible.type hf hg hpath, hdetails⟩

/-- What a leaf asks for is told by its details. -/
theorem reduced_of_details {type : FieldType} (hsame : SameKind q r)
    (hf : q.field? = some f) (hg : r.field? = some g) (hpath : f.path = g.path)
    (hq : q.Suits type) (hr : r.Suits type)
    (h : attached q.details = attached r.details) : q.reduced = r.reduced := by
  cases hsame with
  | all | nested | bool => cases hf
  | term f' g' v w =>
      cases hf
      cases hg
      have halike := Value.alike_of_hasType hq.2 hr.2
      have htexts : v.outline.toList ++ [] = w.outline.toList ++ [] := by
        simpa [details, attached] using h
      obtain ⟨rfl, -⟩ := halike.cancel (by simp [EndsNumber]) (by simp [EndsNumber]) htexts
      rw [reduced, reduced, reduced_field hpath]
  | fullText f' g' s t | wildcard f' g' s t | regex f' g' s t =>
      cases hf
      cases hg
      obtain ⟨rfl, -⟩ := attached_quoted_cancel h
      rw [reduced, reduced, reduced_field hpath]
  | phrase f' g' s t m n =>
      cases hf
      cases hg
      obtain ⟨rfl, hslop⟩ := attached_quoted_cancel h
      rw [slop_injective hslop, reduced, reduced, reduced_field hpath]
  | range f' g' a b c d =>
      cases hf
      cases hg
      obtain ⟨-, -, hlower, hupper⟩ := hq
      obtain ⟨-, -, hlower', hupper'⟩ := hr
      have hends : ends a b = ends c d := by
        refine limits_cancel equals_notMem_ends equals_notMem_ends ?_ h
        intro x hx y hy
        exact Value.alike_of_hasType (hasType_ends hlower hupper x hx)
          (hasType_ends hlower' hupper' y hy)
      obtain ⟨rfl, rfl⟩ := ends_injective hends
      rw [reduced, reduced, reduced_field hpath]
  | fuzzy f' g' s t m n =>
      cases hf
      cases hg
      obtain ⟨rfl, hdistance⟩ := attached_quoted_cancel h
      rw [distance_injective hdistance, reduced, reduced, reduced_field hpath]
  | «exists» f' g' =>
      cases hf
      cases hg
      rw [reduced, reduced, reduced_field hpath]

theorem subject_of_field (h : q.field? = some f) : q.subject = some f.path := by
  cases q with
  | all | nested | bool | boost => cases h
  | _ => exact congrArg (Option.map Field.path) h

theorem SameKind.isSome_field (h : SameKind q r) : q.field?.isSome = r.field?.isSome := by
  cases h <;> rfl

/-- **Queries that have one headline are the same on paths**, but for the queries
in them. -/
theorem sameLine_of_headline (hlegible : Legible lookup) (hq : q.Placed lookup)
    (hr : r.Placed lookup) (h : q.headline.toList = r.headline.toList) :
    SameLine q r := by
  rw [toList_headline, toList_headline] at h
  obtain ⟨htitle, harguments⟩ := cancel_at (bracket_notMem_title q)
    (bracket_notMem_title r) (head_bracketed q) (head_bracketed r) h
  have htitle : q.title = r.title := String.toList_inj.mp htitle
  cases hb : isBoost q with
  | true =>
      cases q with
      | boost x a =>
          cases r with
          | boost y b =>
              have htext := List.append_cancel_right (List.cons.inj harguments).2
              obtain rfl : a = b := write_injective Binary.plain
                (by simpa [details, attached, Binary.text] using htext)
              exact .boost x y a
          | _ => simp [title] at htitle
      | _ => cases hb
  | false =>
      have hsame := sameKind_of_title hb htitle
      cases hf : q.field? with
      | some f =>
          have hsome := hsame.isSome_field
          rw [hf, Option.isSome_some, eq_comm, Option.isSome_iff_exists] at hsome
          obtain ⟨g, hg⟩ := hsome
          obtain ⟨hmf, hsf⟩ := hq.leaf f hf
          obtain ⟨hmg, hsg⟩ := hr.leaf g hg
          obtain ⟨hpath, htype, hdetails⟩ := leaf_cancel hlegible hmf hmg
            (subject_of_field hf) (subject_of_field hg) harguments
          rw [← htype] at hsg
          exact .leaf hf hg (reduced_of_details hsame hf hg hpath hsf hsg hdetails)
      | none =>
          cases hsame with
          | all => exact .all
          | bool => exact .bool _ _ _ _ _ _ _ _
          | nested s t q r =>
              have hpath := List.append_cancel_right (List.cons.inj harguments).2
              obtain rfl : s = t :=
                String.toList_inj.mp (by simpa [details, attached] using hpath)
              exact .nested s q r
          | _ => cases hf

/-! ## Characters of headlines -/

/-- The path that a headline shows. -/
def path? : Query → Option String
  | nested path _ => some path
  | q => q.field?.map Field.path

theorem path?_of_field (h : q.field? = some f) : q.path? = some f.path := by
  cases q with
  | all | nested | bool | boost => cases h
  | _ => exact congrArg (Option.map Field.path) h

theorem printable_repr (n : ℕ) : ∀ c ∈ n.repr.toList, isPrintable c = true := by
  rw [Nat.repr_eq_ofList_toDigits, String.toList_ofList]
  exact printable_numeric (numeric_of_digits (allDigits_toDigits n))

theorem printable_limitText {lower upper : Bound Value} {limit : String × Value}
    (h : limit ∈ ends lower upper) : ∀ c ∈ (limitText limit).toList, isPrintable c = true := by
  have hname : ∀ c ∈ limit.1.toList, isPrintable c = true := by
    rcases List.mem_append.mp h with h | h
    · rcases (mem_limits h).1 with hname | hname <;> exact hname ▸ List.all_eq_true.mp rfl
    · rcases (mem_limits h).1 with hname | hname <;> exact hname ▸ List.all_eq_true.mp rfl
  have hequals : ∀ c ∈ "=".toList, isPrintable c = true := List.all_eq_true.mp rfl
  simp only [limitText, String.toList_append, List.forall_mem_append]
  exact ⟨⟨hname, hequals⟩, limit.2.printable_outline⟩

theorem printable_details (q : Query) :
    ∀ s ∈ q.details, ∀ c ∈ s.toList, isPrintable c = true := by
  have hlabelled : ∀ {label : String} {n : ℕ}, (∀ c ∈ label.toList, isPrintable c = true) →
      ∀ c ∈ (label ++ n.repr).toList, isPrintable c = true := by
    intro label n hlabel
    rw [String.toList_append, List.forall_mem_append]
    exact ⟨hlabel, printable_repr n⟩
  cases q with
  | term f v => exact List.forall_mem_singleton.mpr v.printable_outline
  | fullText f s | wildcard f s | regex f s =>
      exact List.forall_mem_singleton.mpr (printable_quoted s)
  | phrase f s slop =>
      refine List.forall_mem_cons.mpr ⟨printable_quoted s, ?_⟩
      split
      · exact List.forall_mem_singleton.mpr (hlabelled (List.all_eq_true.mp rfl))
      · simp
  | range f lower upper =>
      intro s hs
      obtain ⟨limit, hlimit, rfl⟩ := List.mem_map.mp hs
      exact printable_limitText hlimit
  | fuzzy f s distance =>
      refine List.forall_mem_cons.mpr ⟨printable_quoted s, ?_⟩
      cases distance with
      | none => simp
      | some d => exact List.forall_mem_singleton.mpr (hlabelled (List.all_eq_true.mp rfl))
  | _ => simp [details]

theorem printable_title (q : Query) : ∀ c ∈ q.title.toList, isPrintable c = true := by
  cases q <;>
    · rw [title]
      exact List.all_eq_true.mp rfl

/-- The first argument is the path, or the text of a factor. -/
theorem mem_subject {q : Query} {first : String} (hfirst : q.subject = some first) {c : Char}
    (hc : c ∈ first.toList) : isPrintable c = true ∨ ∃ path ∈ q.path?, c ∈ path.toList := by
  cases q with
  | all | bool => cases hfirst
  | boost inner factor =>
      obtain rfl := Option.some.inj hfirst
      exact .inl (printable_number factor c hc)
  | _ => exact .inr ⟨first, hfirst, hc⟩

/-- **A headline is printable but for the path in it.** -/
theorem mem_headline {q : Query} {c : Char} (hc : c ∈ q.headline.toList) :
    isPrintable c = true ∨ ∃ path ∈ q.path?, c ∈ path.toList := by
  have hattached : ∀ c ∈ attached q.details, isPrintable c = true := by
    intro c hc
    obtain ⟨s, hs, hc⟩ := List.mem_flatMap.mp hc
    rcases List.mem_cons.mp hc with rfl | hc
    · decide
    · rcases List.mem_cons.mp hc with rfl | hc
      · decide
      · exact printable_details q s hs c hc
  rw [toList_headline] at hc
  rcases List.mem_append.mp hc with hc | hc
  · exact .inl (printable_title q c hc)
  · rw [bracketed] at hc
    split at hc
    · cases hc
    · rename_i first hfirst
      simp only [List.mem_cons, List.mem_append, List.not_mem_nil, or_false] at hc
      rcases hc with rfl | (hc | hc) | rfl
      · exact .inl (by decide)
      · exact mem_subject hfirst hc
      · exact .inl (hattached c hc)
      · exact .inl (by decide)

/-- A character that is not printable is in no headline, unless it is in the path. -/
theorem notMem_headline {q : Query} {c : Char} (hshown : isPrintable c = false)
    (hpath : ∀ path ∈ q.path?, c ∉ path.toList) : c ∉ q.headline.toList := by
  intro hc
  rcases mem_headline hc with h | ⟨path, hmem, h⟩
  · rw [hshown] at h
    cases h
  · exact hpath path hmem h

/-- A headline is on one line. -/
theorem lineFeed_notMem_headline (hlegible : Legible lookup) (hq : q.Placed lookup) :
    '\n' ∉ q.headline.toList := by
  refine notMem_headline (by decide) fun path hpath => ?_
  cases hf : q.field? with
  | some f =>
      rw [path?_of_field hf] at hpath
      obtain rfl := Option.some.inj hpath
      exact (hlegible.path (hq.leaf f hf).1).2
  | none =>
      cases q with
      | all | bool | boost => cases hpath
      | nested nestedPath inner =>
          obtain rfl := Option.some.inj hpath
          obtain ⟨f, hmapped, hnested⟩ := hq.nested nestedPath inner rfl
          exact hlegible.nested hmapped nestedPath hnested
      | _ => cases hf

/-! ## Where headlines begin and end -/

theorem getLast?_headline (q : Query) :
    q.headline.toList.getLast? = some ')' ∨ q.headline.toList.getLast? = some 'l' := by
  rw [toList_headline, bracketed]
  split
  · right
    cases q <;> simp_all [title, subject, field?]
  · left
    simp [List.getLast?_append, List.getLast?_cons]

theorem head?_headline (q : Query) : ∀ c ∈ q.headline.toList.head?, c ≠ ' ' := by
  rw [toList_headline]
  cases q <;> simp [title]

end Query

end Searchlight
