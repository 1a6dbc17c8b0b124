import Mathlib.Data.List.TakeDrop
import Searchlight.Expr.Parse

/-!
# Words of a text

The maximal runs of a predicate, as a function that splits a text and as what
joining with a separator undoes. Phrases keep their words with one space
between them, so taking the text of a phrase twice changes nothing.
-/

namespace Searchlight

open Text

variable {p : Char → Bool}

/-! ## Where a run ends -/

/-- A run ends where what comes behind it begins. -/
theorem span_append {as r : List Char} (ha : ∀ c ∈ as, p c = true)
    (hr : ∀ c ∈ r.head?, p c = false) : (as ++ r).span p = (as, r) := by
  have hnone : r.takeWhile p = [] ∧ r.dropWhile p = r := by
    cases r with
    | nil => exact ⟨rfl, rfl⟩
    | cons c r => simp [hr c rfl]
  rw [List.span_eq_takeWhile_dropWhile, List.takeWhile_append_of_pos ha,
    List.dropWhile_append_of_pos ha, hnone.1, hnone.2, List.append_nil]

/-- A run of characters is told from what comes behind it. -/
theorem run_cancel {as bs r s : List Char} (ha : ∀ c ∈ as, p c = true)
    (hb : ∀ c ∈ bs, p c = true) (hr : ∀ c ∈ r.head?, p c = false)
    (hs : ∀ c ∈ s.head?, p c = false) (h : as ++ r = bs ++ s) : as = bs ∧ r = s := by
  have hspan := span_append ha hr
  rw [h, span_append hb hs] at hspan
  obtain ⟨rfl, rfl⟩ := Prod.mk.inj hspan
  exact ⟨rfl, rfl⟩

/-- A text is told from what comes behind it by the character that this starts with. -/
theorem cancel_at {sep : Char} {as bs r s : List Char} (ha : sep ∉ as) (hb : sep ∉ bs)
    (hr : ∀ c ∈ r.head?, c = sep) (hs : ∀ c ∈ s.head?, c = sep) (h : as ++ r = bs ++ s) :
    as = bs ∧ r = s := by
  have hother : ∀ {cs : List Char}, sep ∉ cs → ∀ c ∈ cs, decide (c ≠ sep) = true :=
    fun hcs c hc => decide_eq_true (ne_of_mem_of_not_mem hc hcs)
  have hstart : ∀ {r : List Char}, (∀ c ∈ r.head?, c = sep) →
      ∀ c ∈ r.head?, decide (c ≠ sep) = false :=
    fun hr c hc => decide_eq_false fun hne => hne (hr c hc)
  exact run_cancel (p := fun c => decide (c ≠ sep)) (hother ha) (hother hb) (hstart hr)
    (hstart hs) h

/-! ## Runs -/

theorem runs_cons_false {c : Char} (hc : p c = false) (cs : List Char) :
    runs p (c :: cs) = runs p cs := by
  simp [runs, hc]

theorem runs_cons_cons {c : Char} (hc : p c = true) (d : Char)
    (cs : List Char) :
    runs p (c :: d :: cs) =
      match runs p (d :: cs) with
      | [] => [[c]]
      | w :: ws => if p d then (c :: w) :: ws else [c] :: w :: ws := by
  rw [runs.eq_def]
  simp only [hc, if_true]
  cases runs p (d :: cs) <;> rfl

theorem runs_cons_break {c d : Char} (hc : p c = true) (hd : p d = false)
    (cs : List Char) : runs p (c :: d :: cs) = [c] :: runs p (d :: cs) := by
  rw [runs_cons_cons hc]
  cases runs p (d :: cs) with
  | nil => rfl
  | cons w ws => exact if_neg (by simp [hd])

/-- A run that goes on takes the next character. -/
theorem runs_cons_join {c d : Char} (hc : p c = true) (hd : p d = true)
    {cs w : List Char} {ws : List (List Char)}
    (h : runs p (d :: cs) = w :: ws) :
    runs p (c :: d :: cs) = (c :: w) :: ws := by
  rw [runs_cons_cons hc, h]
  exact if_pos hd

theorem runs_head {c : Char} (hc : p c = true) :
    ∀ cs : List Char, ∃ w ws, runs p (c :: cs) = (c :: w) :: ws
  | [] => ⟨[], [], by simp [runs, hc]⟩
  | d :: cs => by
      cases hd : p d with
      | false => exact ⟨[], _, runs_cons_break hc hd cs⟩
      | true =>
          obtain ⟨w, ws, h⟩ := runs_head hd cs
          exact ⟨d :: w, ws, runs_cons_join hc hd h⟩

/-- Every run is one: it is not empty and nothing else is in it. -/
theorem mem_runs : ∀ {cs w : List Char}, w ∈ runs p cs →
    w ≠ [] ∧ ∀ c ∈ w, p c = true
  | [], w, h => by simp [runs] at h
  | c :: cs, w, h => by
      cases hc : p c with
      | false =>
          rw [runs_cons_false hc] at h
          exact mem_runs h
      | true =>
          cases cs with
          | nil =>
              obtain rfl : w = [c] := by simpa [runs, hc] using h
              simp [hc]
          | cons d cs =>
              cases hd : p d with
              | false =>
                  rw [runs_cons_break hc hd] at h
                  rcases List.mem_cons.mp h with rfl | h
                  · simp [hc]
                  · exact mem_runs h
              | true =>
                  obtain ⟨u, ws, hu⟩ := runs_head hd cs
                  rw [runs_cons_join hc hd hu] at h
                  rcases List.mem_cons.mp h with rfl | h
                  · have ih := mem_runs (hu ▸ List.mem_cons_self)
                    exact ⟨by simp, List.forall_mem_cons.mpr ⟨hc, ih.2⟩⟩
                  · exact mem_runs (hu ▸ List.mem_cons_of_mem _ h)

theorem runs_eq_nil_iff : ∀ {cs : List Char},
    runs p cs = [] ↔ ∀ c ∈ cs, p c = false
  | [] => by simp [runs]
  | c :: cs => by
      cases hc : p c with
      | false => simp [runs_cons_false hc, hc, @runs_eq_nil_iff cs]
      | true =>
          obtain ⟨w, ws, h⟩ := runs_head hc cs
          simp [h, hc]

/-- A run up to a separator. -/
theorem runs_append {s : Char} (hs : p s = false) (cs : List Char) :
    ∀ {w : List Char}, w ≠ [] → (∀ c ∈ w, p c = true) →
      runs p (w ++ s :: cs) = w :: runs p cs
  | [c], _, hw => by
      rw [List.singleton_append,
        runs_cons_break (hw c List.mem_cons_self) hs, runs_cons_false hs]
  | c :: d :: w, _, hw => by
      have ih := runs_append hs cs (List.cons_ne_nil d w)
        fun x hx => hw x (List.mem_cons_of_mem c hx)
      exact runs_cons_join (hw c (by simp)) (hw d (by simp)) ih

theorem runs_self : ∀ {w : List Char}, w ≠ [] → (∀ c ∈ w, p c = true) →
    runs p w = [w]
  | [c], _, hw => by simp [runs, hw c]
  | c :: d :: w, _, hw => by
      have ih := runs_self (List.cons_ne_nil d w)
        fun x hx => hw x (List.mem_cons_of_mem c hx)
      exact runs_cons_join (hw c (by simp)) (hw d (by simp)) ih

/-- Joined by a separator, runs are found again. -/
theorem runs_intercalate {s : Char} (hs : p s = false) :
    ∀ {ws : List (List Char)}, (∀ w ∈ ws, w ≠ [] ∧ ∀ c ∈ w, p c = true) →
      runs p ([s].intercalate ws) = ws
  | [], _ => rfl
  | [w], hws => by
      rw [List.intercalate_singleton]
      exact runs_self (hws w (by simp)).1 (hws w (by simp)).2
  | w :: w' :: ws, hws => by
      have ih := runs_intercalate hs
        fun x hx => hws x (List.mem_cons_of_mem w hx)
      rw [List.intercalate_cons_cons, List.append_assoc,
        List.singleton_append, runs_append hs _ (hws w (by simp)).1
          (hws w (by simp)).2, ih]

/-! ## Phrases -/

theorem words_intercalate (cs : List Char) :
    words ([' '].intercalate (words cs)) = words cs :=
  runs_intercalate (by decide) fun _ hw => mem_runs hw

theorem phraseText_ne_empty_iff {content : String} :
    Parse.phraseText content ≠ "" ↔ ∃ c ∈ content.toList, isBlank c = false := by
  have hwords : words content.toList = [] ↔ ∀ c ∈ content.toList, isBlank c = true := by
    simp [words, runs_eq_nil_iff]
  have hjoin : [' '].intercalate (words content.toList) = [] ↔
      words content.toList = [] := by
    constructor
    · intro h
      rw [← words_intercalate content.toList, h]
      rfl
    · intro h
      rw [h]
      rfl
  rw [Parse.phraseText, Ne, String.ofList_eq_empty_iff, hjoin, hwords]
  simp

/-- The text of a phrase is its own text. -/
theorem phraseText_phraseText (content : String) :
    Parse.phraseText (Parse.phraseText content) = Parse.phraseText content := by
  simp only [Parse.phraseText, String.toList_ofList]
  rw [words_intercalate]

end Searchlight
