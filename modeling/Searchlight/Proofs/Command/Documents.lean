import Searchlight.Command.Run
import Searchlight.Proofs.Result

/-!
# Documents of several queries

The documents of a list of queries are printed one after the other, and each as soon
as it is there. Where a query fails, the command fails with its error, and what stands
in front of it has been printed. So the output is all or nothing unless the first query
has a document and a later one has none.
-/

namespace Searchlight

namespace Command

variable {t : Target} {compact : Bool} {query message : String} {queries rest : List String}
  {d : Json} {o : Outcome}

/-! ## One query -/

/-- The query is read, resolved and written. -/
def HasDocument (t : Target) (query : String) (d : Json) : Prop :=
  ∃ e q, parseQuery query = .ok e ∧ resolve t.mappings.lookup t.options e = .ok q ∧
    q.document = .ok d

/-- Why a query has no document, as it is told: it cannot be read, resolved or written. -/
inductive Fails (t : Target) (query : String) : String → Prop
  | unread {fault} (h : parseQuery query = .error fault) : Fails t query (fault.report query)
  | unresolved {e fault} (he : parseQuery query = .ok e)
      (h : resolve t.mappings.lookup t.options e = .error fault) : Fails t query fault.message
  | unwritten {e q fault} (he : parseQuery query = .ok e)
      (hq : resolve t.mappings.lookup t.options e = .ok q)
      (h : q.document = .error fault) : Fails t query fault.message

theorem documentFor_eq_ok : documentFor t query = .ok d ↔ HasDocument t query d := by
  simp only [documentFor, queryFor, parse, bind_eq_ok, mapError_eq_ok, HasDocument]
  constructor
  · rintro ⟨q, ⟨e, he, hq⟩, hd⟩
    exact ⟨e, q, he, hq, hd⟩
  · rintro ⟨e, q, he, hq, hd⟩
    exact ⟨q, ⟨e, he, hq⟩, hd⟩

theorem documentFor_eq_error : documentFor t query = .error message ↔ Fails t query message := by
  simp only [documentFor, queryFor, parse, bind_eq_ok, bind_eq_error, mapError_eq_ok,
    mapError_eq_error]
  constructor
  · rintro ((⟨fault, h, rfl⟩ | ⟨e, he, fault, h, rfl⟩) | ⟨q, ⟨e, he, hq⟩, fault, h, rfl⟩)
    · exact .unread h
    · exact .unresolved he h
    · exact .unwritten he hq h
  · rintro (h | ⟨he, h⟩ | ⟨he, hq, h⟩)
    · exact .inl (.inl ⟨_, h, rfl⟩)
    · exact .inl (.inr ⟨_, he, _, h, rfl⟩)
    · exact .inr ⟨_, ⟨_, he, hq⟩, _, h, rfl⟩

theorem Fails.not_hasDocument (h : Fails t query message) : ¬HasDocument t query d := by
  intro hd
  have heq := (documentFor_eq_error.mpr h).symm.trans (documentFor_eq_ok.mpr hd)
  cases heq

/-! ## Lists of queries -/

/-- The texts of documents, one after the other. -/
def printed (compact : Bool) (ds : List Json) : String :=
  String.join (ds.map (documentText compact))

/-- An outcome for a list of queries: all of them have documents, which are printed in
order, or the error is that of the first that has none. What is printed then, `kept`
tells from the documents of those before it. The queries that have been tried log their
warnings. -/
inductive Reports (t : Target) (compact : Bool) (kept : List Json → String)
    (queries : List String) : Outcome → Prop
  | complete {ds} (h : List.Forall₂ (HasDocument t) queries ds) :
      Reports t compact kept queries
        { status := 0
          out := printed compact ds
          warnings := queries.flatMap (warningsFor t)
          err := "" }
  | stopped {query ds message} (before after : List String)
      (hqueries : queries = before ++ query :: after)
      (hbefore : List.Forall₂ (HasDocument t) before ds) (h : Fails t query message) :
      Reports t compact kept queries
        { status := 1
          out := kept ds
          warnings := (before ++ [query]).flatMap (warningsFor t)
          err := "error: " ++ message ++ "\n" }

/-- Nothing is printed if a query fails. -/
abbrev AllOrNothing (t : Target) (compact : Bool) : List String → Outcome → Prop :=
  Reports t compact fun _ => ""

/-- The documents before the first failure are printed. -/
abbrev UpToFailure (t : Target) (compact : Bool) : List String → Outcome → Prop :=
  Reports t compact (printed compact)

@[simp]
theorem printed_nil : printed compact [] = "" := rfl

theorem printed_cons (d : Json) (ds : List Json) :
    printed compact (d :: ds) = documentText compact d ++ printed compact ds := by
  simp [printed]

/-- Every document ends with a line feed at least. -/
theorem printed_eq_empty {ds : List Json} : printed compact ds = "" ↔ ds = [] := by
  cases ds with
  | nil => simp
  | cons d ds => simp [printed_cons, documentText]

theorem showDocuments_of_hasDocument (h : HasDocument t query d) :
    showDocuments t compact (query :: rest) =
      ((showDocuments t compact rest).after (documentText compact d)).warned
        (warningsFor t query) := by
  rw [showDocuments, documentFor_eq_ok.mpr h, Outcome.ofExcept]

theorem showDocuments_of_fails (h : Fails t query message) :
    showDocuments t compact (query :: rest) =
      (Outcome.failure message).warned (warningsFor t query) := by
  rw [showDocuments, documentFor_eq_error.mpr h, Outcome.ofExcept]

/-- **Documents are printed up to the first failure.** -/
theorem upToFailure_showDocuments (t : Target) (compact : Bool) (queries : List String) :
    UpToFailure t compact queries (showDocuments t compact queries) := by
  induction queries with
  | nil => exact .complete .nil
  | cons query rest ih =>
      cases h : documentFor t query with
      | error message =>
          have hfails := documentFor_eq_error.mp h
          rw [showDocuments_of_fails hfails, Outcome.failure, Outcome.warned]
          exact .stopped [] rest rfl .nil hfails
      | ok d =>
          -- the first document goes in front of what the other queries leave behind
          have hd := documentFor_eq_ok.mp h
          rw [showDocuments_of_hasDocument hd]
          generalize showDocuments t compact rest = o at ih
          cases ih with
          | complete hall =>
              rw [Outcome.after, ← printed_cons, Outcome.warned, ← List.flatMap_cons]
              exact .complete (.cons hd hall)
          | stopped before after hrest hbefore hfails =>
              rw [Outcome.after, ← printed_cons, Outcome.warned, ← List.flatMap_cons]
              exact .stopped (query :: before) after (congrArg _ hrest) (.cons hd hbefore) hfails

/-! ## Which outcomes are all or nothing -/

/-- After a document has been printed only success is all or nothing. -/
theorem not_allOrNothing_of_printed (hstatus : o.status ≠ 0) (hout : o.out ≠ "") :
    ¬AllOrNothing t compact queries o := by
  intro h
  cases h with
  | complete => exact hstatus rfl
  | stopped => exact hout rfl

/-- **All or nothing**, unless the first query has a document and a later one has none. -/
theorem UpToFailure.allOrNothing_iff (h : UpToFailure t compact queries o) :
    AllOrNothing t compact queries o ↔
      ((∃ first ∈ queries.head?, ∃ d, HasDocument t first d) →
        ∀ query ∈ queries, ∃ d, HasDocument t query d) := by
  cases h with
  | complete hall =>
      exact iff_of_true (.complete hall) fun _ => exists_of_forall₂ hall
  | @stopped query ds message before after hqueries hbefore hfails =>
      subst hqueries
      cases hbefore with
      | nil =>
          -- the first query fails, so nothing has been printed
          refine iff_of_true (.stopped [] after rfl .nil hfails) ?_
          rintro ⟨first, hfirst, d, hd⟩
          obtain rfl : query = first := by simpa using hfirst
          exact absurd hd hfails.not_hasDocument
      | @cons first d before ds hd hbefore =>
          refine iff_of_false (not_allOrNothing_of_printed Nat.one_ne_zero ?_) fun hall => ?_
          · simp [printed_eq_empty]
          · obtain ⟨d', hd'⟩ := hall ⟨first, rfl, d, hd⟩ query (by simp)
            exact hfails.not_hasDocument hd'

/-! ## The command -/

variable {place : Config.Place} {path : String} {config : Config} {target : TargetOptions}

theorem run_documents
    (hload : Config.load place (workingDirectory place.files path) = .ok config)
    (htarget : targetFor ⟨place, workingDirectory place.files path, config⟩ target = .ok t) :
    run place path (.documents queries target compact) =
      (showDocuments t compact queries, place.files) := by
  simp only [run, inSession, hload, Except.mapError, Outcome.ofExcept, runDocuments, htarget]

/-- **The documents of a list of queries.** Where the configuration and the mappings load,
the documents are printed in order up to the first query that has none, and the error is its
error. That is all or nothing except where the first query has a document and a later one has
none. -/
theorem run_documents_upToFailure
    (hload : Config.load place (workingDirectory place.files path) = .ok config)
    (htarget : targetFor ⟨place, workingDirectory place.files path, config⟩ target = .ok t) :
    let result := run place path (.documents queries target compact)
    result.2 = place.files ∧
      UpToFailure t compact queries result.1 ∧
      (AllOrNothing t compact queries result.1 ↔
        ((∃ first ∈ queries.head?, ∃ d, HasDocument t first d) →
          ∀ query ∈ queries, ∃ d, HasDocument t query d)) := by
  have hshown := upToFailure_showDocuments t compact queries
  rw [run_documents hload htarget]
  exact ⟨rfl, hshown, hshown.allOrNothing_iff⟩

/-! ### A directory with one field -/

/-- A directory with a configuration file that maps one text field, the default. -/
def bodyPlace : Config.Place where
  files := {
    entries := [
      ([".ftq.toml".toList, ['w']],
        .file "[index]\ndefault_field = \"body\"\n\n[fields.body]\ntype = \"text\"\n"),
      ([['w']], .directory)] }
  home := none

def bodyConfig : Config where
  index := { defaultField := "body" }
  fields := [{ name := "body", path := "body", type := .text }]
  directory := "/w"
  sources := ["/w/.ftq.toml"]

def bodyTarget : Target where
  index := bodyConfig.index.name
  mappings := { fields := bodyConfig.fields }
  options := { defaultField := "body" }

theorem load_bodyPlace :
    Config.load bodyPlace (workingDirectory bodyPlace.files "/w") = .ok bodyConfig := by
  have hplace : workingDirectory bodyPlace.files "/w" = "/w" := by decide +kernel
  have hfound : Config.discover bodyPlace "/w" = ["/w/.ftq.toml"] := by decide +kernel
  have hfile : Config.fileAt bodyPlace.files "/w/.ftq.toml" =
      .ok {
        index := some { defaultField := "body" }
        fields := some [("body", { type := .text })] } := by decide +kernel
  rw [hplace, Config.load, Config.loadFiles, hfound, Config.readSources, hfile]
  rfl

theorem targetFor_bodyPlace :
    targetFor ⟨bodyPlace, workingDirectory bodyPlace.files "/w", bodyConfig⟩ {} =
      .ok bodyTarget := rfl

def bodyDocument (text : String) : Json :=
  .object [("match", .object [("body", .object [("query", .string text)])])]

theorem hasDocument_rust : HasDocument bodyTarget "rust" (bodyDocument "rust") := by
  have hparse : parseQuery "rust" = .ok (some (.leaf none (.term "rust"))) := by decide +kernel
  exact ⟨_, _, hparse, rfl, rfl⟩

theorem hasDocument_unknown : HasDocument bodyTarget "nope:x" (bodyDocument "x") := by
  have hparse : parseQuery "nope:x" = .ok (some (.leaf (some "nope") (.term "x"))) := by
    decide +kernel
  exact ⟨_, _, hparse, rfl, rfl⟩

theorem fails_open_rust : ∃ message, Fails bodyTarget "(rust" message := by
  have hparse : parseQuery "(rust" =
      .error (.parse ⟨.closingParenthesis, "end of query", 5⟩) := by decide +kernel
  exact ⟨_, .unread hparse⟩

/-- A field that is not mapped is told in the log, and its query has a document all the same. -/
theorem run_documents_upToFailure_unknown :
    let queries := ["nope:x", "rust"]
    let result := run bodyPlace "/w" (.documents queries {} true)
    Config.load bodyPlace (workingDirectory bodyPlace.files "/w") = .ok bodyConfig ∧
      targetFor ⟨bodyPlace, workingDirectory bodyPlace.files "/w", bodyConfig⟩ {} =
        .ok bodyTarget ∧
      result.1.status = 0 ∧
      result.1.errorOutput =
        "[WARN  ftq_rewrite::rewrite] unknown field 'nope', using default field 'body'\n" ∧
      result.2 = bodyPlace.files ∧ UpToFailure bodyTarget true queries result.1 ∧
      AllOrNothing bodyTarget true queries result.1 := by
  intro queries result
  obtain ⟨hfiles, hshown, hiff⟩ := @run_documents_upToFailure bodyTarget true queries
    bodyPlace "/w" bodyConfig {} load_bodyPlace targetFor_bodyPlace
  have hresult : result.1 =
      { status := 0
        out := documentText true (bodyDocument "x") ++ documentText true (bodyDocument "rust")
        warnings := warningsFor bodyTarget "nope:x" ++ warningsFor bodyTarget "rust" } := by
    unfold result queries
    rw [run_documents load_bodyPlace targetFor_bodyPlace,
      showDocuments_of_hasDocument hasDocument_unknown,
      showDocuments_of_hasDocument hasDocument_rust]
    simp [showDocuments, Outcome.after, Outcome.warned]
  have hlog : result.1.errorOutput =
      "[WARN  ftq_rewrite::rewrite] unknown field 'nope', using default field 'body'\n" := by
    rw [hresult]
    decide +kernel
  refine ⟨load_bodyPlace, targetFor_bodyPlace, by rw [hresult], hlog, hfiles, hshown,
    hiff.mpr fun _ => ?_⟩
  rw [List.forall_mem_cons, List.forall_mem_singleton]
  exact ⟨⟨_, hasDocument_unknown⟩, ⟨_, hasDocument_rust⟩⟩

/-- The document of the first query is printed although the second cannot be read. -/
theorem run_documents_not_allOrNothing :
    let queries := ["rust", "(rust"]
    let result := run bodyPlace "/w" (.documents queries {} true)
    Config.load bodyPlace (workingDirectory bodyPlace.files "/w") = .ok bodyConfig ∧
      targetFor ⟨bodyPlace, workingDirectory bodyPlace.files "/w", bodyConfig⟩ {} =
        .ok bodyTarget ∧
      result.1.status = 1 ∧
      result.1.out = "\x7b\"match\":\x7b\"body\":\x7b\"query\":\"rust\"\x7d\x7d\x7d\n" ∧
      ¬AllOrNothing bodyTarget true queries result.1 := by
  intro queries result
  obtain ⟨message, hfails⟩ := fails_open_rust
  have hresult : result.1 =
      { status := 1
        out := documentText true (bodyDocument "rust")
        warnings := warningsFor bodyTarget "rust" ++ warningsFor bodyTarget "(rust"
        err := "error: " ++ message ++ "\n" } := by
    unfold result queries
    rw [run_documents load_bodyPlace targetFor_bodyPlace,
      showDocuments_of_hasDocument hasDocument_rust, showDocuments_of_fails hfails]
    simp [Outcome.failure, Outcome.after, Outcome.warned]
  have hout : documentText true (bodyDocument "rust") =
      "\x7b\"match\":\x7b\"body\":\x7b\"query\":\"rust\"\x7d\x7d\x7d\n" := by decide +kernel
  refine ⟨load_bodyPlace, targetFor_bodyPlace, ?_, ?_, not_allOrNothing_of_printed ?_ ?_⟩
  · rw [hresult]
  · rw [hresult, hout]
  · simp [hresult]
  · simp [hresult, hout]

end Command

end Searchlight
