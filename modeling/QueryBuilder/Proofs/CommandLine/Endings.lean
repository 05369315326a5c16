/-
**How runs of the command line end.**

The command line decodes a graph, makes its request and prints it with blanks; a host is offered the
same query as a text without blanks.  Both say the same about every graph that can be read.  A graph
that is refused is refused by both, for the same reason.  Of a graph without tables the host gets
`null`, and the run fails with a message.  Of all other graphs the run prints, or writes to a file,
the very text that the host gets, when its blanks are removed, and the whole request has this text
as its query.  The request is always complete: a graph with a table that was loaded has a database.

A run that has an output file writes to it what the same run prints without one, except for the end
of the line.  A run that fails has written and printed nothing.

Main definitions:

* `QueryBuilder.CommandLine.Ending.shown?` — the text that a run printed or wrote;
* `QueryBuilder.CommandLine.Shows` — a text shows a query, or a request with it;
* `QueryBuilder.CommandLine.Ending.Follows` — a run ends as the text for the host says.

Main results:

* `QueryBuilder.Graph.valid_of_loadText` — what is loaded from a text is valid;
* `QueryBuilder.CommandLine.follows_runOptions` — runs without the overview end as the text for the
  host says;
* `QueryBuilder.CommandLine.runOptions_output` — a run with an output file and without;
* `QueryBuilder.CommandLine.endings_agree` — **runs agree with the host and with each other**.
-/

import QueryBuilder.CommandLine.Directory
import QueryBuilder.Graph.Export
import QueryBuilder.Proofs.Graph.Acceptance
import QueryBuilder.Proofs.Graph.Faithfulness
import QueryBuilder.Proofs.Graph.RoundTrip
import QueryBuilder.Proofs.Json.Spacing

set_option autoImplicit false

namespace QueryBuilder

/-! ### Loaded graphs -/

/-- **What is loaded from a text is valid.** -/
theorem Graph.valid_of_loadText {text : String} {g : Graph Float} (h : loadText text = .ok g) :
    g.toDiagram.Valid := by
  unfold loadText Json.loadText at h
  dsimp only at h
  split at h
  · cases h
  · split at h
    · cases h
    · next hload =>
        split at h
        · cases h
        · cases h
          obtain ⟨d, haccept, rfl⟩ := load_eq_ok.1 hload
          exact Diagram.valid_accept haccept

/-- The text of a query is not the one that stands for no query. -/
theorem Query.compact_toJson_ne_null (q : Query) : q.toJson.compact ≠ "null" := by
  intro h
  have hhead := congrArg (fun s : String => s.toList.head?) h
  simp [Json.compact, Query.toJson, Json.render] at hhead

namespace CommandLine

/-! ### What runs show -/

/-- The text that a run printed or wrote. -/
def Ending.shown? : Ending → Option String
  | printed text | toWrite _ text => some text
  | _ => none

/-- A text shows a query, or the whole request with this query, between blanks. -/
def Shows (query text : String) : Bool → Prop
  | false => Json.squeeze text = query
  | true => ∃ (database : Int) (request : Json), request.compact = query ∧
      Json.squeeze text = (Json.record [("database", .int database), ("type", .text "query"),
        ("query", request)]).compact

/-- A run ends as the text for the host says; the words are those of the reader of graphs. -/
structure Ending.Follows (ending : Ending) (dataset : Bool) (words : String)
    (answer : Except (Json.LoadError GraphError) String) : Prop where
  /-- The graph is refused, for the same reason. -/
  refused : ∀ fault, answer = .error fault → ending.code = 1 ∧
    ending.stderr = Failure.graphLead ++ describe GraphError.message words fault ++ "\n"
  /-- There is no query. -/
  empty : answer = .ok "null" → ending.code = 1 ∧
    ending.stderr = GraphError.noTables.message ++ "\n"
  /-- There is a query. -/
  shown : ∀ query, answer = .ok query → query ≠ "null" → ending.code = 0 ∧ ending.stderr = "" ∧
    ∃ text, ending.shown? = some text ∧ Shows query text dataset

variable {wordings : Wordings} {read : FileReader} {options : Options} {text : String}

/-- A text between blanks that shows a query as it is printed, with the end of the line or
without. -/
theorem shows_pretty {query : Query} {database : Int} {value : Json} {dataset : Bool}
    (h : value = if dataset then ExecutionRequest.toJson ⟨database, query⟩ else query.toJson)
    {text : String} (htext : text = value.pretty ∨ text = value.pretty ++ "\n") :
    Shows query.toJson.compact text dataset := by
  have hsqueeze : Json.squeeze text = value.compact := by
    obtain ⟨hplain, hline⟩ := Json.squeeze_pretty value
    rcases htext with rfl | rfl
    · exact hplain
    · exact hline
  cases dataset with
  | false =>
      rw [if_neg (by decide)] at h
      rw [Shows, hsqueeze, h]
  | true =>
      rw [if_pos rfl] at h
      exact ⟨database, query.toJson, rfl, by rw [hsqueeze, h, ExecutionRequest.toJson]⟩

/-! ### Results -/

theorem readFile_of_ok {path : String} (h : read path = .ok text) :
    readFile read path = .ok text := by
  rw [readFile, h]
  rfl

/-- A graph that is refused. -/
theorem result_of_refused (hread : read options.input = .ok text)
    {fault : Json.LoadError GraphError} (hload : Graph.loadText text = .error fault) :
    result wordings read options = .error (.graph fault (wordings.graph text)) := by
  have hgraph : ((Graph.loadText text).mapError fun e => Failure.graph e (wordings.graph text)) =
      .error (.graph fault (wordings.graph text)) := by
    rw [hload]
    rfl
  rw [result, readFile_of_ok hread, ok_bind, hgraph]
  rfl

section

variable {g : Graph Float} (hread : read options.input = .ok text)
  (hload : Graph.loadText text = .ok g) (hminimap : options.minimap = false)

include hread hload hminimap

/-- A graph that is loaded, and whose overview is not asked for. -/
theorem result_of_loaded : result wordings read options =
    if options.dataset then
      (g.executionRequest.mapError .notReady).map ExecutionRequest.toJson
    else
      match g.query? with
      | some query => .ok query.toJson
      | none => .error (.notReady .noTables) := by
  have hgraph : ((Graph.loadText text).mapError fun e => Failure.graph e (wordings.graph text)) =
      .ok g := by
    rw [hload]
    rfl
  rw [result, readFile_of_ok hread, ok_bind, hgraph, ok_bind, hminimap, if_neg (by decide)]
  rfl

/-- Without a table neither the query nor the request is made. -/
theorem result_of_no_query (hquery : g.query? = none) :
    result wordings read options = .error (.notReady .noTables) := by
  have hrequest : g.executionRequest = .error .noTables := by
    rw [Diagram.executionRequest, hquery]
  rw [result_of_loaded hread hload hminimap, hquery, hrequest]
  cases options.dataset <;> rfl

/-- With a table both are made, and the request is about the query. -/
theorem result_of_query {query : Query} (hquery : g.query? = some query) {database : Int}
    (hrequest : g.executionRequest = .ok ⟨database, query⟩) :
    result wordings read options = .ok (if options.dataset then
      ExecutionRequest.toJson ⟨database, query⟩ else query.toJson) := by
  rw [result_of_loaded hread hload hminimap, hquery, hrequest]
  cases options.dataset <;> rfl

end

/-! ### Runs -/

/-- The ending of a run with a result: its text is written, or printed as a line. -/
def Ending.ofResult (value : Json) : Option String → Ending
  | some path => .toWrite path value.pretty
  | none => .printed (value.pretty ++ "\n")

theorem runOptions_of_error {failure : Failure}
    (h : result wordings read options = .error failure) :
    runOptions wordings read options = .failed failure := by
  rw [runOptions, render, h]
  rfl

theorem runOptions_of_ok {value : Json} (h : result wordings read options = .ok value) :
    runOptions wordings read options = .ofResult value options.output := by
  rw [runOptions, render, h]
  cases options.output <;> rfl

/-- **Runs without the overview end as the text for the host says.** -/
theorem follows_runOptions (hread : read options.input = .ok text)
    (hminimap : options.minimap = false) :
    (runOptions wordings read options).Follows options.dataset (wordings.graph text)
      (Export.query text) := by
  cases hload : Graph.loadText text with
  | error fault =>
      have hexport : Export.query text = .error fault := by
        rw [Export.query, hload]
        rfl
      rw [hexport, runOptions_of_error (result_of_refused hread hload)]
      refine ⟨?_, fun h => ?_, fun query h => ?_⟩
      · rintro _ ⟨⟩
        exact ⟨rfl, rfl⟩
      · cases h
      · cases h
  | ok g =>
      have hexport : Export.query text = .ok (Json.optional Query.toJson g.query?).compact := by
        rw [Export.query, hload]
        rfl
      cases hquery : g.query? with
      | none =>
          have hnull : (Json.optional Query.toJson none).compact = "null" := rfl
          rw [hexport, hquery, hnull,
            runOptions_of_error (result_of_no_query hread hload hminimap hquery)]
          refine ⟨fun fault h => ?_, fun _ => ⟨rfl, rfl⟩, fun query h hne => ?_⟩
          · cases h
          · exact (hne (Except.ok.inj h).symm).elim
      | some query =>
          obtain ⟨database, -, -, hrequest⟩ :=
            (Graph.valid_of_loadText hload).exists_executionRequest hquery
          have hresult : result wordings read options = .ok _ :=
            result_of_query hread hload hminimap hquery hrequest
          have hsome : (Json.optional Query.toJson (some query)).compact =
              query.toJson.compact := rfl
          rw [hexport, hquery, hsome, runOptions_of_ok hresult]
          refine ⟨fun fault h => ?_, fun h => ?_, fun text h _ => ?_⟩
          · cases h
          · exact (query.compact_toJson_ne_null (Except.ok.inj h)).elim
          · cases h
            cases options.output with
            | some path => exact ⟨rfl, rfl, _, rfl, shows_pretty rfl (.inl rfl)⟩
            | none => exact ⟨rfl, rfl, _, rfl, shows_pretty rfl (.inr rfl)⟩

/-- **A run with an output file and without.**  Both fail for the same reason, or what one writes is
what the other prints, without the end of the line. -/
theorem runOptions_output {path : String} (h : options.output = some path) :
    (∃ text, runOptions wordings read options = .toWrite path text ∧
      runOptions wordings read { options with output := none } = .printed (text ++ "\n")) ∨
    ∃ failure, runOptions wordings read options = .failed failure ∧
      runOptions wordings read { options with output := none } = .failed failure := by
  have hsame : result wordings read { options with output := none } =
      result wordings read options := rfl
  cases hresult : result wordings read options with
  | error failure =>
      exact .inr ⟨failure, runOptions_of_error hresult, runOptions_of_error (hsame.trans hresult)⟩
  | ok value =>
      refine .inl ⟨value.pretty, ?_, runOptions_of_ok (hsame.trans hresult)⟩
      rw [runOptions_of_ok hresult, h]
      rfl

/-- A run that fails has neither printed nor written. -/
theorem Ending.silent_of_code {ending : Ending} (h : ending.code ≠ 0) :
    ending.stdout = "" ∧ ending.file? = none := by
  cases ending with
  | printed text => exact (h rfl).elim
  | toWrite path text => exact (h rfl).elim
  | failed failure => exact ⟨rfl, rfl⟩
  | misused error => exact ⟨rfl, rfl⟩

/-! ### Reports -/

namespace Directory

/-- A run that fails before anything is to be written ends so. -/
theorem write_of_code {d : Directory} {ending : Ending} (h : ending.code ≠ 0) :
    d.write ending = .ofEnding ending := by
  cases ending with
  | toWrite path text => exact (h rfl).elim
  | _ => rfl

/-- A run that fails, before its text is written or then, has neither printed nor written. -/
theorem silent_of_code {d : Directory} {ending : Ending} (h : (d.write ending).ending.code ≠ 0) :
    (d.write ending).stdout = "" ∧ (d.write ending).written = none := by
  cases ending with
  | printed text => exact (h rfl).elim
  | failed failure => exact ⟨rfl, rfl⟩
  | misused error => exact ⟨rfl, rfl⟩
  | toWrite path text =>
      unfold write at h ⊢
      dsimp only at h ⊢
      split
      · next sink hsink =>
          rw [hsink] at h
          cases sink <;> exact (h rfl).elim
      · exact ⟨rfl, rfl⟩

/-- A text that is to be written goes where the path leads, or the run fails. -/
theorem write_toWrite {d : Directory} {path text : String}
    (h : (d.write (.toWrite path text)).ending.code = 0) :
    ∃ sink, (d.locate path >>= d.sinkAt) = .ok sink ∧
      d.write (.toWrite path text) = .ofWriting path text sink := by
  unfold write at h ⊢
  dsimp only at h ⊢
  split
  · next sink hsink => exact ⟨sink, hsink, rfl⟩
  · next obstacle hsink =>
      rw [hsink] at h
      cases h

end Directory

/-! ### Agreement -/

/-- **Runs agree with the host and with each other.**  Take any arguments that ask for a run.

* A run that reads its graph, and is not asked for the overview, ends as the text for the host says,
  with the whole request and without.
* A run with an output file that succeeds writes what the run without one prints, except for the end
  of the line.
* A run that fails prints nothing and writes no file.

In a directory, a run without an output file is seen as it ends, and one that succeeds with an
output file puts its text, and nothing else, where the path leads; it prints nothing, unless the
path leads to what it prints. -/
theorem endings_agree {arguments : List String} {options : Options}
    (hparse : parse arguments = .ok (.run options)) (wordings : Wordings) :
    (∀ (read : FileReader) (graph : String), read options.input = .ok graph →
      options.minimap = false →
        (run wordings read arguments).Follows options.dataset (wordings.graph graph)
          (Export.query graph)) ∧
    (∀ (read : FileReader) (path : String), options.output = some path →
      (run wordings read arguments).code = 0 →
        ∃ text, run wordings read arguments = .toWrite path text ∧
          runOptions wordings read { options with output := none } = .printed (text ++ "\n")) ∧
    (∀ read : FileReader, (run wordings read arguments).code ≠ 0 →
      (run wordings read arguments).stdout = "" ∧ (run wordings read arguments).file? = none) ∧
    ∀ d : Directory,
      (options.output = none →
        d.run wordings arguments = .ofEnding (run wordings d.read arguments)) ∧
      (∀ path, options.output = some path → (d.run wordings arguments).ending.code = 0 →
        ∃ text sink, run wordings d.read arguments = .toWrite path text ∧
          (d.locate path >>= d.sinkAt) = .ok sink ∧
          (sink ≠ .output → (d.run wordings arguments).stdout = "") ∧
          ∀ name, sink = .file name → (d.run wordings arguments).written = some (name, text)) ∧
      ((d.run wordings arguments).ending.code ≠ 0 →
        (d.run wordings arguments).stdout = "" ∧ (d.run wordings arguments).written = none) := by
  have hrun : ∀ read, run wordings read arguments = runOptions wordings read options := by
    intro read
    rw [run, hparse]
  have houtput : ∀ (read : FileReader) (path : String), options.output = some path →
      (run wordings read arguments).code = 0 →
        ∃ text, run wordings read arguments = .toWrite path text ∧
          runOptions wordings read { options with output := none } = .printed (text ++ "\n") := by
    intro read path hpath hcode
    rw [hrun] at hcode ⊢
    rcases runOptions_output hpath with hwritten | ⟨failure, hfailed, -⟩
    · exact hwritten
    · rw [hfailed] at hcode
      cases hcode
  refine ⟨?_, houtput, fun read => Ending.silent_of_code, fun d => ⟨?_, ?_, ?_⟩⟩
  · intro read graph hread hminimap
    rw [hrun]
    exact follows_runOptions hread hminimap
  · intro hnone
    rw [Directory.run, hrun]
    cases hresult : result wordings d.read options with
    | error failure =>
        rw [runOptions_of_error hresult]
        rfl
    | ok value =>
        rw [runOptions_of_ok hresult, hnone]
        rfl
  · intro path hpath hcode
    have hbefore : (run wordings d.read arguments).code = 0 := by
      by_contra hfailed
      rw [Directory.run, Directory.write_of_code hfailed] at hcode
      exact hfailed hcode
    obtain ⟨text, htext, -⟩ := houtput d.read path hpath hbefore
    rw [Directory.run, htext] at hcode
    obtain ⟨sink, hsink, hwrite⟩ := Directory.write_toWrite hcode
    refine ⟨text, sink, htext, hsink, ?_, ?_⟩
    · intro hne
      rw [Directory.run, htext, hwrite]
      cases sink with
      | output => exact (hne rfl).elim
      | _ => rfl
    · rintro name rfl
      rw [Directory.run, htext, hwrite]
      rfl
  · exact Directory.silent_of_code

/-- The saved text of two tables with a join, columns and filters in a directory.  The whole request
is written to a new file, and nothing is printed. -/
theorem endings_agree_sample :
    let d : Directory :=
      ⟨[("g.json", Sample.graph.saveText)], ⟨["home"], fun _ => none, fun _ => .ok .away⟩⟩
    let wordings : Wordings := ⟨fun _ => "expected value", fun _ => "expected value"⟩
    let arguments := ["g.json", "--dataset", "-o", "out.json"]
    parse arguments = .ok (.run ⟨"g.json", some "out.json", true, none, false⟩) ∧
    (d.run wordings arguments).stdout = "" ∧ (d.run wordings arguments).stderr = "" ∧
    ∃ text query, (d.run wordings arguments).written = some ("out.json", text) ∧
      runOptions wordings d.read ⟨"g.json", none, true, none, false⟩ = .printed (text ++ "\n") ∧
      Export.query Sample.graph.saveText = .ok query ∧ query ≠ "null" ∧
      Shows query text true := by
  intro d wordings arguments
  have hparse : parse arguments = .ok (.run ⟨"g.json", some "out.json", true, none, false⟩) := by
    decide +kernel
  have hread : d.read "g.json" = .ok Sample.graph.saveText := by
    have hlocate : d.locate "g.json" = .ok (.named .working "g.json" false) := by decide +kernel
    have hlook : d.look .working "g.json" =
        .ok (some (.file (.ok Sample.graph.saveText) (.ok (.file "g.json")))) := rfl
    rw [Directory.read, hlocate, ok_bind, Directory.readTarget, hlook]
    rfl
  have hsink : (d.locate "out.json" >>= d.sinkAt) = .ok (.file "out.json") := by decide +kernel
  obtain ⟨query, hquery⟩ := Option.isSome_iff_exists.1
    (by decide +kernel : Sample.graph.query?.isSome = true)
  have hload : Graph.loadText Sample.graph.saveText =
      .ok (Graph.ofDiagram Sample.graph.toDiagram .standard) :=
    Graph.loadText_render Json.Style.blank_compact Sample.reachable_graph.valid (by decide +kernel)
      (by decide +kernel)
  have hexport : Export.query Sample.graph.saveText = .ok query.toJson.compact := by
    rw [Export.query, hload]
    exact congrArg (fun q? => Except.ok (Json.optional Query.toJson q?).compact) hquery
  obtain ⟨hfollows, houtput, -, hdirectory⟩ := endings_agree hparse wordings
  obtain ⟨hcode, -, shown, hshown, hshows⟩ :=
    (hfollows d.read _ hread rfl).shown _ hexport query.compact_toJson_ne_null
  obtain ⟨text, htext, hprinted⟩ := houtput d.read _ rfl hcode
  rw [htext] at hshown
  obtain rfl : shown = text := (Option.some.inj hshown).symm
  have hrun : d.run wordings arguments = .ofWriting "out.json" shown (.file "out.json") := by
    rw [Directory.run, htext]
    unfold Directory.write
    dsimp only
    rw [hsink]
  obtain ⟨shown', sink, htext', hsink', hstdout, hwritten⟩ :=
    (hdirectory d).2.1 _ rfl (by rw [hrun]; rfl)
  rw [hsink] at hsink'
  cases hsink'
  rw [htext] at htext'
  cases htext'
  have hstderr : (d.run wordings arguments).stderr = "" := by
    rw [hrun]
    rfl
  exact ⟨hparse, hstdout (by decide), hstderr, shown, _, hwritten _ rfl, hprinted, hexport,
    query.compact_toJson_ne_null, hshows⟩

end CommandLine

end QueryBuilder
