import StarReport.CommandLine.Run
import StarReport.Proofs.CommandLine.Arguments
import StarReport.Proofs.Http.Deployment
import StarReport.Proofs.Json.Written
import StarReport.Proofs.Report.Membership
import StarReport.Sql.Grammar.Texts

/-!
The service and the command line agree. Whatever a service has been through, a request for a report
comes to what a run of the command line comes to at the same moment: the same statement, none, a name
that is not found, or a failure for the same kind of reason.
-/

set_option autoImplicit false
set_option relaxedAutoImplicit false

namespace StarReport.Http

open CommandLine (Exit)
open Report (BindingError Options)
open StarReport.Star (Dimension Measure)

/-! ### Failed runs -/

section

variable (files : Files) (path : String) (report : Report.Request) (options : Options)

/-- The exit of a run that ends because the star lacks a name asked for. -/
inductive NameNotFound : Exit → Prop
  | dimension {schema : Schema} {name : String} : Schema.load files path ⟨0⟩ = .ok schema →
      name ∈ report.dimensions → name ∉ schema.star.dimensions.map Dimension.name →
      NameNotFound (.failure ("Compilation error: Dimension [" ++ name ++ "] not found"))
  | measure {schema : Schema} {name : String} : Schema.load files path ⟨0⟩ = .ok schema →
      name ∈ report.measures → name ∉ schema.star.measures.map Measure.name →
      NameNotFound (.failure ("Compilation error: Measure [" ++ name ++ "] not found"))

/-- The exit of a run that ends because the schema does not load or no SQL can be generated. -/
inductive NoStatement : Exit → Prop
  | load {cause : Schema.LoadError} : Schema.load files path ⟨0⟩ = .error cause →
      NoStatement (.failure ("Error loading schema '" ++ path ++ "': " ++ cause.message))
  | sql {schema : Schema} {table : String} : Schema.load files path ⟨0⟩ = .ok schema →
      report.bind schema.star options = .error (.report (.query (.missingPrimaryKey table))) →
      NoStatement (.failure ("Compilation error: SQL generation failed: Table " ++ table ++
        " is joined but has no primary key"))

/-- What a run prints for the statement of a report. -/
def printed (sql : Option String) : String := (sql.map (· ++ "\n")).getD ""

/-- A response of the service and an exit of the command line that mean the same. -/
inductive Corresponds : Response → Exit → Prop
  | compiled (sql : Option String) : Corresponds
      ⟨200, Json.write (Report.encodeStatement sql)⟩ (.success (printed sql))
  | notFound {message : String} {exit : Exit} : NameNotFound files path report exit →
      Corresponds ⟨404, message⟩ exit
  | failed {message : String} {exit : Exit} : NoStatement files path report options exit →
      Corresponds ⟨500, message⟩ exit

end

variable {files : Files} {path : String} {report : Report.Request} {options : Options}

/-- Binding a request fails for a name or for a table, and for a table only if it finds all names. -/
theorem cause_of_bind {star : Star} (owns : star.Owns) {cause : BindingError}
    (failed : report.bind star options = .error cause) :
    (∃ name ∈ report.dimensions, name ∉ star.dimensions.map Dimension.name ∧
      cause = .dimensionNotFound name) ∨
    (∃ name ∈ report.measures, name ∉ star.measures.map Measure.name ∧
      cause = .measureNotFound name) ∨
    ∃ table, report.dimensions ⊆ star.dimensions.map Dimension.name ∧
      report.measures ⊆ star.measures.map Measure.name ∧
      cause = .report (.query (.missingPrimaryKey table)) := by
  have filled := Report.Request.isEmpty_of_bind failed nofun
  have outcome := Report.Request.outcome_bind owns filled options
  rw [failed] at outcome
  cases outcome with
  | dimensionNotFound unknown =>
    exact .inl ⟨_, List.mem_of_find?_eq_some unknown, by simpa using List.find?_some unknown, rfl⟩
  | measureNotFound _ unknown =>
    exact .inr (.inl ⟨_, List.mem_of_find?_eq_some unknown, by simpa using List.find?_some unknown,
      rfl⟩)
  | missingPrimaryKey dimensions measures _ =>
    refine .inr (.inr ⟨_, fun name asked => ?_, fun name asked => ?_, rfl⟩)
    · simpa using List.find?_eq_none.mp dimensions name asked
    · simpa using List.find?_eq_none.mp measures name asked

/-- A run does not fail for both reasons. -/
theorem NameNotFound.not_noStatement {exit exit' : Exit}
    (unknown : NameNotFound files path report exit) :
    ¬NoStatement files path report options exit' := by
  obtain ⟨schema, loaded, lacking⟩ : ∃ schema, Schema.load files path ⟨0⟩ = .ok schema ∧
      ¬(report.dimensions ⊆ schema.star.dimensions.map Dimension.name ∧
        report.measures ⊆ schema.star.measures.map Measure.name) := by
    cases unknown with
    | dimension loaded asked absent => exact ⟨_, loaded, fun known => absent (known.1 asked)⟩
    | measure loaded asked absent => exact ⟨_, loaded, fun known => absent (known.2 asked)⟩
  intro failed
  cases failed with
  | load unloaded => cases loaded.symm.trans unloaded
  | sql loaded' failed =>
    obtain rfl := Except.ok.inj (loaded.symm.trans loaded')
    rcases cause_of_bind (Schema.owns_of_load loaded) failed with
      ⟨_, _, _, absurdity⟩ | ⟨_, _, _, absurdity⟩ | ⟨_, dimensions, measures, _⟩
    · cases absurdity
    · cases absurdity
    · exact lacking ⟨dimensions, measures⟩

/-! ### Correspondence -/

/-- A sound service and a run of the command line come to the same. -/
theorem Deployment.Sound.corresponds (parser : Sql.Parser) {deployment : Deployment}
    {seen : List Int} (sound : deployment.Sound path options seen) (report : Report.Request) :
    Corresponds deployment.files path report options
      (deployment.service.report deployment.files report).1
      (.of (CommandLine.compileOutput parser deployment.files path report options false)) := by
  unfold Service.report CommandLine.compileOutput CommandLine.loadSchema
  rw [sound.options]
  simp only
  rcases sound.loaded with ⟨cause, cause', answered, unloaded⟩ | ⟨held, answered, owned, loaded⟩
  · rw [answered, unloaded]
    exact .failed (.load unloaded)
  · have owns : (held.schema.under ⟨0⟩).star.Owns := Star.owns_copy held.schema.star ⟨0⟩
    have same : report.bind (held.schema.under ⟨0⟩).star options =
        report.bind held.schema.star options := Report.bind_copy ⟨0⟩ owned report options
    rw [answered, loaded]
    simp only [← same, bind, Except.bind, Except.mapError]
    cases bound : report.bind (held.schema.under ⟨0⟩).star options with
    | ok sql => cases sql <;> exact .compiled _
    | error cause =>
      rcases cause_of_bind owns bound with
        ⟨name, asked, absent, rfl⟩ | ⟨name, asked, absent, rfl⟩ | ⟨table, _, _, rfl⟩
      · exact .notFound (.dimension loaded asked absent)
      · exact .notFound (.measure loaded asked absent)
      · exact .failed (.sql loaded bound)

/-! ### What a client and a user see -/

theorem tree?_encodeStatement (sql : Option String) :
    Json.tree? (Json.write (Report.encodeStatement sql)) = some (Report.encodeStatement sql) := by
  refine Json.tree?_write ?_
  cases sql <;> rfl

private theorem encodeStatement_inj {sql sql' : Option String}
    (same : Report.encodeStatement sql = Report.encodeStatement sql') : sql = sql' := by
  cases sql <;> cases sql' <;> simp_all [Report.encodeStatement, Tree.object, Tree.string]

private theorem printed_inj {sql sql' : Option String} (same : printed sql = printed sql') :
    sql = sql' := by
  have ended (text : String) : text ++ "\n" ≠ "" := by simp
  cases sql with
  | none =>
    cases sql' with
    | none => rfl
    | some text => exact absurd same.symm (ended text)
  | some text =>
    cases sql' with
    | none => exact absurd same (ended text)
    | some text' =>
      have texts : text ++ "\n" = text' ++ "\n" := same
      rw [String.append_left_inj] at texts
      rw [texts]

theorem NameNotFound.code {exit : Exit} (unknown : NameNotFound files path report exit) :
    exit.code = 1 := by
  cases unknown <;> rfl

theorem NoStatement.code {exit : Exit} (failed : NoStatement files path report options exit) :
    exit.code = 1 := by
  cases failed <;> rfl

variable {response : Response} {exit : Exit}

/-- A response with a statement, or with null for none, means that the run prints it. -/
theorem Corresponds.compiled_iff (corresponds : Corresponds files path report options response exit)
    (sql : Option String) :
    (response.status = 200 ∧ Json.tree? response.body = some (Report.encodeStatement sql)) ↔
      exit.code = 0 ∧ exit.output = printed sql := by
  cases corresponds with
  | compiled sql' =>
    rw [tree?_encodeStatement]
    constructor
    · rintro ⟨_, same⟩
      rw [encodeStatement_inj (Option.some.inj same)]
      exact ⟨rfl, rfl⟩
    · rintro ⟨_, same⟩
      rw [printed_inj same]
      exact ⟨rfl, rfl⟩
  | notFound unknown => simp [unknown.code]
  | failed unstated => simp [unstated.code]

theorem Corresponds.notFound_iff
    (corresponds : Corresponds files path report options response exit) :
    response.status = 404 ↔ exit.code = 1 ∧ NameNotFound files path report exit := by
  cases corresponds with
  | compiled sql => simp [Exit.success]
  | notFound unknown => simp [unknown.code, unknown]
  | failed unstated =>
    have known : ¬NameNotFound files path report exit := fun unknown =>
      unknown.not_noStatement unstated
    simp [known]

theorem Corresponds.failed_iff
    (corresponds : Corresponds files path report options response exit) :
    response.status = 500 ↔ exit.code = 1 ∧ NoStatement files path report options exit := by
  cases corresponds with
  | compiled sql => simp [Exit.success]
  | notFound unknown =>
    have stated : ¬NoStatement files path report options exit := unknown.not_noStatement
    simp [stated]
  | failed unstated => simp [unstated.code, unstated]

/-- Whatever requests a service has answered and however the file of its schema was written, each
time anew, and removed, a request for a report is answered with a statement, with none, with a name
not found or with a failure exactly where a run of the command line on the same schema and the same
names prints this statement, prints nothing, or fails for such a reason. -/
theorem agreement_after {parser : Sql.Parser} {path : String} {settings : Settings} {files : Files}
    {history : List Event}
    (timely : Schema.Source.Timely path (Schema.Source.seenAt files path)
      (history.map Event.toSource))
    {deployment : Deployment}
    (reached : deployment = (Deployment.mk files ⟨.of path, settings.options⟩).after history)
    {environment : Environment} {config schema : Option String} {arguments : List String}
    {report : Report.Request}
    (parsed : CommandLine.parse arguments = some (.run ⟨config,
      .compile schema report.dimensions report.measures false false false⟩))
    (configured : CommandLine.settings deployment.files environment config = .ok settings)
    (located : CommandLine.schemaPath schema settings environment = .ok path)
    {request : Request} (posted : request.method = "POST")
    (addressed : request.path = "/api/report") (decoded : request.report? = .ok report) :
    let response := (deployment.service.respond deployment.files request).1
    ∃ exit, CommandLine.run parser deployment.files environment arguments = .ended exit ∧
      (∀ sql, (response.status = 200 ∧
          Json.tree? response.body = some (Report.encodeStatement (some sql))) ↔
        exit.code = 0 ∧ exit.output = sql ++ "\n") ∧
      ((response.status = 200 ∧ Json.tree? response.body = some (Report.encodeStatement none)) ↔
        exit.code = 0 ∧ exit.output = "") ∧
      (response.status = 404 ↔
        exit.code = 1 ∧ NameNotFound deployment.files path report exit) ∧
      (response.status = 500 ↔
        exit.code = 1 ∧ NoStatement deployment.files path report settings.options exit) := by
  intro response
  obtain ⟨seen, sound⟩ := (Deployment.sound_of path settings.options files).after timely
  rw [← reached] at sound
  have answered : response = (deployment.service.report deployment.files report).1 := by
    have other : request.path ≠ "/api/metadata" := by
      rw [addressed]
      decide
    have plain : request.method ≠ "OPTIONS" := by
      rw [posted]
      decide
    change (deployment.service.respond deployment.files request).1 = _
    rw [Service.respond, if_neg plain, if_neg other, if_pos addressed, Service.respondReport,
      if_pos posted, decoded]
  have run : CommandLine.run parser deployment.files environment arguments = .ended
      (.of (CommandLine.compileOutput parser deployment.files path report settings.options
        false)) := by
    rw [CommandLine.run, parsed]
    simp only [CommandLine.Invocation.run, configured, CommandLine.Command.run, located]
    rfl
  have corresponds := sound.corresponds parser report
  rw [← answered] at corresponds
  exact ⟨_, run, fun sql => corresponds.compiled_iff (some sql), corresponds.compiled_iff none,
    corresponds.notFound_iff, corresponds.failed_iff⟩

private def emptyTree : Files := ⟨[], fun _ => none⟩

private def holding (content : ByteArray) : Files :=
  emptyTree.write ["sales.json"] (.file content 5) 0

private theorem find_holding (content : ByteArray) :
    (holding content).find "sales.json" = .ok (.file content 5) := by
  rfl

/-- A service starts and lists its fields. -/
private def arrival (content : ByteArray) : List Event :=
  [.write (holding content) content 5, .start, .request ⟨"GET", "/api/metadata", none, ""⟩]

private theorem timely_arrival (content : ByteArray) (rest : List Event)
    (timely : Schema.Source.Timely "sales.json" [5] (rest.map Event.toSource)) :
    Schema.Source.Timely "sales.json" (Schema.Source.seenAt emptyTree "sales.json")
      ((arrival content ++ rest).map Event.toSource) := by
  refine ⟨find_holding content, ?_, timely⟩
  intro time seen
  cases seen

private def launched (content : ByteArray) (rest : List Event) : Deployment :=
  (Deployment.mk emptyTree ⟨.of "sales.json", Settings.default.options⟩).after
    (arrival content ++ rest)

private def yearText : String := "[\"D\",[[\"F\"]],[\"F\",[[\"Year\",\"F\",\"Y\"]]]]"

private def yearSql : String := "select\n    F.Y as \"Year\"\nfrom F\ngroup by\n    F.Y"

private def posting (name : String) : Request :=
  ⟨"POST", "/api/report", some "application/json",
    "\x7b\"dimensions\":[\"" ++ name ++ "\"]\x7d"⟩

private def commanding (files : Files) (name : String) : CommandLine.Outcome :=
  CommandLine.run Sql.Grammar.parser files (.ofList [])
    (CommandLine.compileArguments "sales.json" [name] [])

private theorem commanding_eq {files : Files} (name : String)
    (configured : CommandLine.settings files (.ofList []) none = .ok Settings.default) :
    commanding files name = .ended (.of (CommandLine.compileOutput Sql.Grammar.parser files
      "sales.json" ⟨[name], []⟩ Settings.default.options false)) := by
  have parsed := CommandLine.parse_compileArguments (by decide : "sales.json" ≠ "") [name] []
  rw [commanding, CommandLine.run, parsed]
  simp only [CommandLine.Invocation.run, configured]
  rfl

private def yearDocument : Document :=
  ⟨"D", [⟨"F", none, []⟩], ⟨"F", [⟨"Year", "F", "Y"⟩], [], []⟩⟩

private def yearSchema : Schema :=
  let table : Warehouse.Table := ⟨⟨some "D", "F", none⟩, []⟩
  ⟨⟨"D", [table]⟩, ⟨0⟩, table, [⟨"Year", table, "Y", some ⟨0⟩⟩], [], []⟩

private theorem load_yearText :
    Schema.load (holding yearText.toUTF8) "sales.json" ⟨0⟩ = .ok yearSchema := by
  have decoded : Document.ofText .json yearText = .ok yearDocument := by decide +kernel
  have built : Schema.build ⟨0⟩ yearDocument = .ok yearSchema := rfl
  exact Schema.load_eq_ok.mpr ⟨yearDocument, ⟨_, .json, _, find_holding _, rfl,
    Files.Entry.text_toUTF8 _ _, decoded⟩, built⟩

/-- Without a file the command line tells so. -/
private theorem commanding_emptyTree (name : String) : commanding emptyTree name =
    .ended (.failure "Error loading schema 'sales.json': File not found: sales.json") := by
  rw [commanding_eq name (by rfl)]
  rfl

private theorem commanding_yearText (name : String) :
    commanding (holding yearText.toUTF8) name = .ended (.of (do
      let sql ← ((⟨[name], []⟩ : Report.Request).bind yearSchema.star
        Settings.default.options).mapError fun cause =>
          "Compilation error: " ++ cause.message CommandLine.starName
      return printed sql)) := by
  rw [commanding_eq name (by rfl)]
  simp only [CommandLine.compileOutput, CommandLine.loadSchema, load_yearText, Except.mapError, bind,
    Except.bind]
  cases (⟨[name], []⟩ : Report.Request).bind yearSchema.star Settings.default.options with
  | error cause => rfl
  | ok sql => cases sql <;> rfl

/-- A service that has loaded a schema answers for a name that this has and for one that it lacks.
Once the file is gone, the schema is not served any more, and the command line finds no file. -/
theorem agreement_around_removal :
    (commanding (holding yearText.toUTF8) "Year" = .ended (.success (yearSql ++ "\n")) ∧
      let deployment := launched yearText.toUTF8 []
      let response := (deployment.service.respond deployment.files (posting "Year")).1
      response.status = 200 ∧
        Json.tree? response.body = some (Report.encodeStatement (some yearSql))) ∧
    (commanding (holding yearText.toUTF8) "Month" =
        .ended (.failure "Compilation error: Dimension [Month] not found") ∧
      let deployment := launched yearText.toUTF8 []
      (deployment.service.respond deployment.files (posting "Month")).1.status = 404) ∧
    commanding emptyTree "Year" =
        .ended (.failure "Error loading schema 'sales.json': File not found: sales.json") ∧
      let deployment := launched yearText.toUTF8 [.remove emptyTree]
      (deployment.service.respond deployment.files (posting "Year")).1.status = 500 := by
  have parsed (name : String) :=
    CommandLine.parse_compileArguments (by decide : "sales.json" ≠ "") [name] []
  have configured : CommandLine.settings (holding yearText.toUTF8) (.ofList []) none =
      .ok Settings.default := by rfl
  have configured' : CommandLine.settings emptyTree (.ofList []) none = .ok Settings.default := by
    rfl
  have addressed : (posting "Year").path = "/api/report" ∧
      (posting "Month").path = "/api/report" := by
    decide +kernel
  have year : (posting "Year").report? = .ok ⟨["Year"], []⟩ := by decide +kernel
  have month : (posting "Month").report? = .ok ⟨["Month"], []⟩ := by decide +kernel
  refine ⟨?_, ?_, ?_⟩
  · have bound : (⟨["Year"], []⟩ : Report.Request).bind yearSchema.star Settings.default.options =
        .ok (some yearSql) := by decide +kernel
    have ended : commanding (holding yearText.toUTF8) "Year" =
        .ended (.success (yearSql ++ "\n")) := by
      rw [commanding_yearText, bound]
      rfl
    obtain ⟨exit, run, compiled, _⟩ := agreement_after (timely_arrival _ [] trivial)
      (rfl : launched yearText.toUTF8 [] = _) (parsed "Year") configured rfl rfl addressed.1
      year
    obtain rfl := CommandLine.Outcome.ended.inj (run.symm.trans ended)
    exact ⟨ended, (compiled yearSql).mpr ⟨rfl, rfl⟩⟩
  · have ended : commanding (holding yearText.toUTF8) "Month" =
        .ended (.failure "Compilation error: Dimension [Month] not found") := by
      rw [commanding_yearText]
      decide +kernel
    obtain ⟨exit, run, _, _, unknown, _⟩ := agreement_after (timely_arrival _ [] trivial)
      (rfl : launched yearText.toUTF8 [] = _) (parsed "Month") configured rfl rfl addressed.2
      month
    obtain rfl := CommandLine.Outcome.ended.inj (run.symm.trans ended)
    have lacking : NameNotFound (holding yearText.toUTF8) "sales.json" ⟨["Month"], []⟩
        (.failure ("Compilation error: Dimension [" ++ "Month" ++ "] not found")) :=
      .dimension load_yearText List.mem_cons_self (by decide)
    exact ⟨ended, unknown.mpr ⟨rfl, lacking⟩⟩
  · have unloaded : Schema.load emptyTree "sales.json" ⟨0⟩ =
        .error (.fileNotFound "sales.json") := by rfl
    obtain ⟨exit, run, _, _, _, failed⟩ := agreement_after
      (timely_arrival _ [.remove emptyTree] ⟨⟨.missing, rfl⟩, trivial⟩)
      (rfl : launched yearText.toUTF8 [.remove emptyTree] = _) (parsed "Year") configured' rfl rfl
      addressed.1 year
    obtain rfl := CommandLine.Outcome.ended.inj (run.symm.trans (commanding_emptyTree "Year"))
    exact ⟨commanding_emptyTree "Year", failed.mpr ⟨rfl, .load unloaded⟩⟩

end StarReport.Http
