import StarReport.CommandLine.Run
import StarReport.Proofs.Json.Written
import StarReport.Proofs.Report.Outcome
import StarReport.Proofs.Schema.Loading
import StarReport.Proofs.Settings.Path
import StarReport.Sql.Grammar.Texts

/-!
Runs that compile a report. A run fails at the first of its steps that fails and then prints
nothing; else it prints the statement that the request comes to, if the request names anything.
Checking only turns a print into a failure, logging changes neither, and where a schema is given the
path in the settings is not looked at.
-/

set_option autoImplicit false
set_option relaxedAutoImplicit false

namespace StarReport.CommandLine

open Report (Options)

section

variable (parser : Sql.Parser) (files : Files) (environment : Environment)
  (config schema : Option String) (report : Report.Request) (caseSensitive logQuery : Bool)

/-- The exit of a run that compiles a report, checked or not. -/
def compileExit (check : Bool) : Exit :=
  match settings files environment config with
  | .error cause => .failure ("Configuration error: " ++ cause.message)
  | .ok settings => .of (do
      let path ← schemaPath schema settings environment
      compileOutput parser files path report ⟨caseSensitive || settings.report.caseSensitive,
        logQuery || settings.report.logQuery⟩ check)

theorem run_compile (check : Bool) : Invocation.run parser files environment
    ⟨config, .compile schema report.dimensions report.measures caseSensitive logQuery check⟩ =
      .ended (compileExit parser files environment config schema report caseSensitive logQuery
        check) := by
  unfold Invocation.run compileExit
  cases settings files environment config <;> rfl

/-- On the schema of a run the request comes to the given statement, or to none. -/
def Binds (bound : Option String) : Prop :=
  ∃ settings path loaded, CommandLine.settings files environment config = .ok settings ∧
    schemaPath schema settings environment = .ok path ∧
    Schema.load files path ⟨0⟩ = .ok loaded ∧
    report.bind loaded.star ⟨caseSensitive || settings.report.caseSensitive,
      logQuery || settings.report.logQuery⟩ = .ok bound

/-- How a run ends without a check and with one: it fails before there is a statement, there is
none, or the statement is accepted or refused. -/
inductive Ends : Exit → Exit → Prop
  | failed (reason : String) : Ends (.failure reason) (.failure reason)
  | nothing : Binds files environment config schema report caseSensitive logQuery none →
      Ends (.success "") (.success "")
  | accepted {sql : String} :
      Binds files environment config schema report caseSensitive logQuery (some sql) →
      Sql.check parser sql = .ok () → Ends (.success (sql ++ "\n")) (.success (sql ++ "\n"))
  | refused {sql : String} {cause : Sql.ValidityError} :
      Binds files environment config schema report caseSensitive logQuery (some sql) →
      Sql.check parser sql = .error cause →
      Ends (.success (sql ++ "\n")) (.failure (cause.message sql))

theorem ends_compileExit : Ends parser files environment config schema report caseSensitive logQuery
    (compileExit parser files environment config schema report caseSensitive logQuery false)
    (compileExit parser files environment config schema report caseSensitive logQuery true) := by
  unfold compileExit
  cases configured : settings files environment config with
  | error cause => exact .failed _
  | ok settings =>
    simp only
    cases located : schemaPath schema settings environment with
    | error reason => exact .failed reason
    | ok path =>
      simp only [bind, Except.bind, compileOutput, loadSchema]
      cases loads : Schema.load files path ⟨0⟩ with
      | error cause => exact .failed _
      | ok loaded =>
        simp only [Except.mapError]
        cases bound : report.bind loaded.star ⟨caseSensitive || settings.report.caseSensitive,
          logQuery || settings.report.logQuery⟩ with
        | error cause => exact .failed _
        | ok sql =>
          have binds : Binds files environment config schema report caseSensitive logQuery sql :=
            ⟨settings, path, loaded, configured, located, loads, bound⟩
          cases sql with
          | none => exact .nothing binds
          | some sql =>
            simp only
            cases checked : Sql.check parser sql with
            | error cause => exact .refused binds checked
            | ok => exact .accepted binds checked

theorem compileExit_logQuery (check : Bool) :
    compileExit parser files environment config schema report caseSensitive true check =
      compileExit parser files environment config schema report caseSensitive false check := by
  have output (path : String) (settings : Settings) :
      compileOutput parser files path report ⟨caseSensitive || settings.report.caseSensitive,
          true || settings.report.logQuery⟩ check =
        compileOutput parser files path report ⟨caseSensitive || settings.report.caseSensitive,
          false || settings.report.logQuery⟩ check := by
    unfold compileOutput
    refine bind_congr fun loaded => ?_
    rw [report.bind_logQuery loaded.star _ _ (false || settings.report.logQuery)]
  unfold compileExit
  cases settings files environment config with
  | error cause => rfl
  | ok settings => exact congrArg Exit.of (bind_congr fun path => output path settings)

end

section Ends

variable {parser : Sql.Parser} {files : Files} {environment : Environment}
  {config schema : Option String} {report : Report.Request} {caseSensitive logQuery : Bool}
  {plain checked : Exit}

/-- The print is empty for a request without names alone. -/
theorem Binds.print_eq_empty {bound : Option String}
    (binds : Binds files environment config schema report caseSensitive logQuery bound) :
    (bound.map (· ++ "\n")).getD "" = "" ↔ report.dimensions = [] ∧ report.measures = [] := by
  obtain ⟨_, _, _, _, _, _, result⟩ := binds
  have nothing : (bound.map (· ++ "\n")).getD "" = "" ↔ bound = none := by
    cases bound <;> simp
  have empty := Report.Request.bind_eq_none.symm.trans (by rw [result, Except.ok.injEq])
  rw [nothing, ← empty, Report.Request.isEmpty, Bool.and_eq_true, List.isEmpty_iff,
    List.isEmpty_iff]

/-- Without a check every statement is printed. -/
theorem Binds.compileExit_eq {bound : Option String}
    (binds : Binds files environment config schema report caseSensitive logQuery bound) :
    compileExit parser files environment config schema report caseSensitive logQuery false =
      .success ((bound.map (· ++ "\n")).getD "") := by
  obtain ⟨settings, path, loaded, configured, located, loads, result⟩ := binds
  rw [compileExit, configured]
  simp only [located, compileOutput, loadSchema, loads, Except.mapError, bind, Except.bind, result]
  cases bound <;> rfl

/-- Either run fails without a print, or prints what the request comes to. -/
theorem Ends.exit_eq (ends : Ends parser files environment config schema report caseSensitive
    logQuery plain checked) (exit : Exit) (either : exit = plain ∨ exit = checked) :
    (∃ reason, exit = .failure reason) ∨ ∃ bound,
      Binds files environment config schema report caseSensitive logQuery bound ∧
        exit = .success ((bound.map (· ++ "\n")).getD "") := by
  cases ends with
  | failed reason => exact .inl ⟨reason, either.elim id id⟩
  | nothing binds => exact .inr ⟨none, binds, either.elim id id⟩
  | @accepted sql binds _ => exact .inr ⟨some sql, binds, either.elim id id⟩
  | @refused sql cause binds _ =>
    rcases either with same | same
    · exact .inr ⟨some sql, binds, same⟩
    · exact .inl ⟨_, same⟩

/-- A check leaves a run as it is, or turns a print into a failure. -/
theorem Ends.checked_eq (ends : Ends parser files environment config schema report caseSensitive
    logQuery plain checked) : checked.code = plain.code ∧ checked.output = plain.output ∨
      ∃ sql, plain.code = 0 ∧ plain.output = sql ++ "\n" ∧ checked.code = 1 ∧
        checked.output = "" := by
  cases ends with
  | @refused sql cause _ _ => exact .inr ⟨sql, rfl, rfl, rfl, rfl⟩
  | _ => exact .inl ⟨rfl, rfl⟩

theorem Ends.refused_iff (ends : Ends parser files environment config schema report caseSensitive
    logQuery plain checked) {sql : String} (ended : plain.code = 0)
    (printed : plain.output = sql ++ "\n") :
    checked.code = 1 ∧ checked.output = "" ↔ ∃ cause, Sql.check parser sql = .error cause := by
  cases ends with
  | failed => cases ended
  | nothing => simp [Exit.success] at printed
  | accepted _ accepted =>
    obtain rfl := (String.append_left_inj _).mp printed
    simp [accepted, Exit.success]
  | refused _ refused =>
    obtain rfl := (String.append_left_inj _).mp printed
    simp [refused, Exit.failure]

end Ends

/-- A run tells no more of a load that fails than the message of the error. -/
theorem loadSchema_eq {files files' : Files} {path : String} (agree : files.AgreeOn files' path) :
    loadSchema files path = loadSchema files' path := by
  have told (files : Files) : loadSchema files path =
      ((Schema.load files path ⟨0⟩).mapError Schema.LoadError.message).mapError fun message =>
        "Error loading schema '" ++ path ++ "': " ++ message := by
    unfold loadSchema
    cases Schema.load files path ⟨0⟩ <;> rfl
  rw [told, told, agree.load_eq]

/-- Where a schema is given, all that counts of the settings is how reports are compiled. -/
theorem compileExit_eq {parser : Sql.Parser} {files files' : Files}
    {environment environment' : Environment} {config config' : Option String} {path : String}
    {settings settings' : Settings}
    (configured : CommandLine.settings files environment config = .ok settings)
    (configured' : CommandLine.settings files' environment' config' = .ok settings')
    (alike : settings.report = settings'.report) (agree : files.AgreeOn files' path)
    (report : Report.Request) (caseSensitive logQuery check : Bool) :
    compileExit parser files environment config (some path) report caseSensitive logQuery check =
      compileExit parser files' environment' config' (some path) report caseSensitive logQuery
        check := by
  unfold compileExit
  rw [configured, configured']
  simp only [schemaPath, bind, Except.bind, compileOutput, loadSchema_eq agree, alike]

/-- With any parser to check statements, a run that compiles a report ends with code 0 or 1, and with
1 it prints nothing. With 0 it prints the statement that the request comes to on the loaded schema, or
nothing if the request is empty. A check changes nothing unless it refuses the statement: then this is
not printed and the code is 1. Logging changes nothing. Where a schema is given, settings that differ
in the path of the schema alone come to the same, also if the path cannot be expanded or they stand in
the file given. -/
theorem compile_discipline (parser : Sql.Parser) (files : Files) (environment : Environment)
    (config schema : Option String) (report : Report.Request) (caseSensitive : Bool) :
    ∃ exit : Bool → Bool → Exit,
      (∀ logQuery check, Invocation.run parser files environment ⟨config,
        .compile schema report.dimensions report.measures caseSensitive logQuery check⟩ =
          .ended (exit logQuery check)) ∧
      (∀ logQuery check,
        ((exit logQuery check).code = 0 ∨ (exit logQuery check).code = 1) ∧
        ((exit logQuery check).code = 1 → (exit logQuery check).output = "")) ∧
      (∀ logQuery check, (exit logQuery check).code = 0 →
        ((exit logQuery check).output = "" ↔ report.dimensions = [] ∧ report.measures = []) ∧
        ∃ settings path loaded bound,
          CommandLine.settings files environment config = .ok settings ∧
          schemaPath schema settings environment = .ok path ∧
          Schema.load files path ⟨0⟩ = .ok loaded ∧
          report.bind loaded.star ⟨caseSensitive || settings.report.caseSensitive,
            logQuery || settings.report.logQuery⟩ = .ok bound ∧
          (exit logQuery check).output = (bound.map (· ++ "\n")).getD "") ∧
      (∀ logQuery,
        ((exit logQuery true).code = (exit logQuery false).code ∧
            (exit logQuery true).output = (exit logQuery false).output ∨
          ∃ sql, (exit logQuery false).code = 0 ∧ (exit logQuery false).output = sql ++ "\n" ∧
            (exit logQuery true).code = 1 ∧ (exit logQuery true).output = "") ∧
        ∀ sql, (exit logQuery false).code = 0 → (exit logQuery false).output = sql ++ "\n" →
          ((exit logQuery true).code = 1 ∧ (exit logQuery true).output = "" ↔
            ∃ cause, Sql.check parser sql = .error cause)) ∧
      (∀ check, (exit true check).code = (exit false check).code ∧
        (exit true check).output = (exit false check).output) ∧
      ∀ path, schema = some path → ∀ files' environment' config' settings settings',
        CommandLine.settings files environment config = .ok settings →
        CommandLine.settings files' environment' config' = .ok settings' →
        settings.report = settings'.report → files.AgreeOn files' path →
        ∀ logQuery check, Invocation.run parser files' environment' ⟨config',
          .compile (some path) report.dimensions report.measures caseSensitive logQuery check⟩ =
            .ended (exit logQuery check) := by
  have ends (logQuery : Bool) :=
    ends_compileExit parser files environment config schema report caseSensitive logQuery
  have single (logQuery check : Bool) := (ends logQuery).exit_eq
    (compileExit parser files environment config schema report caseSensitive logQuery check)
    (by cases check <;> simp)
  refine ⟨compileExit parser files environment config schema report caseSensitive,
    run_compile parser files environment config schema report caseSensitive, fun logQuery check => ?_,
    fun logQuery check ended => ?_,
    fun logQuery => ⟨(ends logQuery).checked_eq, fun sql => (ends logQuery).refused_iff⟩,
    fun check => ?_, ?_⟩
  · rcases single logQuery check with ⟨reason, same⟩ | ⟨bound, _, same⟩
    · rw [same]
      exact ⟨.inr rfl, fun _ => rfl⟩
    · rw [same]
      exact ⟨.inl rfl, nofun⟩
  · rcases single logQuery check with ⟨reason, same⟩ | ⟨bound, binds, same⟩
    · rw [same] at ended
      cases ended
    · rw [same]
      have empty := binds.print_eq_empty
      obtain ⟨settings, path, loaded, configured, located, loads, result⟩ := binds
      exact ⟨empty, settings, path, loaded, bound, configured, located, loads, result, rfl⟩
  · rw [compileExit_logQuery]
    exact ⟨rfl, rfl⟩
  · rintro path rfl files' environment' config' settings settings' configured configured' alike
      agree logQuery check
    rw [compileExit_eq configured configured' alike agree]
    exact run_compile parser files' environment' config' (some path) report caseSensitive logQuery
      check

/-- A text that holds settings and a document. -/
private def sharedText (path : String) : String :=
  "database = \"D\"\ntables = [[\"F\"]]\nstar = [\"F\", [[\"Year\", \"F\", \"Y\"]]]\n\n" ++
    "[schema]\npath = \"" ++ path ++ "\"\n"

private def sharedMembers (path : String) : List (Characters × Tree) :=
  [(some "database", .string "D"), (some "tables", .list [.list [.string "F"]]),
    (some "star", .list [.string "F", .list [.list [.string "Year", .string "F", .string "Y"]]]),
    (some "schema", .object [("path", .string path)])]

private def Shares (path : String) : Prop :=
  Toml.tree? (sharedText path) = some (.record (sharedMembers path))

/-- A path with a variable that is not set. -/
private def unsetPath : String := "$NOWHERE/x"

private theorem shares_unsetPath : Shares unsetPath :=
  Json.eq_of_write (by decide) (by decide +kernel)

private theorem shares_other : Shares "y.json" :=
  Json.eq_of_write (by decide) (by decide +kernel)

private def sharing (path : String) : Files :=
  ⟨[], fun place =>
    if place = ["stargen.toml"] then some (.file (sharedText path).toUTF8 5) else none⟩

private def sharedSettings (path : String) : Settings := ⟨⟨some path⟩, .default, .default⟩

private def sharedDocument : Document :=
  ⟨"D", [⟨"F", none, []⟩], ⟨"F", [⟨"Year", "F", "Y"⟩], [], []⟩⟩

private def sharedSchema : Schema :=
  let table : Warehouse.Table := ⟨⟨some "D", "F", none⟩, []⟩
  ⟨⟨"D", [table]⟩, ⟨0⟩, table, [⟨"Year", table, "Y", some ⟨0⟩⟩], [], []⟩

section Sharing

variable {path path' : String} (shares : Shares path) (shares' : Shares path')

include shares

private theorem ofText_sharedText :
    Settings.ofText (sharedText path) = .ok (sharedSettings path) := by
  rw [Settings.ofText, Toml.decode, shares]
  rfl

private theorem configured_sharing :
    CommandLine.settings (sharing path) (.ofList []) none = .ok (sharedSettings path) := by
  change Settings.ofFile (sharing path) "stargen.toml" = _
  have found : (sharing path).find "stargen.toml" = .ok (.file (sharedText path).toUTF8 5) := rfl
  rw [Settings.ofFile, found]
  simp only
  rw [Files.Entry.text_toUTF8]
  exact ofText_sharedText shares

private theorem load_sharing :
    Schema.load (sharing path) "stargen.toml" ⟨0⟩ = .ok sharedSchema := by
  have decoded : Document.ofText .toml (sharedText path) = .ok sharedDocument := by
    simp only [Document.ofText, Toml.decode]
    rw [shares]
    rfl
  exact Schema.load_eq_ok.mpr ⟨sharedDocument,
    ⟨_, .toml, _, rfl, rfl, Files.Entry.text_toUTF8 _ _, decoded⟩, rfl⟩

include shares'

private theorem agreeOn_sharing : (sharing path).AgreeOn (sharing path') "stargen.toml" :=
  .inr ⟨_, _, sharedText path, sharedText path', rfl, rfl, Files.Entry.text_toUTF8 _ _,
    Files.Entry.text_toUTF8 _ _, sharedMembers path, sharedMembers path', sharedSettings path,
    sharedSettings path', ⟨rfl, rfl⟩, shares, shares', ofText_sharedText shares,
    ofText_sharedText shares'⟩

end Sharing

/-- A file of settings is compiled as a schema, whether or not the path in it can be expanded. -/
theorem compile_discipline_of_sharing :
    let invocation : Invocation :=
      ⟨none, .compile (some "stargen.toml") ["Year"] [] false false false⟩
    schemaPath none (sharedSettings unsetPath) (.ofList []) =
      .error "Configuration error: Missing environment variable: NOWHERE" ∧
    ∃ exit,
      invocation.run Sql.Grammar.parser (sharing unsetPath) (.ofList []) = .ended exit ∧
      invocation.run Sql.Grammar.parser (sharing "y.json") (.ofList []) = .ended exit ∧
      exit.code = 0 ∧
      exit.output = "select\n    F.Y as \"Year\"\nfrom F\ngroup by\n    F.Y\n" := by
  intro invocation
  refine ⟨by decide +kernel, ?_⟩
  obtain ⟨exit, runs, _, prints, _, _, alike⟩ := compile_discipline Sql.Grammar.parser
    (sharing unsetPath) (.ofList []) none (some "stargen.toml") ⟨["Year"], []⟩ false
  have other := alike _ rfl (sharing "y.json") (.ofList []) none (sharedSettings unsetPath)
    (sharedSettings "y.json") (configured_sharing shares_unsetPath)
    (configured_sharing shares_other) rfl (agreeOn_sharing shares_unsetPath shares_other) false false
  have binds : Binds (sharing unsetPath) (.ofList []) none (some "stargen.toml") ⟨["Year"], []⟩
      false false (some "select\n    F.Y as \"Year\"\nfrom F\ngroup by\n    F.Y") :=
    ⟨_, _, sharedSchema, configured_sharing shares_unsetPath, rfl, load_sharing shares_unsetPath,
      by decide +kernel⟩
  have same := Outcome.ended.inj
    ((run_compile _ _ _ _ _ ⟨["Year"], []⟩ false false false).symm.trans (runs false false))
  rw [binds.compileExit_eq] at same
  exact ⟨_, runs false false, other, by rw [← same]; rfl, by rw [← same]; rfl⟩

end StarReport.CommandLine
