import StarReport.CommandLine.Arguments
import StarReport.Json.Printer
import StarReport.Report.Encode
import StarReport.Schema.Source
import StarReport.Settings.Load
import StarReport.Sql.Validity

/-!
Runs of the command line. A run reads files and variables, writes to its two outputs and ends with
an exit code, or goes on as a service. Whatever goes wrong is told on the error output alone.
-/

set_option autoImplicit false
set_option relaxedAutoImplicit false

namespace StarReport.CommandLine

structure Exit where
  code : Nat
  output : String
  errors : String
deriving DecidableEq

/-- A service that is ready to listen. -/
structure Service where
  source : Schema.Source
  options : Report.Options
  host : String
  port : UInt16
deriving DecidableEq

inductive Outcome where
  | ended (exit : Exit)
  | serving (service : Service)
deriving DecidableEq

def Exit.success (output : String) : Exit := ⟨0, output, ""⟩

def Exit.failure (reason : String) : Exit := ⟨1, "", reason ++ "\n"⟩

def Exit.misuse : Exit := ⟨2, "", usage⟩
where
  usage := "Usage: stargen [--config <CONFIG>] <COMMAND>\n"

/-- A star is told apart by its number. -/
def starName (star : Star.StarId) : String := toString star.serial

/-- The path of the schema: the argument, or else the one in the settings. -/
def schemaPath (argument : Option String) (settings : Settings) (environment : Environment) :
    Except String String :=
  match argument with
  | some path => .ok path
  | none =>
    match settings.schemaPath environment with
    | .error cause => .error ("Configuration error: " ++ cause.message)
    | .ok none => .error "No schema given and none configured under [schema] path"
    | .ok (some path) => .ok path

def loadSchema (files : Files) (path : String) : Except String Schema :=
  (Schema.load files path ⟨0⟩).mapError fun cause =>
    "Error loading schema '" ++ path ++ "': " ++ cause.message

/-- The exit of a run that has an output or a reason for having none. -/
def Exit.of : Except String String → Exit
  | .ok output => .success output
  | .error reason => .failure reason

/-- Compile a request and, where asked to, check the statement before printing it. -/
def compileOutput (parser : Sql.Parser) (files : Files) (path : String)
    (request : Report.Request) (options : Report.Options) (check : Bool) :
    Except String String := do
  let schema ← loadSchema files path
  let sql ← (request.bind schema.star options).mapError fun cause =>
    "Compilation error: " ++ cause.message starName
  match sql with
  | none => return ""
  | some sql =>
    if check then (Sql.check parser sql).mapError (·.message sql)
    return sql ++ "\n"

def listingOutput (files : Files) (path : String) : Except String String := do
  let schema ← loadSchema files path
  return Json.writeIndented (Report.encodeListing (Report.listing schema.star)) ++ "\n"

/-- Load the schema of a service once before it starts. -/
def startService (files : Files) (path host : String) (port : UInt16) (options : Report.Options) :
    Outcome :=
  let (answer, source) := (Schema.Source.of path).schema files
  match answer.result with
  | .error cause => .ended (.failure ("Server error: " ++ cause.message))
  | .ok _ => .serving ⟨source, options, host, port⟩

def settings (files : Files) (environment : Environment) (config : Option String) :
    Except Settings.SettingsError Settings :=
  match config with
  | some path => Settings.ofFile files path
  | none => Settings.find files environment

def Command.run (parser : Sql.Parser) (files : Files) (environment : Environment)
    (settings : Settings) : Command → Outcome
  | .compile schema dimensions measures caseSensitive logQuery check =>
    let options : Report.Options :=
      ⟨caseSensitive || settings.report.caseSensitive, logQuery || settings.report.logQuery⟩
    .ended (.of (do
      let path ← schemaPath schema settings environment
      compileOutput parser files path ⟨dimensions, measures⟩ options check))
  | .describe schema =>
    .ended (.of (do
      let path ← schemaPath schema settings environment
      listingOutput files path))
  | .serve schema host port =>
    match schemaPath schema settings environment with
    | .error reason => .ended (.failure reason)
    | .ok path => startService files path (host.getD settings.server.host)
        (port.getD settings.server.port) settings.options

/-- Carry out an invocation. The settings are read before anything else. -/
def Invocation.run (parser : Sql.Parser) (files : Files) (environment : Environment)
    (invocation : Invocation) : Outcome :=
  match settings files environment invocation.config with
  | .error cause => .ended (.failure ("Configuration error: " ++ cause.message))
  | .ok settings => invocation.command.run parser files environment settings

/-- The name and version that a run tells. -/
def versionText : String := "stargen 0.1.0\n"

def helpText : String :=
  "stargen - Compile star-schema report selections into aggregate SQL\n\n" ++
  "Usage: stargen [--config <CONFIG>] <COMMAND>\n\n" ++
  "Commands:\n" ++
  "  compile [SCHEMA] [-d <NAME>]... [-m <NAME>]... [--case-sensitive] [--log-query] [--check]\n" ++
  "  describe [SCHEMA]\n" ++
  "  serve [--schema <SCHEMA>] [--host <HOST>] [--port <PORT>]\n"

/-- Carry out what the arguments ask for; statements are checked with the given parser. -/
def run (parser : Sql.Parser) (files : Files) (environment : Environment)
    (arguments : List String) : Outcome :=
  match parse arguments with
  | none => .ended .misuse
  | some .version => .ended (.success versionText)
  | some .help => .ended (.success helpText)
  | some (.run invocation) => invocation.run parser files environment

end StarReport.CommandLine
