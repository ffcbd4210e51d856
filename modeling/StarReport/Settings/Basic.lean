import StarReport.Files.Basic
import StarReport.Report.Binding
import StarReport.Settings.Expansion
import StarReport.Toml.Reader

/-!
Settings: where the schema is, how reports are compiled and where the service listens. Every
setting has a default.
-/

set_option autoImplicit false
set_option relaxedAutoImplicit false

namespace StarReport

namespace Settings

structure SchemaSettings where
  path : Option String
deriving DecidableEq

structure ReportSettings where
  caseSensitive : Bool
  logQuery : Bool
deriving DecidableEq

structure ServerSettings where
  host : String
  port : UInt16
deriving DecidableEq

end Settings

structure Settings where
  schema : Settings.SchemaSettings
  report : Settings.ReportSettings
  server : Settings.ServerSettings
deriving DecidableEq

namespace Settings

open Tree.Decoder

def SchemaSettings.default : SchemaSettings := ⟨none⟩

def ReportSettings.default : ReportSettings := ⟨false, false⟩

def ServerSettings.default : ServerSettings := ⟨"127.0.0.1", 3000⟩

protected def default : Settings := ⟨.default, .default, .default⟩

def SchemaSettings.decode : Tree.Decoder SchemaSettings :=
  record .default
    [.optional "path" optionalText fun path settings => { settings with path := path }]

def ReportSettings.decode : Tree.Decoder ReportSettings :=
  record .default
    [.optional "case_sensitive" flag fun on settings => { settings with caseSensitive := on },
      .optional "log_query" flag fun on settings => { settings with logQuery := on }]

def ServerSettings.decode : Tree.Decoder ServerSettings :=
  record .default
    [.optional "host" text fun host settings => { settings with host := host },
      .optional "port" word fun port settings => { settings with port := port }]

def decode : Tree.Decoder Settings :=
  record .default
    [.optional "schema" SchemaSettings.decode
        fun schema settings => { settings with schema := schema },
      .optional "report" ReportSettings.decode
        fun report settings => { settings with report := report },
      .optional "server" ServerSettings.decode
        fun server settings => { settings with server := server }]

inductive SettingsError where
  | fileNotFound (path : String)
  | unreadable (failure : Files.Failure)
  | malformed (fault : Tree.Fault)
  | missingVariable (name : String)
deriving DecidableEq

/-- The message of an error, without what the reader says of the place of a fault in its text. -/
def SettingsError.message : SettingsError → String
  | .fileNotFound path => "Config file not found: " ++ path
  | .unreadable failure => "Failed to read config file: " ++ failure.message
  | .malformed _ => "Failed to parse config file: "
  | .missingVariable name => "Missing environment variable: " ++ name

def ofText (text : String) : Except SettingsError Settings :=
  (Toml.decode decode text).mapError .malformed

def expandVariables (environment : Environment) (text : String) :
    Except SettingsError String :=
  (expand environment text).mapError .missingVariable

/-- The path of the schema with its variables replaced, if the settings have one. -/
def schemaPath (settings : Settings) (environment : Environment) :
    Except SettingsError (Option String) :=
  match settings.schema.path with
  | none => .ok none
  | some path => (expandVariables environment path).map some

def options (settings : Settings) : Report.Options :=
  ⟨settings.report.caseSensitive, settings.report.logQuery⟩

end Settings

end StarReport
