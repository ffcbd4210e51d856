import StarReport.Document.Decode
import StarReport.Files.Basic
import StarReport.Json.Reader
import StarReport.Schema.Build
import StarReport.Toml.Reader

/-!
Loading of schemas from texts and files. The extension of a path decides the format of the document
in it. A file is looked for before its extension is considered, and read only after that.
-/

set_option autoImplicit false
set_option relaxedAutoImplicit false

namespace StarReport

open StarReport.Star (StarId)

inductive Format where
  | toml
  | json
deriving DecidableEq

def Format.text : Format → String
  | .toml => "toml"
  | .json => "json"

namespace Schema

inductive LoadError where
  | fileNotFound (path : String)
  | unsupportedExtension (extension : String)
  | unreadable (failure : Files.Failure)
  | malformed (format : Format) (fault : Tree.Fault)
  | invalid (cause : BuildError)
deriving DecidableEq

/-- The message of an error. What the reader of a format says of the place of a fault in its text is
left out. -/
def LoadError.message : LoadError → String
  | .fileNotFound path => "File not found: " ++ path
  | .unsupportedExtension extension =>
    "Unsupported file extension: " ++ extension ++ ". Supported: .toml, .json"
  | .unreadable failure => "IO error: " ++ failure.message
  | .malformed .toml _ => "TOML error: "
  | .malformed .json _ => "JSON error: "
  | .invalid cause => cause.message

end Schema

open Schema (LoadError)

def Format.ofPath (path : String) : Except LoadError Format :=
  let extension := Files.extension path
  if extension = "toml" then .ok .toml
  else if extension = "json" then .ok .json
  else .error (.unsupportedExtension extension)

def Document.ofText (format : Format) (text : String) : Except LoadError Document :=
  let decoded := match format with
    | .toml => Toml.decode Document.decode text
    | .json => Json.decode Document.decode text
  decoded.mapError (.malformed format)

namespace Schema

def ofText (id : StarId) (format : Format) (text : String) : Except LoadError Schema := do
  let document ← Document.ofText format text
  (build id document).mapError .invalid

def ofEntry (id : StarId) (path : String) (entry : Files.Entry) : Except LoadError Schema := do
  let format ← Format.ofPath path
  let text ← entry.text.mapError .unreadable
  ofText id format text

def load (files : Files) (path : String) (id : StarId) : Except LoadError Schema :=
  match files.find path with
  | .error _ => .error (.fileNotFound path)
  | .ok entry => ofEntry id path entry

/-- What a successful load writes to the log. -/
def loadedNotice : String := "loaded schema"

end Schema

end StarReport
