import StarReport.Schema.Load
import StarReport.Settings.Basic

/-!
Loading of settings from files. Without a file that is asked for, the first of these is taken: the
one that a variable names, the one in the working directory, the one in the user's directory of
settings. Without any of them the defaults hold.
-/

set_option autoImplicit false
set_option relaxedAutoImplicit false

namespace StarReport.Settings

def ofFile (files : Files) (path : String) : Except SettingsError Settings :=
  match files.find path with
  | .error _ => .error (.fileNotFound path)
  | .ok entry => do
    let text ← entry.text.mapError .unreadable
    ofText text

/-- The variable that names a file of settings. -/
def pathVariable : String := "STARGEN_CONFIG"

def localPath : String := "stargen.toml"

/-- The user's home directory: the one that a variable names, else the one of the account. -/
def home? (environment : Environment) : Option String :=
  ((environment.value? "HOME").filter fun home => !home.isEmpty).or
    (environment.accountHome?.filter fun home => !home.isEmpty)

/-- The file of settings in the user's directory, which takes an absolute path in its variable and
is otherwise under the home directory. -/
def userPath? (environment : Environment) : Option String :=
  let directory? := ((environment.value? "XDG_CONFIG_HOME").filter Files.isAbsolute).or
    ((home? environment).map fun home => Files.join home ".config")
  directory?.map fun directory => Files.join (Files.join directory "stargen") "config.toml"

/-- The settings of a run for which no file is asked for. -/
def find (files : Files) (environment : Environment) : Except SettingsError Settings :=
  match environment.value? pathVariable with
  | some path => ofFile files path
  | none =>
    if files.exists? localPath then ofFile files localPath
    else match userPath? environment with
      | some path => if files.exists? path then ofFile files path else .ok .default
      | none => .ok .default

end StarReport.Settings
