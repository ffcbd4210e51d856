import StarReport.CommandLine.Run
import StarReport.Sql.Grammar.Texts

/-!
The program. It looks at the files and variables that a run may ask for, hands them to the run, and
writes what comes of it. It does not listen on a port: a service that is ready to start ends here.
-/

set_option autoImplicit false
set_option relaxedAutoImplicit false

namespace StarReport.Program

open CommandLine Files

/-- The entry that a path leads to in the file system. -/
def look (path : String) : IO (Option Entry) := do
  try
    let real ← IO.FS.realPath path
    let data ← real.metadata
    match data.type with
    | .dir => return some (.directory 0)
    | _ =>
      let content ← try IO.FS.readBinFile real catch _ => pure (ByteArray.mk #[255])
      return some (.file content 0)
  catch _ => return none

/-- Take in what a path leads to, with the directories on the way. -/
def observe (files : Files) (path : String) : IO Files := do
  let mut files := files
  let mut place := if isAbsolute path then [] else files.workingDirectory
  let mut walked := ""
  for component in split path.toList do
    let name := String.ofList component
    walked := walked ++ name
    if name = ".." then place := place.dropLast
    else if name ≠ "" ∧ name ≠ "." then
      place := place ++ [name]
      if let some entry ← look walked then files := files.write place entry 0
    walked := walked ++ "/"
  return files

/-- The home directory of the user that runs the program, as the list of accounts has it. -/
def readAccountHome : IO (Option String) := do
  try
    let status ← IO.FS.readFile "/proc/self/status"
    let accounts ← IO.FS.readFile "/etc/passwd"
    let user? := (status.splitOn "\n").findSome? fun line =>
      match line.splitOn "\t" with
      | "Uid:" :: user :: _ => some user
      | _ => none
    return (accounts.splitOn "\n").findSome? fun line =>
      match line.splitOn ":" with
      | [_, _, user, _, _, home, _] => if some user = user? then some home else none
      | _ => none
  catch _ => return none

def readEnvironment (names : List String) : IO Environment := do
  let pairs ← names.filterMapM fun name => do
    return (← IO.getEnv name).map (name, ·)
  let accountHome? ← readAccountHome
  return { Environment.ofList pairs with accountHome? := accountHome? }

def namesIn (text : String) : List String :=
  (Settings.segments text.toList).filterMap fun
    | .braced name _ => some (String.ofList name)
    | .bare name => some (String.ofList name)
    | _ => none

def schemaOf : Command → Option String
  | .compile schema _ _ _ _ _ => schema
  | .describe schema => schema
  | .serve schema _ _ => schema

/-- Take in all that an invocation may ask for. -/
def surroundings (invocation : Invocation) : IO (Files × Environment) := do
  let fixed := [Settings.pathVariable, "XDG_CONFIG_HOME", "HOME"]
  let environment ← readEnvironment fixed
  let candidates := invocation.config.toList ++
    (environment.value? Settings.pathVariable).toList ++ [Settings.localPath] ++
    (Settings.userPath? environment).toList
  let nowhere : Files := ⟨["."], fun _ => none⟩
  let files ← candidates.foldlM observe (nowhere.write ["."] (.directory 0) 0)
  match settings files environment invocation.config with
  | .error _ => return (files, environment)
  | .ok settings =>
    let environment ← readEnvironment (fixed ++ namesIn (settings.schema.path.getD ""))
    match schemaPath (schemaOf invocation.command) settings environment with
    | .error _ => return (files, environment)
    | .ok path => return (← observe files path, environment)

def conclude : Outcome → IO UInt32
  | .ended exit => do
    IO.print exit.output
    IO.eprint exit.errors
    return exit.code.toUInt32
  | .serving service => do
    IO.eprintln ("Server error: cannot listen on " ++ service.host ++ ":" ++
      toString service.port.toNat)
    return 1

def start (arguments : List String) : IO UInt32 :=
  match parse arguments with
  | some (.run invocation) => do
    let (files, environment) ← surroundings invocation
    conclude (invocation.run Sql.Grammar.parser files environment)
  | _ => conclude (run Sql.Grammar.parser ⟨[], fun _ => none⟩ (.ofList []) arguments)

end StarReport.Program

def main (arguments : List String) : IO UInt32 := StarReport.Program.start arguments
