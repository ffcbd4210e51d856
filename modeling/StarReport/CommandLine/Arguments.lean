import StarReport.Decimal.Range

/-!
Arguments of the command line. An option with a value takes it from the same word, after an equals
sign or right after a short name, or from the next word, which must not begin with a dash unless it
is nothing else. Options may stand before and after positions; two dashes end them. An option that
takes one value, and one that takes none, may be given once. A path must not be empty.
-/

set_option autoImplicit false
set_option relaxedAutoImplicit false

namespace StarReport.CommandLine

/-- What a run is asked to do. -/
inductive Command where
  | compile (schema : Option String) (dimensions measures : List String)
      (caseSensitive logQuery check : Bool)
  | describe (schema : Option String)
  | serve (schema host : Option String) (port : Option UInt16)
deriving DecidableEq

/-- A run: a file of settings, if one is asked for, and a command. -/
structure Invocation where
  config : Option String
  command : Command
deriving DecidableEq

/-- What arguments ask for; `none` in their place says that they are misused. -/
inductive Request where
  | run (invocation : Invocation)
  | version
  | help
deriving DecidableEq

inductive OptionName where
  | config
  | dimension
  | measure
  | caseSensitive
  | logQuery
  | check
  | schema
  | host
  | port
  | help
  | version
deriving DecidableEq

/-- Where arguments stand: before the command or behind one. -/
inductive Scope where
  | top
  | compile
  | describe
  | serve
deriving DecidableEq

def longName? (scope : Scope) (name : String) : Option OptionName :=
  match scope, name with
  | _, "config" => some .config
  | _, "help" => some .help
  | .top, "version" => some .version
  | .compile, "dimension" => some .dimension
  | .compile, "measure" => some .measure
  | .compile, "case-sensitive" => some .caseSensitive
  | .compile, "log-query" => some .logQuery
  | .compile, "check" => some .check
  | .serve, "schema" => some .schema
  | .serve, "host" => some .host
  | .serve, "port" => some .port
  | _, _ => none

def shortName? (scope : Scope) (name : Char) : Option OptionName :=
  match scope, name with
  | _, 'h' => some .help
  | .top, 'V' => some .version
  | .compile, 'd' => some .dimension
  | .compile, 'm' => some .measure
  | .serve, 'p' => some .port
  | _, _ => none

def OptionName.takesValue : OptionName → Bool
  | .config | .dimension | .measure | .schema | .host | .port => true
  | _ => false

/-- What the arguments of one scope have given so far. -/
structure Given where
  config : Option String
  dimensions : List String
  measures : List String
  caseSensitive : Bool
  logQuery : Bool
  check : Bool
  schema : Option String
  host : Option String
  port : Option UInt16
deriving DecidableEq

def Given.nothing : Given := ⟨none, [], [], false, false, false, none, none, none⟩

/-- A port number: digits, perhaps with a sign, of a value that fits. -/
def port? (text : String) : Option UInt16 :=
  let value? (digits : List Char) : Option Nat :=
    if digits.isEmpty || digits.any (fun c => !Decimal.isDigit c) then none
    else some (Decimal.ofDigits digits)
  let fit (value : Nat) : Option UInt16 :=
    if value < 65536 then some (UInt16.ofNat value) else none
  match text.toList with
  | '+' :: digits => (value? digits).bind fit
  | '-' :: digits => (value? digits).bind fun value => if value = 0 then some 0 else none
  | digits => (value? digits).bind fit

def path? (text : String) : Option String := if text.isEmpty then none else some text

namespace Given

def set (given : Given) (option : OptionName) (value : String) : Option Given :=
  match option with
  | .config =>
    if given.config.isSome then none
    else (path? value).map fun path => { given with config := some path }
  | .dimension => some { given with dimensions := given.dimensions ++ [value] }
  | .measure => some { given with measures := given.measures ++ [value] }
  | .schema =>
    if given.schema.isSome then none
    else (path? value).map fun path => { given with schema := some path }
  | .host => if given.host.isSome then none else some { given with host := some value }
  | .port =>
    if given.port.isSome then none
    else (port? value).map fun port => { given with port := some port }
  | _ => none

def turnOn (given : Given) (option : OptionName) : Option Given :=
  match option with
  | .caseSensitive =>
    if given.caseSensitive then none else some { given with caseSensitive := true }
  | .logQuery => if given.logQuery then none else some { given with logQuery := true }
  | .check => if given.check then none else some { given with check := true }
  | _ => none

/-- Take in a position; only a schema may stand in one. -/
def position (given : Given) (scope : Scope) (value : String) : Option Given :=
  match scope with
  | .compile | .describe =>
    if given.schema.isSome then none
    else (path? value).map fun path => { given with schema := some path }
  | _ => none

def command? (given : Given) : Scope → Option Command
  | .top => none
  | .compile => some (.compile given.schema given.dimensions given.measures given.caseSensitive
      given.logQuery given.check)
  | .describe => some (.describe given.schema)
  | .serve => some (.serve given.schema given.host given.port)

end Given

/-- A word of the command line by its form. -/
inductive Word where
  | stop
  | long (name : String) (value : Option String)
  | short (name : Char) (rest : List Char)
  | plain (text : String)
deriving DecidableEq

/-- The form of a word. A dash alone is plain. -/
def Word.of (text : String) : Word :=
  match text.toList with
  | ['-', '-'] => .stop
  | '-' :: '-' :: cs =>
    match cs.dropWhile (· ≠ '=') with
    | [] => .long (String.ofList cs) none
    | _ :: value => .long (String.ofList (cs.takeWhile (· ≠ '='))) (some (String.ofList value))
  | '-' :: c :: rest => .short c rest
  | _ => .plain text

def isValue (text : String) : Bool :=
  match Word.of text with
  | .plain _ => true
  | _ => false

/-- The value inside a word after a short name; an equals sign may stand before it. -/
def attached? : List Char → Option String
  | [] => none
  | '=' :: rest => some (String.ofList rest)
  | rest => some (String.ofList rest)

def scope? : String → Option Scope
  | "compile" => some .compile
  | "describe" => some .describe
  | "serve" => some .serve
  | _ => none

/-- Where reading stands: the scope, what was given before the command and behind it, and whether
options have ended. -/
structure Reading where
  scope : Scope
  before : Given
  given : Given
  ended : Bool

/-- The request of a reading that came to its end. A file of settings that is asked for behind the
command counts more. -/
def Reading.finish (reading : Reading) : Option Request :=
  (reading.given.command? reading.scope).map fun command =>
    .run ⟨reading.given.config.or reading.before.config, command⟩

def Reading.plain (reading : Reading) (text : String) : Option Reading :=
  match reading.scope with
  | .top =>
    if reading.ended then none
    else (scope? text).map fun scope => ⟨scope, reading.given, .nothing, false⟩
  | scope => (reading.given.position scope text).map ({ reading with given := · })

def Reading.go (reading : Reading) : List String → Option Request
  | [] => reading.finish
  | text :: rest =>
    if reading.ended then (reading.plain text).bind (·.go rest)
    else match Word.of text with
      | .stop => go { reading with ended := true } rest
      | .plain text => (reading.plain text).bind (·.go rest)
      | .long name value? =>
        match longName? reading.scope name with
        | none => none
        | some .help => if value?.isSome then none else some .help
        | some .version => if value?.isSome then none else some .version
        | some option =>
          if option.takesValue then
            match value?, rest with
            | some value, rest =>
              (reading.given.set option value).bind fun given => go { reading with given } rest
            | none, value :: rest =>
              if isValue value then
                (reading.given.set option value).bind fun given => go { reading with given } rest
              else none
            | none, [] => none
          else if value?.isSome then none
          else (reading.given.turnOn option).bind fun given => go { reading with given } rest
      | .short name tail =>
        match shortName? reading.scope name with
        | none => none
        | some .help => some .help
        | some .version => some .version
        | some option =>
          match attached? tail, rest with
          | some value, rest =>
            (reading.given.set option value).bind fun given => go { reading with given } rest
          | none, value :: rest =>
            if isValue value then
              (reading.given.set option value).bind fun given => go { reading with given } rest
            else none
          | none, [] => none

/-- What arguments ask for, or `none` where they are misused. -/
def parse (arguments : List String) : Option Request :=
  Reading.go ⟨.top, .nothing, .nothing, false⟩ arguments

end StarReport.CommandLine
