import StarReport.Schema.Load

/-!
A schema that follows its file. The document is loaded when it is first asked for, and again only
when the file's time of change is later than the one seen at the last load. Asking makes two
observations of the file: its time of change first, which decides whether the call loads, and its
content only if it does. A load that fails leaves everything as it was.
-/

set_option autoImplicit false
set_option relaxedAutoImplicit false

namespace StarReport.Schema

open StarReport.Star (StarId)

structure Held where
  number : Nat
  schema : Schema
deriving DecidableEq

/-- What a source keeps: the schema of the last load and the time of change seen before it. -/
structure Cached where
  held : Held
  modified : Int
deriving DecidableEq

structure Source where
  path : String
  cached : Option Cached
  loads : Nat
deriving DecidableEq

/-- The answer to a request for the schema, with the lines it writes to the log. -/
structure Answer where
  result : Except LoadError Held
  log : List String

namespace Source

def of (path : String) : Source := ⟨path, none, 0⟩

def invalidate (source : Source) : Source := { source with cached := none }

/-- What is written to the log before a load that replaces another. -/
def reloadNotice : String := "schema changed on disk, reloading"

/-- The schema to answer with instead of loading, given the time of change of the file. -/
def current? (source : Source) (modified : Int) : Option Held :=
  match source.cached with
  | some cached => if modified ≤ cached.modified then some cached.held else none
  | none => none

/-- What the observed time of change decides: the call is answered with it, or it goes on to load. -/
inductive Course where
  | answered (result : Except LoadError Held)
  | loading (modified : Int) (notice : List String)

def course (source : Source) (observed : Except LoadError Int) : Course :=
  match observed with
  | .error cause => .answered (.error cause)
  | .ok modified =>
    match source.current? modified with
    | some held => .answered (.ok held)
    | none => .loading modified (if source.cached.isSome then [reloadNotice] else [])

/-- End a call that loads, with what the load came to. -/
def finish (source : Source) (modified : Int) (notice : List String)
    (loaded : Except LoadError Schema) : Answer × Source :=
  match loaded with
  | .error cause => (⟨.error cause, notice⟩, source)
  | .ok schema =>
    let held : Held := ⟨source.loads, schema⟩
    (⟨.ok held, notice ++ [loadedNotice]⟩,
      { source with cached := some ⟨held, modified⟩, loads := source.loads + 1 })

/-- Ask for the schema, given the observed time of change and a way to load. -/
def ask (source : Source) (observed : Except LoadError Int)
    (load : StarId → Except LoadError Schema) : Answer × Source :=
  match source.course observed with
  | .answered result => (⟨result, []⟩, source)
  | .loading modified notice => source.finish modified notice (load ⟨source.loads⟩)

def observe (source : Source) (files : Files) : Except LoadError Int :=
  match files.find source.path with
  | .error .missing => .error (.fileNotFound source.path)
  | .error (.blocked failure) => .error (.unreadable failure)
  | .ok entry => .ok entry.modified

/-- Ask for the schema while the files stay as they are. -/
def schema (source : Source) (files : Files) : Answer × Source :=
  source.ask (source.observe files) (load files source.path)

end Source

end StarReport.Schema
