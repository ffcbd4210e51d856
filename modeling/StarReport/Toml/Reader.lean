import StarReport.Toml.Value
import StarReport.Tree.Decode

/-!
Reading of TOML texts. A text is a sequence of lines, each empty, a header or an assignment, with a
comment at its end if any. The whole text must be right for it to have a tree.
-/

set_option autoImplicit false
set_option relaxedAutoImplicit false

namespace StarReport.Toml

open StarReport.Tree (Fault Decoder)

inductive Line where
  | table (path : List String)
  | element (path : List String)
  | assignment (key : List String) (value : Tree)

def scanLine : Scanner Line
  | '[' :: '[' :: rest => do
    let (path, rest) ← scanKey rest
    match rest with
    | ']' :: ']' :: rest => some (.element path, rest)
    | _ => none
  | '[' :: rest => do
    let (path, rest) ← scanKey rest
    match rest with
    | ']' :: rest => some (.table path, rest)
    | _ => none
  | cs => do
    let ((key, value), rest) ← scanPair skipSpaces scanValue cs
    return (.assignment key value, rest)

/-- Go to the next line: spaces and a comment may stand before the line ending. -/
def finishLine (comment : Bool) : List Char → Option (List Char)
  | [] => some []
  | '\r' :: '\n' :: rest => some rest
  | '\n' :: rest => some rest
  | c :: rest =>
    if comment then (if isPlain c then finishLine true rest else none)
    else if isSpace c then finishLine false rest
    else if c = '#' then finishLine true rest
    else none

/-- The lines of a text, at most `bound` of them. -/
def linesWithin : Nat → List Char → Option (List Line)
  | 0, _ => none
  | bound + 1, cs => do
    match ← skipBlanks false cs with
    | [] => some []
    | cs => do
      let (line, rest) ← scanLine cs
      let rest ← finishLine false rest
      (linesWithin bound rest).map (line :: ·)

/-- A document while its lines are taken in: the path of the latest header and all entries. -/
structure Assembly where
  current : List String
  entries : Entries

def Assembly.add (assembly : Assembly) : Line → Option Assembly
  | .table path => (descend defineTable path assembly.entries).map (⟨path, ·⟩)
  | .element path => (descend appendElement path assembly.entries).map (⟨path, ·⟩)
  | .assignment key value =>
    (within (assign value key) assembly.current assembly.entries).map (⟨assembly.current, ·⟩)

/-- Drop the mark that may stand before a text to show its encoding. -/
def dropMark : List Char → List Char
  | '\uFEFF' :: rest => rest
  | cs => cs

def tree? (text : String) : Option Tree := do
  let cs := dropMark text.toList
  let lines ← linesWithin (cs.length + 1) cs
  let assembly ← lines.foldlM Assembly.add ⟨[], []⟩
  return .record (entriesTree assembly.entries)

/-- Every number that is met has to be held, and a list of fields may go on after the last. -/
def dialect : Tree.Dialect := ⟨false, true⟩

def decode {α : Type} (decoder : Decoder α) (text : String) : Except Fault α :=
  match tree? text with
  | none => .error .malformed
  | some tree => decoder dialect tree

end StarReport.Toml
