import StarReport.Toml.Scalar
import StarReport.Toml.Table

/-!
Keys and values of TOML. Inside arrays and inline tables line endings and comments may stand
between the parts, and a comma may follow the last one. Arrays and inline tables nest at most
eighty deep, and a key has at most eighty parts.
-/

set_option autoImplicit false
set_option relaxedAutoImplicit false

namespace StarReport.Toml

def isKeyChar (c : Char) : Bool :=
  Decimal.isDigit c || ('a' ≤ c && c ≤ 'z') || ('A' ≤ c && c ≤ 'Z') || c = '_' || c = '-'

def scanKeyPart : Scanner String
  | '"' :: rest => (scanBasic rest).map fun (cs, rest) => (String.ofList cs, rest)
  | '\'' :: rest => (scanLiteral rest).map fun (cs, rest) => (String.ofList cs, rest)
  | cs =>
    let part := cs.takeWhile isKeyChar
    if part.isEmpty then none else some (String.ofList part, cs.dropWhile isKeyChar)

/-- The parts of a key of at most the given number of parts, without the spaces around them. -/
def scanKeyWithin : Nat → Scanner (List String)
  | 0, _ => none
  | bound + 1, cs => do
    let (part, rest) ← scanKeyPart (cs.dropWhile isSpace)
    match rest.dropWhile isSpace with
    | '.' :: rest => (scanKeyWithin bound rest).map fun (parts, rest) => (part :: parts, rest)
    | rest => some ([part], rest)

/-- A key at the head of a text, with the spaces on both sides of it. -/
def scanKey : Scanner (List String) := scanKeyWithin 80

/-- Drop spaces, line endings and comments; `comment` says that a comment is being dropped. -/
def skipBlanks (comment : Bool) : List Char → Option (List Char)
  | [] => some []
  | '\r' :: '\n' :: rest => skipBlanks false rest
  | '\n' :: rest => skipBlanks false rest
  | c :: rest =>
    if comment then (if isPlain c then skipBlanks true rest else none)
    else if isSpace c then skipBlanks false rest
    else if c = '#' then skipBlanks true rest
    else some (c :: rest)

/-- What stands up to a closing bracket, with commas between: at most `bound` parts. -/
def scanParts {α : Type} (closing : Char) (part : Scanner α) : Nat → Scanner (List α)
  | 0, _ => none
  | bound + 1, cs => do
    match ← skipBlanks false cs with
    | [] => none
    | c :: rest =>
      if c = closing then some ([], rest)
      else do
        let (first, rest) ← part (c :: rest)
        match ← skipBlanks false rest with
        | ',' :: rest =>
          (scanParts closing part bound rest).map fun (parts, rest) => (first :: parts, rest)
        | c :: rest => if c = closing then some ([first], rest) else none
        | [] => none

def skipSpaces (cs : List Char) : Option (List Char) := some (cs.dropWhile isSpace)

/-- A key, an equals sign and a value; `gap` drops what may stand on both sides of the sign. -/
def scanPair (gap : List Char → Option (List Char)) (value : Scanner Tree) :
    Scanner (List String × Tree) := fun cs => do
  let (key, rest) ← scanKey cs
  match ← gap rest with
  | '=' :: rest => do
    let (tree, rest) ← value (← gap rest)
    return ((key, tree), rest)
  | _ => none

def inlineTable (pairs : List (List String × Tree)) : Option Tree :=
  (pairs.foldlM (fun entries (key, tree) => assign tree key entries) []).map fun entries =>
    .record (entriesTree entries)

def scanScalar : Scanner Tree
  | '"' :: rest =>
    (scanQuoted ('"' :: rest)).map fun (cs, rest) => (.string (String.ofList cs), rest)
  | '\'' :: rest =>
    (scanQuoted ('\'' :: rest)).map fun (cs, rest) => (.string (String.ofList cs), rest)
  | cs => scanWord cs

/-- The value at the head of a text, with at most `depth` containers inside each other. -/
def scanValueWithin : Nat → Scanner Tree
  | 0, '[' :: _ => none
  | 0, '{' :: _ => none
  | depth + 1, '[' :: rest =>
    (scanParts ']' (scanValueWithin depth) (rest.length + 1) rest).map fun (items, rest) =>
      (.list items, rest)
  | depth + 1, '{' :: rest => do
    let pair := scanPair (skipBlanks false) (scanValueWithin depth)
    let (pairs, rest) ← scanParts '}' pair (rest.length + 1) rest
    let table ← inlineTable pairs
    return (table, rest)
  | _, cs => scanScalar cs

def scanValue : Scanner Tree := scanValueWithin 80

end StarReport.Toml
