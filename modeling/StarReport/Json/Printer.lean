import StarReport.Tree.Basic

/-!
Writing of trees as JSON texts, in a compact form without blanks and in an indented form with one
item or member to a line. In a quoted text the quote, the backslash and the control characters are
escaped, the last by a short escape where there is one.
-/

set_option autoImplicit false
set_option relaxedAutoImplicit false

namespace StarReport.Json

def hexDigit (value : Nat) : Char :=
  if value < 10 then Char.ofNat ('0'.toNat + value) else Char.ofNat ('a'.toNat + (value - 10))

def escape (c : Char) : List Char :=
  if c = '"' then ['\\', '"']
  else if c = '\\' then ['\\', '\\']
  else if c = '\x08' then ['\\', 'b']
  else if c = '\x0c' then ['\\', 'f']
  else if c = '\n' then ['\\', 'n']
  else if c = '\r' then ['\\', 'r']
  else if c = '\t' then ['\\', 't']
  else if c.toNat < 32 then ['\\', 'u', '0', '0', hexDigit (c.toNat / 16), hexDigit (c.toNat % 16)]
  else [c]

/-- A text in quotes. A text without characters is written as an empty one. -/
def quoted (characters : Characters) : List Char :=
  '"' :: ((characters.getD "").toList.flatMap escape ++ ['"'])

/-- What stands between brackets: entries with a separator between them. -/
def separated (separator : List Char) : List (List Char) → List Char
  | [] => []
  | [entry] => entry
  | entry :: rest => entry ++ separator ++ separated separator rest

/-- A leaf of a tree; what a broken text left behind is written as null. -/
def leaf : Tree → List Char
  | .flag true => "true".toList
  | .flag false => "false".toList
  | .integer value => (toString value).toList
  | .decimal spelling => spelling.toList
  | .moment spelling => quoted (some spelling)
  | .text characters => quoted characters
  | _ => "null".toList

mutual

/-- A tree without blanks. -/
def compact : Tree → List Char
  | .list items => '[' :: (separated [','] (compactItems items) ++ [']'])
  | .record members => '{' :: (separated [','] (compactMembers members) ++ ['}'])
  | tree => leaf tree

def compactItems : List Tree → List (List Char)
  | [] => []
  | item :: rest => compact item :: compactItems rest

def compactMembers : List (Characters × Tree) → List (List Char)
  | [] => []
  | (key, value) :: rest => (quoted key ++ ':' :: compact value) :: compactMembers rest

end

def newline (depth : Nat) : List Char := '\n' :: List.replicate (2 * depth) ' '

/-- Entries on lines of their own between brackets, or the bare brackets where there are none. -/
def block (opening closing : Char) (depth : Nat) (entries : List (List Char)) : List Char :=
  if entries.isEmpty then [opening, closing]
  else opening :: (newline (depth + 1) ++ separated (',' :: newline (depth + 1)) entries ++
    newline depth ++ [closing])

mutual

/-- A tree in the indented form; its first line is already at the given depth. -/
def indented (depth : Nat) : Tree → List Char
  | .list items => block '[' ']' depth (indentedItems (depth + 1) items)
  | .record members => block '{' '}' depth (indentedMembers (depth + 1) members)
  | tree => leaf tree

def indentedItems (depth : Nat) : List Tree → List (List Char)
  | [] => []
  | item :: rest => indented depth item :: indentedItems depth rest

def indentedMembers (depth : Nat) : List (Characters × Tree) → List (List Char)
  | [] => []
  | (key, value) :: rest =>
    (quoted key ++ ':' :: ' ' :: indented depth value) :: indentedMembers depth rest

end

def write (tree : Tree) : String := String.ofList (compact tree)

def writeIndented (tree : Tree) : String := String.ofList (indented 0 tree)

end StarReport.Json
