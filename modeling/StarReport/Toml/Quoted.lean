import StarReport.Json.Token

/-!
Quoted texts of TOML: basic ones with escapes and literal ones without, each on one line or over
several. A scanner starts after the opening quotes and gives the characters and the rest of the
text after the closing ones. Control characters other than the tab are not allowed, and a carriage
return only as part of a line ending, which is kept as it is written.
-/

set_option autoImplicit false
set_option relaxedAutoImplicit false

namespace StarReport.Toml

open Json (hexValue?)

/-- A scanner of something at the head of a text. -/
abbrev Scanner (α : Type) := List Char → Option (α × List Char)

def isSpace (c : Char) : Bool := c = ' ' || c = '\t'

/-- Whether a character may stand for itself in comments and quoted texts. -/
def isPlain (c : Char) : Bool := c = '\t' || (32 ≤ c.toNat && c.toNat ≠ 127)

/-- The character with the given number, unless that is a surrogate or out of range. -/
def scalar? (value : Nat) : Option Char :=
  if value < 0xD800 ∨ (0xE000 ≤ value ∧ value < 0x110000) then some (Char.ofNat value) else none

def numbered? (digits : List Char) : Option Char := (hexValue? digits).bind scalar?

def shortEscape? : Char → Option Char
  | '"' => some '"'
  | '\\' => some '\\'
  | 'b' => some '\x08'
  | 'e' => some '\x1b'
  | 'f' => some '\x0c'
  | 'n' => some '\n'
  | 'r' => some '\r'
  | 't' => some '\t'
  | _ => none

def prepend (cs : List Char) (scanned : List Char × List Char) : List Char × List Char :=
  (cs ++ scanned.1, scanned.2)

def scanBasic : Scanner (List Char)
  | [] => none
  | '"' :: rest => some ([], rest)
  | '\\' :: 'x' :: a :: b :: rest => do
    let c ← numbered? [a, b]
    (scanBasic rest).map (prepend [c])
  | '\\' :: 'u' :: a :: b :: c :: d :: rest => do
    let c ← numbered? [a, b, c, d]
    (scanBasic rest).map (prepend [c])
  | '\\' :: 'U' :: a :: b :: c :: d :: e :: f :: g :: h :: rest => do
    let c ← numbered? [a, b, c, d, e, f, g, h]
    (scanBasic rest).map (prepend [c])
  | '\\' :: e :: rest => do
    let c ← shortEscape? e
    (scanBasic rest).map (prepend [c])
  | c :: rest => if isPlain c then (scanBasic rest).map (prepend [c]) else none

def scanLiteral : Scanner (List Char)
  | [] => none
  | '\'' :: rest => some ([], rest)
  | c :: rest => if isPlain c then (scanLiteral rest).map (prepend [c]) else none

/-- Whether a line ends at the head of a text, spaces and tabs aside. -/
def endsLine (cs : List Char) : Bool :=
  match cs.dropWhile isSpace with
  | '\n' :: _ => true
  | '\r' :: '\n' :: _ => true
  | _ => false

/-- A basic text over several lines. Up to two quotes may stand before the closing three. A
backslash at the end of a line drops the line ending and all blanks after it: `folding` says that
blanks are being dropped. -/
def scanBasicLines (folding : Bool) : Scanner (List Char)
  | [] => none
  | '"' :: '"' :: '"' :: '"' :: '"' :: rest => some (['"', '"'], rest)
  | '"' :: '"' :: '"' :: '"' :: rest => some (['"'], rest)
  | '"' :: '"' :: '"' :: rest => some ([], rest)
  | '\\' :: 'x' :: a :: b :: rest => do
    let c ← numbered? [a, b]
    (scanBasicLines false rest).map (prepend [c])
  | '\\' :: 'u' :: a :: b :: c :: d :: rest => do
    let c ← numbered? [a, b, c, d]
    (scanBasicLines false rest).map (prepend [c])
  | '\\' :: 'U' :: a :: b :: c :: d :: e :: f :: g :: h :: rest => do
    let c ← numbered? [a, b, c, d, e, f, g, h]
    (scanBasicLines false rest).map (prepend [c])
  | '\r' :: '\n' :: rest =>
    (scanBasicLines folding rest).map (prepend (if folding then [] else ['\r', '\n']))
  | '\n' :: rest => (scanBasicLines folding rest).map (prepend (if folding then [] else ['\n']))
  | '\\' :: rest =>
    if endsLine rest then scanBasicLines true rest
    else match rest with
      | [] => none
      | e :: rest => do
        let c ← shortEscape? e
        (scanBasicLines false rest).map (prepend [c])
  | c :: rest =>
    if folding && isSpace c then scanBasicLines true rest
    else if isPlain c then (scanBasicLines false rest).map (prepend [c])
    else none

/-- A literal text over several lines. Up to two quotes may stand before the closing three. -/
def scanLiteralLines : Scanner (List Char)
  | [] => none
  | '\'' :: '\'' :: '\'' :: '\'' :: '\'' :: rest => some (['\'', '\''], rest)
  | '\'' :: '\'' :: '\'' :: '\'' :: rest => some (['\''], rest)
  | '\'' :: '\'' :: '\'' :: rest => some ([], rest)
  | '\r' :: '\n' :: rest => (scanLiteralLines rest).map (prepend ['\r', '\n'])
  | '\n' :: rest => (scanLiteralLines rest).map (prepend ['\n'])
  | c :: rest => if isPlain c then (scanLiteralLines rest).map (prepend [c]) else none

def dropLineEnding : List Char → List Char
  | '\r' :: '\n' :: rest => rest
  | '\n' :: rest => rest
  | rest => rest

/-- A quoted text of any of the four forms. -/
def scanQuoted : Scanner (List Char)
  | '"' :: '"' :: '"' :: rest => scanBasicLines false (dropLineEnding rest)
  | '"' :: rest => scanBasic rest
  | '\'' :: '\'' :: '\'' :: rest => scanLiteralLines (dropLineEnding rest)
  | '\'' :: rest => scanLiteral rest
  | _ => none

end StarReport.Toml
