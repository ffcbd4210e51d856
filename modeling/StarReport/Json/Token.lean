import StarReport.Decimal.Range
import StarReport.Tree.Basic

/-!
The tokens of a JSON text. Blanks between tokens are the space, the tab, the line feed and the
carriage return. Where no token can be read the token `fault` stands and the rest of the text is
left. Numbers are gathered into double precision, and one beyond its range is an `excess`.
-/

set_option autoImplicit false
set_option relaxedAutoImplicit false

namespace StarReport.Json

open Decimal (isDigit ofDigits Gathered)

inductive Token where
  | openList
  | closeList
  | openRecord
  | closeRecord
  | colon
  | comma
  | null
  | flag (value : Bool)
  | integer (value : Int)
  | decimal (spelling : String)
  | excess
  | text (characters : Characters)
  | fault
deriving DecidableEq

def isBlank (c : Char) : Bool := c = ' ' || c = '\t' || c = '\n' || c = '\r'

def hexDigit? (c : Char) : Option Nat :=
  if '0' ≤ c ∧ c ≤ '9' then some (c.toNat - '0'.toNat)
  else if 'a' ≤ c ∧ c ≤ 'f' then some (c.toNat - 'a'.toNat + 10)
  else if 'A' ≤ c ∧ c ≤ 'F' then some (c.toNat - 'A'.toNat + 10)
  else none

def hexValue? (digits : List Char) : Option Nat :=
  digits.foldlM (fun value c => (hexDigit? c).map (value * 16 + ·)) 0

/-- What a quoted text is made of: characters, and escaped units of sixteen bits. -/
inductive Unit16 where
  | char (c : Char)
  | escaped (unit : Nat)
deriving DecidableEq

def shortEscape? : Char → Option Char
  | '"' => some '"'
  | '\\' => some '\\'
  | '/' => some '/'
  | 'b' => some '\x08'
  | 'f' => some '\x0c'
  | 'n' => some '\n'
  | 'r' => some '\r'
  | 't' => some '\t'
  | _ => none

def prepend (unit : Unit16) (scanned : List Unit16 × List Char) : List Unit16 × List Char :=
  (unit :: scanned.1, scanned.2)

/-- Scan a quoted text after its opening quote; the rest begins after the closing one. Control
characters have to be escaped. -/
def scanText : List Char → Option (List Unit16 × List Char)
  | [] => none
  | '"' :: rest => some ([], rest)
  | '\\' :: 'u' :: a :: b :: c :: d :: rest => do
    let unit ← hexValue? [a, b, c, d]
    (scanText rest).map (prepend (.escaped unit))
  | '\\' :: e :: rest => do
    let c ← shortEscape? e
    (scanText rest).map (prepend (.char c))
  | c :: rest => if c.toNat < 32 then none else (scanText rest).map (prepend (.char c))

def isHighSurrogate (unit : Nat) : Bool := 0xD800 ≤ unit && unit < 0xDC00

def isLowSurrogate (unit : Nat) : Bool := 0xDC00 ≤ unit && unit < 0xE000

/-- The characters of scanned units. A high surrogate and the low one after it make one character;
either of them alone makes none. -/
def characters? : List Unit16 → Option (List Char)
  | [] => some []
  | .char c :: rest => (characters? rest).map (c :: ·)
  | .escaped high :: .escaped low :: rest =>
    if isHighSurrogate high && isLowSurrogate low then
      (characters? rest).map
        (Char.ofNat (0x10000 + (high - 0xD800) * 0x400 + (low - 0xDC00)) :: ·)
    else if isHighSurrogate high || isLowSurrogate high then none
    else (characters? (.escaped low :: rest)).map (Char.ofNat high :: ·)
  | .escaped unit :: rest =>
    if isHighSurrogate unit || isLowSurrogate unit then none
    else (characters? rest).map (Char.ofNat unit :: ·)

/-- The fraction at the head of a text: nothing, or a point and digits. -/
def scanFraction : List Char → Option (List Char × List Char)
  | '.' :: rest =>
    let digits := rest.takeWhile isDigit
    if digits.isEmpty then none else some ('.' :: digits, rest.dropWhile isDigit)
  | rest => some ([], rest)

def scanExponentDigits (head rest : List Char) : Option (List Char × List Char) :=
  let digits := rest.takeWhile isDigit
  if digits.isEmpty then none else some (head ++ digits, rest.dropWhile isDigit)

/-- The exponent at the head of a text: nothing, or the mark, perhaps a sign, and digits. -/
def scanExponent : List Char → Option (List Char × List Char)
  | e :: rest =>
    if e = 'e' ∨ e = 'E' then
      match rest with
      | '+' :: rest => scanExponentDigits [e, '+'] rest
      | '-' :: rest => scanExponentDigits [e, '-'] rest
      | rest => scanExponentDigits [e] rest
    else some ([], e :: rest)
  | [] => some ([], [])

/-- The exponent that its text with the mark in front stands for. -/
def exponentValue : List Char → Int
  | _ :: '-' :: digits => -(ofDigits digits : Int)
  | _ :: '+' :: digits => ofDigits digits
  | _ :: digits => ofDigits digits
  | [] => 0

/-- Scan a number after its sign. The whole part has no leading zeros. -/
def scanNumber (negative : Bool) (cs : List Char) : Option (Token × List Char) := do
  let whole := cs.takeWhile isDigit
  let rest := cs.dropWhile isDigit
  if whole.isEmpty ∨ (whole.head? = some '0' ∧ whole.length ≠ 1) then none
  else do
    let (fraction, rest) ← scanFraction rest
    let (exponent, rest) ← scanExponent rest
    let gathered := Gathered.ofParts whole (fraction.drop 1) (exponentValue exponent)
    if gathered.isBeyond then some (.excess, rest)
    else if fraction.isEmpty ∧ exponent.isEmpty then
      let value : Int := ofDigits whole
      some (.integer (if negative then -value else value), rest)
    else
      let sign := if negative then ['-'] else []
      some (.decimal (String.ofList (sign ++ whole ++ fraction ++ exponent)), rest)

/-- The token that begins with the given character, and the rest of the text. -/
def next (c : Char) (rest : List Char) : Option (Token × List Char) :=
  match c with
  | '[' => some (.openList, rest)
  | ']' => some (.closeList, rest)
  | '{' => some (.openRecord, rest)
  | '}' => some (.closeRecord, rest)
  | ':' => some (.colon, rest)
  | ',' => some (.comma, rest)
  | '"' => (scanText rest).map fun scanned =>
      (.text ((characters? scanned.1).map String.ofList), scanned.2)
  | '-' => scanNumber true rest
  | 'n' => match rest with
    | 'u' :: 'l' :: 'l' :: rest => some (.null, rest)
    | _ => none
  | 't' => match rest with
    | 'r' :: 'u' :: 'e' :: rest => some (.flag true, rest)
    | _ => none
  | 'f' => match rest with
    | 'a' :: 'l' :: 's' :: 'e' :: rest => some (.flag false, rest)
    | _ => none
  | c => scanNumber false (c :: rest)

def tokensWithin : Nat → List Char → List Token
  | 0, _ => []
  | _ + 1, [] => []
  | bound + 1, c :: rest =>
    if isBlank c then tokensWithin bound rest
    else match next c rest with
      | none => [.fault]
      | some (token, rest) => token :: tokensWithin bound rest

/-- The tokens of a text, up to the first fault. -/
def tokens (cs : List Char) : List Token := tokensWithin cs.length cs

end StarReport.Json
