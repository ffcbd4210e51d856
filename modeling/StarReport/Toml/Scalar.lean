import StarReport.Toml.Quoted
import StarReport.Tree.Basic

/-!
Unquoted values of TOML: truth values, numbers, dates and times. Such a value is a run of letters,
digits and a few signs, read as a whole. Underscores may stand between digits. Integers are held if
they fit 128 bits, with or without a sign, and other numbers if they are in the range of double
precision.
-/

set_option autoImplicit false
set_option relaxedAutoImplicit false

namespace StarReport.Toml

open Decimal (isDigit ofDigits)

/-- Digits of one kind, with single underscores between them; the underscores are dropped. -/
def digits? (isDigit : Char → Bool) : List Char → Option (List Char)
  | [] => none
  | [c] => if isDigit c then some [c] else none
  | c :: '_' :: rest => if isDigit c then (digits? isDigit rest).map (c :: ·) else none
  | c :: rest => if isDigit c then (digits? isDigit rest).map (c :: ·) else none

def whole? (cs : List Char) : Option (List Char) := do
  let digits ← digits? isDigit cs
  if digits.head? = some '0' ∧ digits.length ≠ 1 then none else some digits

def isHexDigit (c : Char) : Bool := (Json.hexDigit? c).isSome

def isOctalDigit (c : Char) : Bool := '0' ≤ c && c ≤ '7'

def isBinaryDigit (c : Char) : Bool := c = '0' || c = '1'

def baseValue (base : Nat) (digits : List Char) : Nat :=
  digits.foldl (fun value c => value * base + (Json.hexDigit? c).getD 0) 0

/-- The sign at the head of a number, and the rest; only a minus makes it negative. -/
def splitSign : List Char → Bool × List Char
  | '-' :: rest => (true, rest)
  | '+' :: rest => (false, rest)
  | rest => (false, rest)

/-- An integer in tens with a sign, or in sixteens, eights or twos without one. -/
def integer? : List Char → Option Int
  | '0' :: 'x' :: cs => (digits? isHexDigit cs).map fun digits => (baseValue 16 digits : Int)
  | '0' :: 'o' :: cs => (digits? isOctalDigit cs).map fun digits => (baseValue 8 digits : Int)
  | '0' :: 'b' :: cs => (digits? isBinaryDigit cs).map fun digits => (baseValue 2 digits : Int)
  | cs => (whole? (splitSign cs).2).map fun digits =>
    if (splitSign cs).1 then -(ofDigits digits : Int) else (ofDigits digits : Int)

def isExponentMark (c : Char) : Bool := c = 'e' || c = 'E'

def exponent? (cs : List Char) : Option Int :=
  (digits? isDigit (splitSign cs).2).map fun digits =>
    if (splitSign cs).1 then -(ofDigits digits : Int) else (ofDigits digits : Int)

/-- A number with a fraction, an exponent or both, or one of those that are not finite. -/
def decimal? (cs : List Char) : Option Tree :=
  let body := (splitSign cs).2
  let held : Tree := .decimal (String.ofList cs)
  if body = "inf".toList ∨ body = "nan".toList then some held
  else
    let mantissa := body.takeWhile (fun c => !isExponentMark c)
    let power := body.dropWhile (fun c => !isExponentMark c)
    let point := mantissa.dropWhile (· ≠ '.')
    if point.isEmpty ∧ power.isEmpty then none
    else do
      let whole ← whole? (mantissa.takeWhile (· ≠ '.'))
      let fraction ← if point.isEmpty then some [] else digits? isDigit (point.drop 1)
      let exponent ← if power.isEmpty then some 0 else exponent? (power.drop 1)
      return if Decimal.isBeyond (whole ++ fraction) (exponent - fraction.length) then .excess
        else held

/-- Whether 128 bits hold an integer. -/
def isHeld (value : Int) : Bool := -Int.pow 2 127 ≤ value && value < Int.pow 2 128

/-- The days of a month in the calendar that is used now, reckoned back without a break. -/
def daysInMonth (year month : Nat) : Nat :=
  if month = 2 then
    if year % 4 = 0 ∧ (year % 100 ≠ 0 ∨ year % 400 = 0) then 29 else 28
  else if month = 4 ∨ month = 6 ∨ month = 9 ∨ month = 11 then 30
  else 31

def twoDigits? (a b : Char) : Option Nat :=
  if isDigit a && isDigit b then some (ofDigits [a, b]) else none

/-- A date at the head of a text; the rest is what follows it. -/
def afterDate? : List Char → Option (List Char)
  | a :: b :: c :: d :: '-' :: e :: f :: '-' :: g :: h :: rest => do
    let century ← twoDigits? a b
    let years ← twoDigits? c d
    let month ← twoDigits? e f
    let day ← twoDigits? g h
    if 1 ≤ month ∧ month ≤ 12 ∧ 1 ≤ day ∧ day ≤ daysInMonth (century * 100 + years) month
    then some rest else none
  | _ => none

/-- Hours and minutes at the head of a text; the rest is what follows them. -/
def afterMinutes? : List Char → Option (List Char)
  | a :: b :: ':' :: c :: d :: rest => do
    let hour ← twoDigits? a b
    let minute ← twoDigits? c d
    if hour < 24 ∧ minute < 60 then some rest else none
  | _ => none

/-- A time of day at the head of a text. The seconds may be left out, and have a fraction only
where they are written; a minute may have a leap second. -/
def afterTime? (cs : List Char) : Option (List Char) := do
  let rest ← afterMinutes? cs
  match rest with
  | ':' :: a :: b :: rest =>
    let second ← twoDigits? a b
    if 60 < second then none
    else match rest with
      | '.' :: rest =>
        if (rest.takeWhile isDigit).isEmpty then none else some (rest.dropWhile isDigit)
      | rest => some rest
  | rest => some rest

/-- Whether a text is the distance of a local time from universal time. -/
def isOffset : List Char → Bool
  | ['Z'] => true
  | ['z'] => true
  | '+' :: rest => afterMinutes? rest = some []
  | '-' :: rest => afterMinutes? rest = some []
  | _ => false

/-- Whether a text is a date, a time of day, or a date and a time with or without an offset. -/
def isMoment (cs : List Char) : Bool :=
  match afterDate? cs with
  | some [] => true
  | some (separator :: rest) =>
    (separator = 'T' || separator = 't' || separator = ' ') &&
      match afterTime? rest with
      | some [] => true
      | some offset => isOffset offset
      | none => false
  | none => afterTime? cs = some []

def isWordChar (c : Char) : Bool :=
  isDigit c || ('a' ≤ c && c ≤ 'z') || ('A' ≤ c && c ≤ 'Z') ||
    c = '+' || c = '-' || c = '_' || c = '.' || c = ':'

def word? (cs : List Char) : Option Tree :=
  if cs = "true".toList then some (.flag true)
  else if cs = "false".toList then some (.flag false)
  else match integer? cs with
    | some value => some (if isHeld value then .integer value else .excess)
    | none => (decimal? cs).or
        (if isMoment cs then some (.moment (String.ofList cs)) else none)

/-- The unquoted value at the head of a text. One space may stand between a date and a time. -/
def scanWord : Scanner Tree := fun cs =>
  let word := cs.takeWhile isWordChar
  match afterDate? word, cs.dropWhile isWordChar with
  | some [], ' ' :: c :: rest =>
    if isDigit c then
      (word? (word ++ ' ' :: (c :: rest).takeWhile isWordChar)).map
        (·, (c :: rest).dropWhile isWordChar)
    else (word? word).map (·, ' ' :: c :: rest)
  | _, rest => (word? word).map (·, rest)

end StarReport.Toml
