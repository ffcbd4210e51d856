/-!
Numbers in decimal digits, and the range of double precision. Two rules say which numbers are beyond
the range. By the exact one a number is, if it is rounded to more than the range holds. By the other
one the number is gathered first: of its digits as many count as a word of 64 bits takes, and they
are multiplied by a power of ten, with each of the two factors rounded.
-/

set_option autoImplicit false
set_option relaxedAutoImplicit false

namespace StarReport.Decimal

def isDigit (c : Char) : Bool := '0' ≤ c && c ≤ '9'

def digitValue (c : Char) : Nat := c.toNat - '0'.toNat

/-- The value of digits, the highest first. -/
def ofDigits (digits : List Char) : Nat :=
  digits.foldl (fun value c => value * 10 + digitValue c) 0

/-- The least number that is rounded beyond the range. -/
def rangeEnd : Nat := Nat.pow 2 1024 - Nat.pow 2 970

/-- Whether digits times a power of ten are beyond the range. The digits count from the first that
is not zero; the end of the range has 309 of them. -/
def isBeyond (digits : List Char) (scale : Int) : Bool :=
  let digits := digits.dropWhile (· = '0')
  let places : Int := digits.length + scale
  !digits.isEmpty && (309 < places ||
    (places = 309 && rangeEnd ≤ ofDigits ((digits ++ List.replicate 309 '0').take 309)))

/-- The natural number of at most 53 significant bits that is nearest to the given one; of two that
are equally near it is the one with the even significand. -/
def nearest (n : Nat) : Nat :=
  let unit := Nat.pow 2 (n.log2 - 52)
  let below := n / unit
  let twice := 2 * (n % unit)
  if unit < twice ∨ (twice = unit ∧ below % 2 = 1) then (below + 1) * unit else below * unit

structure Gathered where
  significand : Nat
  scale : Int
deriving DecidableEq

namespace Gathered

/-- A significand with one more digit, if a word of 64 bits holds it. -/
def extend? (significand : Nat) (c : Char) : Option Nat :=
  let extended := significand * 10 + digitValue c
  if extended < Nat.pow 2 64 then some extended else none

/-- Go on with the digits of a whole part. From the first that is not taken all of them raise the
scale. -/
def takeWhole (significand : Nat) : List Char → Gathered
  | [] => ⟨significand, 0⟩
  | c :: rest =>
    match extend? significand c with
    | some extended => takeWhole extended rest
    | none => ⟨significand, rest.length + 1⟩

/-- Go on with the digits of a fraction. Each digit taken lowers the scale, and from the first that
is not taken none counts. -/
def takeFraction (gathered : Gathered) : List Char → Gathered
  | [] => gathered
  | c :: rest =>
    match extend? gathered.significand c with
    | some extended => takeFraction ⟨extended, gathered.scale - 1⟩ rest
    | none => gathered

def ofParts (whole fraction : List Char) (exponent : Int) : Gathered :=
  let gathered := takeFraction (takeWhole 0 whole) fraction
  { gathered with scale := gathered.scale + exponent }

/-- Whether a gathered number is beyond the range. -/
def isBeyond (gathered : Gathered) : Bool :=
  gathered.significand ≠ 0 && 0 ≤ gathered.scale && (308 < gathered.scale ||
    rangeEnd ≤ nearest gathered.significand * nearest (Nat.pow 10 gathered.scale.toNat))

end Gathered

end StarReport.Decimal
