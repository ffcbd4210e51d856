import StarReport.Decimal.Range

/-!
Media types in the headers of requests: a type, a subtype that may end in a suffix after a plus
sign, and parameters after semicolons. The value of a parameter may be quoted, and the first
character of a quoted value may itself be a quote.
-/

set_option autoImplicit false
set_option relaxedAutoImplicit false

namespace StarReport.Http

/-- Whether a character may stand in the words of a media type. -/
def isTokenChar (c : Char) : Bool :=
  Decimal.isDigit c || ('a' ≤ c && c ≤ 'z') || ('A' ≤ c && c ≤ 'Z') ||
    c ∈ "!#$%&'*+-.^_|~".toList || c.toNat = 96

/-- Whether a character may stand in a quoted value. -/
def isQuotedChar (c : Char) : Bool := 32 ≤ c.toNat && c.toNat < 127

/-- How far reading has come in a list of parameters. -/
inductive ParameterPlace where
  | beforeName
  | inName
  | beforeValue
  | inValue
  | beforeQuoted
  | inQuoted
  | afterQuoted
deriving DecidableEq

namespace ParameterPlace

def step : ParameterPlace → Char → Option ParameterPlace
  | .beforeName, ' ' => some .beforeName
  | .beforeName, c => if isTokenChar c then some .inName else none
  | .inName, '=' => some .beforeValue
  | .inName, c => if isTokenChar c then some .inName else none
  | .beforeValue, '"' => some .beforeQuoted
  | .beforeValue, c => if isTokenChar c then some .inValue else none
  | .inValue, ';' => some .beforeName
  | .inValue, c => if isTokenChar c then some .inValue else none
  | .beforeQuoted, c => if isQuotedChar c then some .inQuoted else none
  | .inQuoted, '"' => some .afterQuoted
  | .inQuoted, c => if isQuotedChar c then some .inQuoted else none
  | .afterQuoted, ';' => some .beforeName
  | .afterQuoted, ' ' => some .afterQuoted
  | .afterQuoted, _ => none

/-- Whether a list of parameters may end at a place. Only the last value may be empty. -/
def isEnd : ParameterPlace → Bool
  | .beforeName => true
  | .beforeValue => true
  | .inValue => true
  | .afterQuoted => true
  | _ => false

end ParameterPlace

/-- Whether a text is a list of parameters, after the semicolon in front of it. -/
def areParameters (cs : List Char) : Bool :=
  ((cs.foldlM ParameterPlace.step .beforeName).map ParameterPlace.isEnd).getD false

def splitSuffix (subtype : List Char) : List Char × List Char :=
  let suffix := (subtype.reverse.takeWhile (· ≠ '+')).reverse
  if suffix.length + 1 < subtype.length then
    (subtype.take (subtype.length - suffix.length - 1), suffix)
  else (subtype, [])

def isJson (header : String) : Bool :=
  let cs := header.toList
  let kind := cs.takeWhile isTokenChar
  match cs.dropWhile isTokenChar with
  | '/' :: rest =>
    let subtype := rest.takeWhile isTokenChar
    let (plain, suffix) := splitSuffix (subtype.map Char.toLower)
    let wellFormed := match rest.dropWhile isTokenChar with
      | [] => true
      | ';' :: parameters => areParameters parameters
      | _ => false
    wellFormed && kind.map Char.toLower = "application".toList &&
      (plain = "json".toList || suffix = "json".toList)
  | _ => false

end StarReport.Http
