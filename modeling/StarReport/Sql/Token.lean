import StarReport.Decimal.Range
import StarReport.Sql.Keyword
import StarReport.Text.Letters

/-!
The tokens of an SQL text. Between tokens stand blanks, comments to the end of a line, and comments
between marks, which nest. A token keeps what the grammar asks for: the keyword that a word spells,
how strongly an operator binds, and of all other words, names and values only their kind.
-/

set_option autoImplicit false
set_option relaxedAutoImplicit false

namespace StarReport.Sql

open Decimal (isDigit)

/-! How strongly operators bind; the stronger ones take their operands first. -/

namespace Strength

abbrev access : Nat := 50
abbrev zone : Nat := 41
abbrev product : Nat := 40
abbrev sum : Nat := 30
abbrev exclusion : Nat := 24
abbrev conjunctionOfBits : Nat := 23
abbrev shift : Nat := 22
abbrev disjunctionOfBits : Nat := 21
abbrev comparison : Nat := 20
abbrev pattern : Nat := 19
abbrev property : Nat := 17
abbrev arrow : Nat := 16
abbrev negation : Nat := 15
abbrev conjunction : Nat := 10
abbrev disjunction : Nat := 5

end Strength

/-- A token. A `name` is a word that spells no keyword or stands in quotes of names; a number is
`whole` if it is made of digits alone; a `literal` is a value that is no plain text and no number;
`stray` has no place in a statement. -/
inductive Token where
  | keyword (spelling : String)
  | name
  | quotedText
  | number (whole : Bool)
  | literal
  | dot
  | comma
  | semicolon
  | openParenthesis
  | closeParenthesis
  | openBracket
  | closeBracket
  | star
  | sign
  | colon
  | atSign
  | arrow
  | assignment
  | cast
  | comparison
  | operator (strength : Nat)
  | stray
deriving DecidableEq

namespace Token

def isWord : Token → Bool
  | .keyword _ => true
  | .name => true
  | _ => false

/-- Whether a token can be a part of a name: a word, or something in quotes of names or texts. -/
def isNamePart (token : Token) : Bool := token.isWord || token = .quotedText

def isBlank (c : Char) : Bool :=
  let n := c.toNat
  (9 ≤ n && n ≤ 13) || (0x2000 ≤ n && n ≤ 0x200A) ||
    n ∈ [0x20, 0x85, 0xA0, 0x1680, 0x2028, 0x2029, 0x202F, 0x205F, 0x3000]

def startsWord (c : Char) : Bool := c = '_' || Text.Letters.isAlphabetic c

def continuesWord (c : Char) : Bool :=
  startsWord c || isDigit c || c = '@' || c = '$' || c = '#'

def isNameQuote (c : Char) : Bool := c = '"' || c = '\x60'

def ofWord (word : List Char) : Token :=
  match Keyword.ofWord? word with
  | some spelling => .keyword spelling
  | none => .name

/-- The rest of a text after the closing quote. A doubled quote is one inside. -/
def afterQuote (quote : Char) : List Char → Option (List Char)
  | [] => none
  | [c] => if c = quote then some [] else none
  | c :: d :: rest =>
    if c = quote then (if d = quote then afterQuote quote rest else some (d :: rest))
    else afterQuote quote (d :: rest)

/-- The rest of a text after the closing quote, where a backslash takes the meaning from the
character after it. -/
def afterEscapedQuote : List Char → Option (List Char)
  | [] => none
  | '\\' :: _ :: rest => afterEscapedQuote rest
  | '\'' :: '\'' :: rest => afterEscapedQuote rest
  | '\'' :: rest => some rest
  | _ :: rest => afterEscapedQuote rest

/-- The rest of a text after the end of a comment between marks. `depth` counts the comments around
the place, and `last` is the character before it. -/
def afterComment (depth : Nat) (last : Char) : List Char → Option (List Char)
  | [] => none
  | c :: rest =>
    if last = '/' ∧ c = '*' then afterComment (depth + 1) c rest
    else if last = '*' ∧ c = '/' then
      match depth with
      | 0 => some rest
      | depth + 1 => afterComment depth c rest
    else afterComment depth c rest

/-- The rest of a text after the first place where a mark stands. -/
def afterMark (mark : List Char) : List Char → Option (List Char)
  | [] => none
  | c :: rest =>
    if mark.isPrefixOf (c :: rest) then some ((c :: rest).drop mark.length)
    else afterMark mark rest

/-- Scan what a letter in front of a quote announces: a value of another kind than plain text. -/
def scanAnnounced (c : Char) (rest : List Char) : Option (Option (List Char)) :=
  match c.toLower, rest with
  | 'b', '\'' :: rest => some (afterQuote '\'' rest)
  | 'b', '"' :: rest => some (afterQuote '"' rest)
  | 'r', '\'' :: rest => some (afterQuote '\'' rest)
  | 'r', '"' :: rest => some (afterQuote '"' rest)
  | 'n', '\'' :: rest => some (afterQuote '\'' rest)
  | 'u', '&' :: '\'' :: rest => some (afterQuote '\'' rest)
  | 'e', '\'' :: rest => some (afterEscapedQuote rest)
  | 'x', '\'' :: rest => some (afterEscapedQuote rest)
  | _, _ => none

/-- Scan what comes after a dollar sign: the name of a placeholder, or a text between two marks,
each a word between dollar signs. -/
def scanDollar (cs : List Char) : Option (List Char) :=
  let isTagChar := fun c => c = '_' || Text.Letters.isAlphanumeric c
  match cs.dropWhile isTagChar with
  | '$' :: rest => afterMark ('$' :: (cs.takeWhile isTagChar ++ ['$'])) rest
  | rest => some rest

def dropNumberSign : List Char → List Char
  | '+' :: rest => rest
  | '-' :: rest => rest
  | rest => rest

/-- Drop the exponent at the head of a text, if it has digits. -/
def dropExponent : List Char → List Char
  | [] => []
  | c :: rest =>
    let digits := dropNumberSign rest
    if (c = 'e' ∨ c = 'E') ∧ (digits.head?.map isDigit).getD false then digits.dropWhile isDigit
    else c :: rest

/-- Drop the letter that marks a long number. -/
def dropLongMark : List Char → List Char
  | 'L' :: rest => rest
  | rest => rest

/-- Scan a number, or a point that begins none. A number of base sixteen is a value of its own
kind. -/
def scanNumber (cs : List Char) : Token × List Char :=
  let whole := cs.takeWhile isDigit
  match whole, cs.dropWhile isDigit with
  | ['0'], 'x' :: rest => (.literal, rest.dropWhile fun c => isDigit c ||
      ('a' ≤ c && c ≤ 'f') || ('A' ≤ c && c ≤ 'F'))
  | _, '.' :: rest =>
    let fraction := rest.takeWhile isDigit
    if whole.isEmpty && fraction.isEmpty then (.dot, rest)
    else (.number false, dropLongMark (dropExponent (rest.dropWhile isDigit)))
  | _, rest =>
    let tail := dropExponent rest
    (.number (tail.length = rest.length), dropLongMark tail)

/-- The signs that are tokens, each before those that it begins with. -/
def signs : List (String × Token) :=
  [(",", .comma), (";", .semicolon), ("(", .openParenthesis), (")", .closeParenthesis),
    ("[", .openBracket), ("]", .closeBracket), ("*", .star), ("+", .sign),
    ("->>", .operator Strength.arrow), ("->", .operator Strength.arrow), ("-", .sign),
    ("//", .operator Strength.product), ("/", .operator Strength.product),
    ("%", .operator Strength.product),
    ("||/", .stray), ("||", .operator Strength.product), ("|/", .stray),
    ("|", .operator Strength.disjunctionOfBits),
    ("==", .comparison), ("=>", .arrow), ("=", .comparison),
    ("!~~*", .operator Strength.comparison), ("!~~", .operator Strength.comparison),
    ("!~*", .operator Strength.comparison), ("!~", .operator Strength.comparison),
    ("!=", .comparison),
    ("<=>", .operator Strength.comparison), ("<=", .comparison), ("<>", .comparison),
    ("<<", .operator Strength.shift), ("<@", .operator Strength.arrow), ("<", .comparison),
    (">=", .comparison), (">>", .operator Strength.shift), (">", .comparison),
    ("::", .cast), (":=", .assignment), (":", .colon),
    ("&&", .operator Strength.access), ("&", .operator Strength.conjunctionOfBits),
    ("^@", .operator Strength.access), ("^", .operator Strength.shift),
    ("~~*", .operator Strength.comparison), ("~~", .operator Strength.comparison),
    ("~*", .operator Strength.comparison), ("~", .operator Strength.comparison),
    ("#>>", .operator Strength.arrow), ("#>", .operator Strength.arrow),
    ("#-", .operator Strength.arrow),
    ("@>", .operator Strength.arrow), ("@?", .operator Strength.arrow)]

/-- Scan a sign. A character that is none is a token all the same. -/
def scanSign (cs : List Char) : Token × List Char :=
  match signs.find? fun sign => sign.1.toList.isPrefixOf cs with
  | some (spelling, token) => (token, cs.drop spelling.length)
  | none => (.stray, cs.drop 1)

/-- Scan what begins with a number sign. The sign takes any character after it into a word, unless
that is a space or makes an operator. -/
def scanNumberSign (rest : List Char) : Token × List Char :=
  match rest with
  | [] => (.stray, [])
  | c :: tail =>
    if c = '-' ∨ c = '>' then scanSign ('#' :: rest)
    else if c = ' ' then (.stray, rest)
    else (.name, tail.dropWhile continuesWord)

/-- Scan what begins with an at sign. The sign takes any character after it into a word, unless that
is a space or a quote or makes an operator. -/
def scanAtSign (rest : List Char) : Token × List Char :=
  match rest with
  | [] => (.atSign, [])
  | ['@'] => (.operator Strength.arrow, [])
  | '@' :: c :: tail =>
    if c = ' ' then (.operator Strength.arrow, c :: tail)
    else (.name, tail.dropWhile continuesWord)
  | c :: tail =>
    if c = '>' ∨ c = '?' then scanSign ('@' :: rest)
    else if c = ' ' ∨ c = '\'' ∨ isNameQuote c then (.atSign, rest)
    else (.name, tail.dropWhile continuesWord)

/-- The next step through a text that is not empty: a token or nothing, and the rest. A point in
front of a low line has to follow a word at once. -/
def next (afterWord : Bool) (c : Char) (rest : List Char) : Option (Option Token × List Char) :=
  if isBlank c then some (none, rest)
  else if c = '-' ∧ rest.head? = some '-' then some (none, rest.dropWhile (· ≠ '\n'))
  else if c = '/' ∧ rest.head? = some '*' then (afterComment 0 ' ' rest.tail).map (none, ·)
  else if isNameQuote c then (afterQuote c rest).map (some .name, ·)
  else if c = '\'' then (afterQuote c rest).map (some .quotedText, ·)
  else if c = '.' ∧ rest.head? = some '_' then
    if afterWord then some (some .dot, rest) else none
  else if isDigit c ∨ c = '.' then
    let (token, rest) := scanNumber (c :: rest)
    some (some token, rest)
  else if startsWord c then
    match scanAnnounced c rest with
    | some scanned => scanned.map (some .literal, ·)
    | none => some (some (ofWord (c :: rest.takeWhile continuesWord)), rest.dropWhile continuesWord)
  else if c = '$' then (scanDollar rest).map (some .literal, ·)
  else if c = '?' then some (some .literal, rest.dropWhile isDigit)
  else
    let (token, rest) :=
      if c = '#' then scanNumberSign rest
      else if c = '@' then scanAtSign rest
      else scanSign (c :: rest)
    some (some token, rest)

/-- The tokens of a text of at most the given length; `afterWord` says that a word ends where the
text begins. -/
def scanWithin : Nat → Bool → List Char → Option (List Token)
  | _, _, [] => some []
  | 0, _, _ :: _ => none
  | bound + 1, afterWord, c :: rest =>
    match next afterWord c rest with
    | none => none
    | some (none, rest) => scanWithin bound false rest
    | some (some token, rest) => (scanWithin bound token.isWord rest).map (token :: ·)

/-- The tokens of a text, unless a quote or a comment in it is not closed or a point stands where
none may. -/
def scan (cs : List Char) : Option (List Token) := scanWithin cs.length false cs

end Token

end StarReport.Sql
