import StarReport.Sql.Token

/-!
Recognisers of token sequences, and ways to put them together. A recogniser drops what it knows from
the head of the tokens and fails where the tokens do not begin with it.
-/

set_option autoImplicit false
set_option relaxedAutoImplicit false

namespace StarReport.Sql.Grammar

abbrev Recogniser := List Token → Option (List Token)

def token (expected : Token) : Recogniser
  | head :: rest => if head = expected then some rest else none
  | [] => none

def keyword (spelling : String) : Recogniser := token (.keyword spelling)

def anyKeyword (spellings : List String) : Recogniser
  | .keyword spelling :: rest => if spelling ∈ spellings then some rest else none
  | _ => none

def both (first second : Recogniser) : Recogniser := fun tokens => (first tokens).bind second

/-- The first of two parts, or else the second. -/
def either (first second : Recogniser) : Recogniser := fun tokens =>
  (first tokens).or (second tokens)

def keywords : List String → Recogniser
  | [] => some
  | spelling :: rest => both (keyword spelling) (keywords rest)

def optional (part : Recogniser) : Recogniser := fun tokens => some ((part tokens).getD tokens)

/-- A part that is there if it begins with a token. -/
def ifNext (beginning : Token) (body : Recogniser) : Recogniser := fun tokens =>
  if tokens.head? = some beginning then body tokens else some tokens

/-- A part that is there unless the next one begins with a token. -/
def unlessNext (beginning : Token) (body : Recogniser) : Recogniser := fun tokens =>
  if tokens.head? = some beginning then some tokens else body tokens

/-- A part that may be left out, but not broken off once it has been opened. -/
def opened (opening body : Recogniser) : Recogniser := fun tokens =>
  match opening tokens with
  | none => some tokens
  | some rest => body rest

/-- An opened part at most `bound` times. -/
def repeatedWithin (opening body : Recogniser) : Nat → Recogniser
  | 0, tokens => some tokens
  | bound + 1, tokens =>
    match opening tokens with
    | none => some tokens
    | some rest => (body rest).bind (repeatedWithin opening body bound)

/-- An opened part, as often as it comes. -/
def repeated (opening body : Recogniser) : Recogniser := fun tokens =>
  repeatedWithin opening body tokens.length tokens

/-- Entries with commas between them, at least one. -/
def entries (entry : Recogniser) : Recogniser := both entry (repeated (token .comma) entry)

def parenthesised (body : Recogniser) : Recogniser :=
  both (token .openParenthesis) (both body (token .closeParenthesis))

def word : Recogniser
  | head :: rest => if head.isWord then some rest else none
  | [] => none

def namePart : Recogniser
  | head :: rest => if head.isNamePart then some rest else none
  | [] => none

def name : Recogniser := both namePart (repeated (token .dot) namePart)

/-- A label, after its keyword or without one. Without it a word is no label if it is a stop. -/
def label (stops : List String) : Recogniser := fun tokens =>
  match keyword "as" tokens with
  | some rest => namePart rest
  | none => if (anyKeyword stops tokens).isSome then some tokens else optional namePart tokens

end StarReport.Sql.Grammar
