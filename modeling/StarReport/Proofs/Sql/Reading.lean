import StarReport.Proofs.Sql.Lexicon
import StarReport.Sql.Grammar.Texts

/-!
The tokens of a text that is written with lexemes. Quotes, words and signs are read one after
another, and what a quoted name holds never shows: a lexeme becomes one token, which tells words that
are kept from other names and nothing else about names.
-/

set_option autoImplicit false
set_option relaxedAutoImplicit false

namespace StarReport.Sql

open Decimal (isDigit)

/-! ### Characters of words -/

/-- A text at whose start no name goes on, though a part of one may follow. -/
def Separated (rest : List Char) : Prop := ∀ c ∈ rest.head?, c ∈ [' ', '\n', '.', ',', '(', ')']

theorem toNat_lt_of_isWord {c : Char} (word : isWord c = true) : c.toNat < 128 := by
  simp only [isWord, Bool.or_eq_true, decide_eq_true_eq] at word
  rcases word with alphanumeric | rfl
  · rcases (Bool.or_eq_true c.isAlpha c.isDigit).mp alphanumeric with alphabetic | digit
    · rcases (Bool.or_eq_true c.isUpper c.isLower).mp alphabetic with upper | lower
      · have : c.toNat ≤ 90 := (of_decide_eq_true upper).2
        omega
      · have : c.toNat ≤ 122 := of_decide_eq_true ((Bool.and_eq_true _ _).mp lower).2
        omega
    · have : c.toNat ≤ 57 := of_decide_eq_true ((Bool.and_eq_true _ _).mp digit).2
      omega
  · decide

theorem isWord_of_beginsWord {c : Char} (begins : beginsWord c = true) : isWord c = true := by
  simp only [beginsWord, isWord, Bool.or_eq_true, decide_eq_true_eq] at *
  exact begins.imp_left ((Bool.or_eq_true c.isAlpha c.isDigit).mpr ∘ .inl)

namespace Token

private theorem continuesWord_of_isWord {c : Char} (word : Sql.isWord c = true) :
    continuesWord c = true := by
  have all : ∀ n < 128, Sql.isWord (Char.ofNat n) = true → continuesWord (Char.ofNat n) = true := by
    decide +kernel
  have known := all c.toNat (toNat_lt_of_isWord word)
  rw [Char.ofNat_toNat] at known
  exact known word

private theorem continuesWord_separator :
    ∀ c ∈ [' ', '\n', '.', ',', '(', ')'], continuesWord c = false := by
  intro c separator
  simp only [List.mem_cons, List.not_mem_nil, or_false] at separator
  rcases separator with rfl | rfl | rfl | rfl | rfl | rfl <;> decide +kernel

private theorem startsWord_of_beginsWord {c : Char} (begins : beginsWord c = true) :
    startsWord c = true := by
  have all : ∀ n < 128, beginsWord (Char.ofNat n) = true → startsWord (Char.ofNat n) = true := by
    decide +kernel
  have known := all c.toNat (toNat_lt_of_isWord (isWord_of_beginsWord begins))
  rw [Char.ofNat_toNat] at known
  exact known begins

/-- The characters that a word does not begin with. -/
private theorem other_of_beginsWord {c : Char} (begins : beginsWord c = true) :
    isBlank c = false ∧ isDigit c = false ∧ c ∉ ['-', '/', '"', '\x60', '\'', '.'] := by
  have all : ∀ n < 128, beginsWord (Char.ofNat n) = true → isBlank (Char.ofNat n) = false ∧
      isDigit (Char.ofNat n) = false ∧
      Char.ofNat n ∉ ['-', '/', '"', '\x60', '\'', '.'] := by
    decide +kernel
  have known := all c.toNat (toNat_lt_of_isWord (isWord_of_beginsWord begins))
  rw [Char.ofNat_toNat] at known
  exact known begins

/-- A character that begins a word begins nothing else, unless a quote comes right after it. -/
private theorem next_beginsWord {afterWord : Bool} {c : Char} {rest : List Char}
    (begins : beginsWord c = true) (plain : scanAnnounced c rest = none) :
    next afterWord c rest =
      some (some (ofWord (c :: rest.takeWhile continuesWord)), rest.dropWhile continuesWord) := by
  obtain ⟨blank, digit, other⟩ := other_of_beginsWord begins
  have starts := startsWord_of_beginsWord begins
  simp only [List.mem_cons, List.not_mem_nil, or_false, not_or] at other
  obtain ⟨dash, slash, quote, backquote, apostrophe, point⟩ := other
  simp [next, isNameQuote, blank, digit, starts, dash, slash, quote, backquote, apostrophe, point,
    plain]

private theorem scanAnnounced_eq_none (c : Char) {rest : List Char}
    (unquoted : ∀ d ∈ rest.head?, d ≠ '\'' ∧ d ≠ '"' ∧ d ≠ '&') : scanAnnounced c rest = none := by
  unfold scanAnnounced
  split <;> simp_all

/-! ### Reading a text -/

/-- The tokens of a text, found under any bound that covers it. -/
def Reads (afterWord : Bool) (cs : List Char) (tokens : List Token) : Prop :=
  ∀ bound, cs.length ≤ bound → scanWithin bound afterWord cs = some tokens

theorem Reads.scan {cs : List Char} {tokens : List Token} (reads : Reads false cs tokens) :
    scan cs = some tokens :=
  reads cs.length (Nat.le_refl _)

theorem reads_nil (afterWord : Bool) : Reads afterWord [] [] := by
  intro bound _
  cases bound <;> rfl

namespace Reads

variable {afterWord : Bool} {c : Char} {rest tail : List Char} {tokens : List Token}

theorem skip (step : next afterWord c rest = some (none, tail))
    (shorter : tail.length ≤ rest.length) (reads : Reads false tail tokens) :
    Reads afterWord (c :: rest) tokens := by
  intro bound covers
  cases bound with
  | zero => simp at covers
  | succ bound =>
    have left : tail.length ≤ bound := by
      simp only [List.length_cons] at covers
      omega
    simp only [scanWithin, step, reads bound left]

theorem token {token : Token} (step : next afterWord c rest = some (some token, tail))
    (shorter : tail.length ≤ rest.length) (reads : Reads token.isWord tail tokens) :
    Reads afterWord (c :: rest) (token :: tokens) := by
  intro bound covers
  cases bound with
  | zero => simp at covers
  | succ bound =>
    have left : tail.length ≤ bound := by
      simp only [List.length_cons] at covers
      omega
    simp only [scanWithin, step, reads bound left, Option.map_some]

theorem space (reads : Reads false rest tokens) : Reads afterWord (' ' :: rest) tokens :=
  reads.skip rfl (Nat.le_refl _)

theorem newline (reads : Reads false rest tokens) : Reads afterWord ('\n' :: rest) tokens :=
  reads.skip rfl (Nat.le_refl _)

private theorem startsWord_sign : ∀ c ∈ [',', '(', ')', '='], startsWord c = false := by
  intro c sign
  simp only [List.mem_cons, List.not_mem_nil, or_false] at sign
  rcases sign with rfl | rfl | rfl | rfl <;> decide +kernel

private theorem next_sign (sign : c ∈ [',', '(', ')', '=']) :
    next afterWord c rest = some (some (scanSign (c :: rest)).1, (scanSign (c :: rest)).2) := by
  have noWord := startsWord_sign c sign
  simp only [List.mem_cons, List.not_mem_nil, or_false] at sign
  unfold next
  rcases sign with rfl | rfl | rfl | rfl <;> simp [noWord, isBlank, isNameQuote, isDigit]

theorem comma (reads : Reads false rest tokens) :
    Reads afterWord (',' :: rest) (.comma :: tokens) :=
  reads.token (next_sign (by simp)) (Nat.le_refl _)

theorem openParenthesis (reads : Reads false rest tokens) :
    Reads afterWord ('(' :: rest) (.openParenthesis :: tokens) :=
  reads.token (next_sign (by simp)) (Nat.le_refl _)

theorem closeParenthesis (reads : Reads false rest tokens) :
    Reads afterWord (')' :: rest) (.closeParenthesis :: tokens) :=
  reads.token (next_sign (by simp)) (Nat.le_refl _)

theorem equals (reads : Reads false (' ' :: rest) tokens) :
    Reads afterWord ('=' :: ' ' :: rest) (.comparison :: tokens) :=
  reads.token (next_sign (by simp)) (Nat.le_refl _)

/-- A point after a name, with another name after it. -/
theorem dot (begins : ∀ d ∈ rest.head?, isDigit d = false) (reads : Reads false rest tokens) :
    Reads true ('.' :: rest) (.dot :: tokens) := by
  have step : next true '.' rest = some (some .dot, rest) := by
    have alone : scanNumber ('.' :: rest) = (.dot, rest) := by
      cases rest with
      | nil => rfl
      | cons d rest =>
        have digit : isDigit d = false := begins d rfl
        have point : isDigit '.' = false := rfl
        simp [scanNumber, List.takeWhile, List.dropWhile, digit, point]
    by_cases low : rest.head? = some '_'
    · simp [next, isBlank, isNameQuote, low]
    · simp [next, isBlank, isNameQuote, low, alone]
  exact reads.token step (Nat.le_refl _)

/-- Whether a word ends before a text matters to a point alone. -/
theorem anew {afterWord' : Bool} (reads : Reads afterWord rest tokens)
    (other : rest.head? ≠ some '.') : Reads afterWord' rest tokens := by
  intro bound covers
  rw [← reads bound covers]
  cases rest with
  | nil => cases bound <;> rfl
  | cons c rest =>
    cases bound with
    | zero => rfl
    | succ bound =>
      have point : c ≠ '.' := by simpa using other
      have same : next afterWord' c rest = next afterWord c rest := by simp [next, point]
      simp only [scanWithin, same]

/-! ### Names -/

private theorem afterQuote_other {quote c : Char} (other : c ≠ quote) {cs : List Char}
    (more : cs ≠ []) : afterQuote quote (c :: cs) = afterQuote quote cs := by
  cases cs with
  | nil => exact absurd rfl more
  | cons d cs => simp [afterQuote, other]

/-- What a name holds never closes its quotes. -/
private theorem afterQuote_double (name : List Char) {rest : List Char}
    (ends : rest.head? ≠ some '"') :
    afterQuote '"' (Quoted.double name ++ '"' :: rest) = some rest := by
  induction name with
  | nil =>
    cases rest with
    | nil => rfl
    | cons d rest =>
      have other : d ≠ '"' := by simpa using ends
      simp [Quoted.double, afterQuote, other]
  | cons c name ih =>
    by_cases quote : c = '"'
    · simpa [Quoted.double, afterQuote, quote] using ih
    · rw [Quoted.double, if_neg quote, List.cons_append, afterQuote_other quote (by simp), ih]

theorem quote (name : String) (ends : Separated rest) (reads : Reads true rest tokens) :
    Reads afterWord ((Quoted.quote name).toList ++ rest) (.name :: tokens) := by
  have unquoted : rest.head? ≠ some '"' := fun head => absurd (ends '"' head) (by decide)
  have step : next afterWord '"' (Quoted.double name.toList ++ '"' :: rest) =
      some (some .name, rest) := by
    simp [next, isBlank, isNameQuote, afterQuote_double name.toList unquoted]
  have text : (Quoted.quote name).toList ++ rest =
      '"' :: (Quoted.double name.toList ++ '"' :: rest) := by
    simp [Quoted.toList_quote]
  have shorter : rest.length ≤ (Quoted.double name.toList ++ '"' :: rest).length := by
    rw [List.length_append, List.length_cons]
    omega
  rw [text]
  exact Reads.token step shorter reads

theorem isWord_ofWord (word : List Char) : (ofWord word).isWord = true := by
  unfold ofWord
  split <;> rfl

/-- A word goes on to where a text begins that is separate from it. -/
private theorem span_word {word rest : List Char} (letters : ∀ c ∈ word, Sql.isWord c = true)
    (ends : Separated rest) : (word ++ rest).takeWhile continuesWord = word ∧
      (word ++ rest).dropWhile continuesWord = rest := by
  have inside : ∀ c ∈ word, continuesWord c = true := fun c member =>
    continuesWord_of_isWord (letters c member)
  rw [List.takeWhile_append_of_pos inside, List.dropWhile_append_of_pos inside]
  cases rest with
  | nil => simp
  | cons c rest =>
    have outside : continuesWord c = false := continuesWord_separator c (ends c rfl)
    simp [outside]

/-- No quote comes right after a letter of a word. -/
private theorem scanAnnounced_word (c : Char) {word rest : List Char}
    (letters : ∀ d ∈ word, Sql.isWord d = true) (ends : Separated rest) :
    scanAnnounced c (word ++ rest) = none := by
  refine scanAnnounced_eq_none c fun d first => ?_
  cases word with
  | nil =>
    have separator := ends d first
    refine ⟨?_, ?_, ?_⟩ <;> rintro rfl <;> exact absurd separator (by decide)
  | cons e word =>
    obtain rfl : e = d := Option.some.inj first
    have letter := letters e List.mem_cons_self
    refine ⟨?_, ?_, ?_⟩ <;> rintro rfl <;> exact absurd letter (by decide)

theorem word {word : List Char} (begins : ∃ c ∈ word.head?, beginsWord c = true)
    (letters : ∀ c ∈ word, Sql.isWord c = true) (ends : Separated rest)
    (reads : Reads true rest tokens) :
    Reads afterWord (word ++ rest) (ofWord word :: tokens) := by
  obtain ⟨c, head, begins⟩ := begins
  cases word with
  | nil => cases head
  | cons d word =>
    obtain rfl : d = c := Option.some.inj head
    have letters' : ∀ e ∈ word, Sql.isWord e = true := fun e member =>
      letters e (List.mem_cons_of_mem d member)
    obtain ⟨taken, dropped⟩ := span_word letters' ends
    have step : next afterWord d (word ++ rest) = some (some (ofWord (d :: word)), rest) := by
      rw [next_beginsWord begins (scanAnnounced_word d letters' ends), taken, dropped]
    refine Reads.token step (by simp) ?_
    rwa [isWord_ofWord]

end Reads

end Token

/-! ### Lexemes -/

theorem separated_cons {c : Char} (separator : c ∈ [' ', '\n', '.', ',', '(', ')'])
    (rest : List Char) : Separated (c :: rest) := by
  intro d head
  obtain rfl : c = d := Option.some.inj head
  exact separator

theorem Bounded.separated {rest : List Char} (bounded : Bounded rest) : Separated rest :=
  have within : [' ', '\n', ',', '(', ')'] ⊆ [' ', '\n', '.', ',', '(', ')'] := by decide
  fun c head => within (bounded c head)

theorem Bounded.head?_ne {rest : List Char} (bounded : Bounded rest) : rest.head? ≠ some '.' :=
  fun head => absurd (bounded '.' head) (by decide)

namespace Grammar

/-- The token that a lexeme becomes. -/
def tokenOf : Lexeme → Token
  | .quoted _ => .name
  | .word spelling => Token.ofWord spelling.toList
  | .dot => .dot
  | .comma => .comma
  | .openParenthesis => .openParenthesis
  | .closeParenthesis => .closeParenthesis
  | .equals => .comparison

@[simp] theorem tokenOf_quoted (name : String) : tokenOf (.quoted name) = .name := rfl

@[simp] theorem tokenOf_dot : tokenOf .dot = .dot := rfl

@[simp] theorem tokenOf_comma : tokenOf .comma = .comma := rfl

@[simp] theorem tokenOf_openParenthesis : tokenOf .openParenthesis = .openParenthesis := rfl

@[simp] theorem tokenOf_closeParenthesis : tokenOf .closeParenthesis = .closeParenthesis := rfl

@[simp] theorem tokenOf_equals : tokenOf .equals = .comparison := rfl

/-- What is known of the parser of this grammar; its tokens are never blanks. -/
def lexicon : Lexicon parser where
  keyword spelling := Keyword.ofWord? spelling.toList ≠ none
  token := tokenOf
  blank _ := false

end Grammar

open Grammar (tokenOf)
open Token (Reads)

variable {afterWord : Bool} {rest : List Char} {tokens : List Token}

theorem Token.Reads.lexeme {lexeme : Lexeme} (named : lexeme.IsName) (ends : Separated rest)
    (reads : Reads true rest tokens) :
    Reads afterWord (lexeme.text ++ rest) (tokenOf lexeme :: tokens) := by
  cases named with
  | quoted name => exact reads.quote name ends
  | word shape => exact reads.word shape.begins shape.letters ends

/-- No name begins with a digit, quoted or not. -/
theorem Lexeme.IsName.isDigit_head {lexeme : Lexeme} (named : lexeme.IsName) (rest : List Char) :
    ∀ c ∈ (lexeme.text ++ rest).head?, isDigit c = false := by
  intro c head
  cases named with
  | quoted name =>
    rw [Lexeme.text, Quoted.toList_quote] at head
    obtain rfl : '"' = c := Option.some.inj head
    rfl
  | @word spelling shape =>
    obtain ⟨d, first, begins⟩ := shape.begins
    have same : (spelling.toList ++ rest).head? = some d := by
      rw [List.head?_append, first, Option.some_or]
    obtain rfl : d = c := Option.some.inj (same.symm.trans head)
    exact (Token.other_of_beginsWord begins).2.1

theorem Spells.reads {lexemes : List Lexeme} {cs : List Char} (spells : Spells lexemes cs) :
    Reads false cs (lexemes.map tokenOf) := by
  induction spells with
  | nil => exact Token.reads_nil false
  | blank character _ ih =>
    rcases character with rfl | rfl
    · exact ih.space
    · exact ih.newline
  | name named bounded _ ih => exact (ih.anew bounded.head?_ne).lexeme named bounded.separated
  | qualified outer inner _ ih =>
    exact (ih.dot (inner.isDigit_head _)).lexeme outer (separated_cons (by simp) _)
  | comma _ ih => exact ih.comma
  | openParenthesis _ ih => exact ih.openParenthesis
  | closeParenthesis _ ih => exact ih.closeParenthesis
  | equals _ ih => exact ih.equals

theorem Grammar.tokenizes {tokens : List Token} {lexemes : List Lexeme} :
    lexicon.Tokenizes tokens lexemes ↔ tokens = lexemes.map tokenOf := by
  have kept : tokens.filter (fun token => !lexicon.blank token) = tokens :=
    List.filter_eq_self.mpr fun _ _ => rfl
  exact ⟨fun same => kept.symm.trans same, fun same => kept.trans same⟩

/-- The recogniser takes names and words as they are written. -/
theorem Grammar.separates : lexicon.Separates := by
  intro lexemes text spells
  refine ⟨lexemes.map tokenOf, ?_, tokenizes.mpr rfl⟩
  simp only [parser, spells.reads.scan]

end StarReport.Sql
