import StarReport.Proofs.FirstFailure
import StarReport.Proofs.Tree.Meaning
import StarReport.Schema.Load

/-!
No text is a document in JSON and has a meaning in TOML as well. A document in JSON opens with a
brace, or with a bracket, a quoted text and a comma. No line of TOML begins like that: a brace
begins no key, and no comma follows the text in a header, since a text that is quoted in both
formats ends at the same quote.
-/

set_option autoImplicit false
set_option relaxedAutoImplicit false

namespace StarReport

/-! ### How documents begin -/

namespace Json

/-- The first character of a text that is not blank, and what comes after it. -/
inductive Opens (c : Char) (rest : List Char) : List Char → Prop
  | here : isBlank c = false → Opens c rest (c :: rest)
  | blank {b : Char} {cs : List Char} : isBlank b = true → Opens c rest cs →
      Opens c rest (b :: cs)

theorem opens_of_tokens {token : Token} (whole : token ≠ .fault) {others : List Token}
    {bound : Nat} {cs : List Char} (scanned : tokensWithin bound cs = token :: others) :
    ∃ c rest rest' bound', Opens c rest cs ∧ next c rest = some (token, rest') ∧
      tokensWithin bound' rest' = others := by
  induction bound generalizing cs with
  | zero => cases scanned
  | succ bound ih =>
    cases cs with
    | nil => cases scanned
    | cons c rest =>
      rw [tokensWithin] at scanned
      by_cases blank : isBlank c = true
      · rw [if_pos blank] at scanned
        obtain ⟨d, rest, rest', bound', opens, read⟩ := ih scanned
        exact ⟨d, rest, rest', bound', .blank blank opens, read⟩
      · rw [if_neg blank] at scanned
        cases read : next c rest with
        | none =>
          rw [read] at scanned
          cases scanned
          exact absurd rfl whole
        | some result =>
          obtain ⟨token', rest'⟩ := result
          rw [read] at scanned
          cases scanned
          exact ⟨c, rest, rest', bound, .here (by simpa using blank), read, rfl⟩

/-- The first character of a token, where all tokens of its kind begin alike. -/
def Token.head? : Token → Option Char
  | .openList => some '['
  | .openRecord => some '{'
  | .comma => some ','
  | .text _ => some '"'
  | _ => none

theorem head?_of_scanNumber {negative : Bool} {cs rest : List Char} {token : Token}
    (scanned : scanNumber negative cs = some (token, rest)) : token.head? = none := by
  unfold scanNumber at scanned
  simp only at scanned
  split at scanned
  · cases scanned
  · obtain ⟨⟨fraction, _⟩, _, scanned⟩ := Option.bind_eq_some_iff.mp scanned
    obtain ⟨⟨exponent, _⟩, _, scanned⟩ := Option.bind_eq_some_iff.mp scanned
    simp only at scanned
    split at scanned
    · cases scanned
      rfl
    · split at scanned <;> cases scanned <;> rfl

theorem eq_head_of_next {c d : Char} {rest rest' : List Char} {token : Token}
    (read : next c rest = some (token, rest')) (head : token.head? = some d) : c = d := by
  unfold next at read
  split at read
  case h_7 =>
    obtain ⟨_, _, same⟩ := Option.map_eq_some_iff.mp read
    cases same
    exact Option.some.inj head
  case h_8 =>
    rw [head?_of_scanNumber read] at head
    cases head
  case h_12 =>
    rw [head?_of_scanNumber read] at head
    cases head
  case h_9 | h_10 | h_11 =>
    split at read <;> cases read
    cases head
  all_goals
    cases read
    cases head
    try rfl

theorem value_record {bound : Nat} {tokens rest : List Token} {members : List (Characters × Tree)}
    (read : value bound tokens = (.record members, rest)) :
    ∃ others, tokens = .openRecord :: others := by
  unfold value at read
  split at read <;> cases read
  · exact ⟨_, rfl⟩
  · exact ⟨_, rfl⟩

theorem value_text {bound : Nat} {tokens rest : List Token} {characters : Characters}
    (read : value bound tokens = (.text characters, rest)) :
    tokens = .text characters :: rest := by
  unfold value at read
  split at read <;> cases read
  rfl

/-- A list of several items holds a comma after the first. -/
theorem value_list {bound : Nat} {tokens rest : List Token} {first second third : Tree}
    {items : List Tree}
    (read : value bound tokens = (.list (first :: second :: third :: items), rest)) :
    ∃ bound' others left, tokens = .openList :: others ∧
      value bound' others = (first, .comma :: left) := by
  unfold value at read
  split at read <;> try cases read
  rename_i bound others _
  have made := congrArg Prod.fst read
  simp only [Tree.list.injEq] at made
  cases bound with
  | zero => cases made
  | succ bound =>
    rw [listItems] at made
    split at made
    · rename_i item left entry
      obtain ⟨rfl, -⟩ := List.cons.inj made
      exact ⟨bound, others, left, rfl, entry⟩
    · cases made
    · cases made

/-- How the tokens of a document begin. -/
inductive Opening : List Token → Prop
  | record {rest : List Token} : Opening (.openRecord :: rest)
  | list {characters : Characters} {rest : List Token} :
      Opening (.openList :: .text characters :: .comma :: rest)

end Json

namespace Document

open Tree.Decoder

/-- A document is a record, or a list that opens with the name of the database. -/
theorem shape_of_decode {tree : Tree} {document : Document}
    (decoded : decode Json.dialect tree = .ok document) : (∃ members, tree = .record members) ∨
      ∃ database second third items,
        tree = .list (.string database :: second :: third :: items) := by
  cases tree with
  | record members => exact .inl ⟨members, rfl⟩
  | list items =>
    obtain _ | ⟨first, _ | ⟨second, _ | ⟨third, items⟩⟩⟩ := items
    · cases decoded
    · obtain ⟨document', _, last⟩ := FirstFailure.bind_ok.mp decoded
      cases last
    · obtain ⟨_, _, last⟩ := FirstFailure.bind_ok.mp decoded
      obtain ⟨_, _, last⟩ := FirstFailure.bind_ok.mp last
      cases last
    · obtain ⟨_, name, _⟩ := FirstFailure.bind_ok.mp decoded
      obtain ⟨database, named, _⟩ := FirstFailure.map_ok.mp name
      obtain ⟨_, rfl⟩ := (reads_text first database).mp named
      exact .inr ⟨database, second, third, items, rfl⟩
  | moment => cases decoded
  | text characters => cases characters <;> cases decoded
  | _ => cases decoded

theorem opening_of_decode {text : String} {document : Document}
    (decoded : Json.decode decode text = .ok document) :
    Json.Opening (Json.tokens text.toList) := by
  obtain ⟨_, taken, _⟩ := FirstFailure.bind_ok.mp decoded
  rw [Json.read] at taken
  generalize 2 * (Json.tokens text.toList).length + 1 = bound at taken
  generalize Json.tokens text.toList = tokens at taken
  cases read : Json.value bound tokens with
  | mk tree rest =>
    rw [read] at taken
    rcases shape_of_decode taken with ⟨members, rfl⟩ | ⟨database, second, third, items, rfl⟩
    · obtain ⟨_, rfl⟩ := Json.value_record read
      exact .record
    · obtain ⟨_, _, _, rfl, first⟩ := Json.value_list read
      obtain rfl := Json.value_text first
      exact .list

end Document

/-! ### Texts that are quoted in both formats -/

/-- What is left after a scan whose outcome is carried on. -/
private theorem scanned_of_map {α β : Type} {f : α × List Char → β × List Char}
    {scanned : Option (α × List Char)} {made : β} {rest : List Char}
    (scan : scanned.map f = some (made, rest)) (keeps : ∀ value left, (f (value, left)).2 = left) :
    ∃ value, scanned = some (value, rest) := by
  obtain ⟨⟨value, left⟩, same, carried⟩ := Option.map_eq_some_iff.mp scan
  have kept := keeps value left
  rw [carried] at kept
  subst kept
  exact ⟨value, same⟩

/-- A text that is quoted in both formats ends at the same quote. -/
theorem rest_eq_of_scans (cs : List Char) : ∀ {characters rest : List Char}
    {units : List Json.Unit16} {rest' : List Char},
    Toml.scanBasic cs = some (characters, rest) → Json.scanText cs = some (units, rest') →
      rest = rest' := by
  fun_induction Toml.scanBasic cs with
  | case1 =>
    intro _ _ _ _ basic
    cases basic
  | case2 rest =>
    intro _ _ _ _ basic text
    cases basic
    cases text
    rfl
  | case3 a b rest ih =>
    intro _ _ _ _ _ text
    simp [Json.scanText, Json.shortEscape?] at text
  | case4 a b c d rest ih =>
    intro _ _ _ _ basic text
    rw [Json.scanText] at text
    obtain ⟨_, _, basic⟩ := Option.bind_eq_some_iff.mp basic
    obtain ⟨_, _, text⟩ := Option.bind_eq_some_iff.mp text
    obtain ⟨_, basic⟩ := scanned_of_map basic fun _ _ => rfl
    obtain ⟨_, text⟩ := scanned_of_map text fun _ _ => rfl
    exact ih basic text
  | case5 a b c d e f g h rest ih =>
    intro _ _ _ _ _ text
    simp [Json.scanText, Json.shortEscape?] at text
  | case6 e rest _ long _ ih =>
    intro _ _ _ _ basic text
    rw [Json.scanText] at text
    · obtain ⟨_, _, basic⟩ := Option.bind_eq_some_iff.mp basic
      obtain ⟨_, _, text⟩ := Option.bind_eq_some_iff.mp text
      obtain ⟨_, basic⟩ := scanned_of_map basic fun _ _ => rfl
      obtain ⟨_, text⟩ := scanned_of_map text fun _ _ => rfl
      exact ih basic text
    · exact long
  | case7 c rest quote _ _ _ backslash _ ih =>
    intro _ _ _ _ basic text
    obtain ⟨_, basic⟩ := scanned_of_map basic fun _ _ => rfl
    rw [Json.scanText] at text
    · split at text
      · cases text
      · obtain ⟨_, text⟩ := scanned_of_map text fun _ _ => rfl
        exact ih basic text
    · exact quote
    · intro _ _ _ _ _ slash same
      exact backslash _ _ slash same
    · exact backslash
  | case8 =>
    intro _ _ _ _ basic
    cases basic

/-! ### Lines that do not begin -/

namespace Toml

open Json (Opens)

/-- What TOML finds after blanks: what JSON finds, or a line ending or part of one. -/
inductive Reaches (c : Char) (rest : List Char) : List Char → Prop
  | same : Reaches c rest (c :: rest)
  | feed {others : List Char} : Reaches c rest ('\n' :: others)
  | carriage {others : List Char} : Reaches c rest ('\r' :: others)

theorem dropWhile_isSpace {c : Char} {rest cs : List Char} (opens : Opens c rest cs) :
    Reaches c rest (cs.dropWhile isSpace) := by
  induction opens with
  | here visible =>
    have other : isSpace c = false := by
      simp only [Json.isBlank, Bool.or_eq_false_iff] at visible
      simp only [isSpace, Bool.or_eq_false_iff]
      exact visible.1.1
    rw [List.dropWhile_cons_of_neg (by simp [other])]
    exact .same
  | @blank b cs blank _ ih =>
    simp only [Json.isBlank, Bool.or_eq_true, decide_eq_true_eq] at blank
    rcases blank with ((rfl | rfl) | rfl) | rfl
    · exact ih
    · exact ih
    · exact .feed
    · exact .carriage

theorem skipBlanks_reaches {c : Char} {rest cs : List Char} (comment : c ≠ '#')
    (opens : Opens c rest cs) :
    ∃ left, skipBlanks false cs = some left ∧ Reaches c rest left := by
  induction opens with
  | here visible =>
    simp only [Json.isBlank, Bool.or_eq_false_iff, decide_eq_false_iff_not] at visible
    obtain ⟨⟨⟨space, tab⟩, feed⟩, carriage⟩ := visible
    refine ⟨c :: rest, ?_, .same⟩
    simp [skipBlanks, isSpace, *]
  | @blank b cs blank _ ih =>
    simp only [Json.isBlank, Bool.or_eq_true, decide_eq_true_eq] at blank
    rcases blank with ((rfl | rfl) | rfl) | rfl
    · exact ih
    · exact ih
    · exact ih
    · by_cases ended : ∃ others, cs = '\n' :: others
      · obtain ⟨others, rfl⟩ := ended
        exact ih
      · refine ⟨'\r' :: cs, ?_, .carriage⟩
        rw [skipBlanks]
        · simp [isSpace]
        · intro others _ same
          exact ended ⟨others, same⟩
        · simp

theorem scanKeyPart_none {c : Char} {rest : List Char} (other : c ∈ ['{', '\n', '\r']) :
    scanKeyPart (c :: rest) = none := by
  simp only [List.mem_cons, List.not_mem_nil, or_false] at other
  rcases other with rfl | rfl | rfl <;> rfl

theorem scanLine_none {c : Char} {rest : List Char} (other : c ∈ ['{', '\n', '\r']) :
    scanLine (c :: rest) = none := by
  simp only [List.mem_cons, List.not_mem_nil, or_false] at other
  rcases other with rfl | rfl | rfl <;> rfl

section Comma

variable {cs text left rest : List Char} {units : List Json.Unit16}

/-- Where a text and a comma stand, no bracket comes after a key. -/
theorem scanKey_comma (opens : Opens '"' text cs)
    (read : Json.scanText text = some (units, left)) (comma : Opens ',' rest left)
    {key : List String} {after : List Char} (scanned : scanKey cs = some (key, after)) :
    after.head? ≠ some ']' := by
  change scanKeyWithin (79 + 1) cs = _ at scanned
  rw [scanKeyWithin] at scanned
  obtain ⟨⟨part, others⟩, head, scanned⟩ := Option.bind_eq_some_iff.mp scanned
  have reached := dropWhile_isSpace opens
  generalize cs.dropWhile isSpace = dropped at head reached
  cases reached with
  | feed => cases (scanKeyPart_none (by simp)).symm.trans head
  | carriage => cases (scanKeyPart_none (by simp)).symm.trans head
  | same =>
    obtain ⟨⟨characters, others'⟩, basic, same⟩ := Option.map_eq_some_iff.mp head
    cases same
    obtain rfl := rest_eq_of_scans text basic read
    have reached := dropWhile_isSpace comma
    simp only at scanned
    generalize others.dropWhile isSpace = dropped at scanned reached
    cases reached <;> cases scanned <;> simp

theorem scanLine_comma (opens : Opens '"' text cs)
    (read : Json.scanText text = some (units, left)) (comma : Opens ',' rest left) :
    scanLine ('[' :: cs) = none := by
  unfold scanLine
  split
  case h_1 others same =>
    cases same
    cases opens with
    | blank absurdity => cases absurdity
  case h_2 others _ same =>
    cases same
    cases scanned : scanKey cs with
    | none => rfl
    | some result =>
      obtain ⟨key, after⟩ := result
      have closed := scanKey_comma opens read comma scanned
      simp only [Option.bind_eq_bind, Option.bind_some]
      split
      · exact absurd rfl closed
      · rfl
  case h_3 other =>
    exact absurd rfl (other cs)

end Comma

/-- A text whose first line is none has no tree. -/
theorem tree?_none {text : String} {c : Char} {rest : List Char} (comment : c ≠ '#')
    (mark : c ≠ '\uFEFF') (opens : Opens c rest text.toList)
    (unread : scanLine (c :: rest) = none) : tree? text = none := by
  have unmarked : dropMark text.toList = text.toList := by
    generalize text.toList = cs at opens
    unfold dropMark
    split
    · cases opens with
      | here => exact absurd rfl mark
      | blank absurdity => cases absurdity
    · rfl
  obtain ⟨left, skipped, reached⟩ := skipBlanks_reaches comment opens
  have lines : linesWithin (text.toList.length + 1) text.toList = none := by
    rw [linesWithin, skipped]
    cases reached with
    | same => simp [unread]
    | feed => simp [scanLine_none]
    | carriage => simp [scanLine_none]
  rw [tree?]
  simp only [unmarked, lines]
  rfl

end Toml

namespace Document

theorem tree?_of_json {text : String} {document : Document}
    (decoded : Json.decode decode text = .ok document) : Toml.tree? text = none := by
  have opening := opening_of_decode decoded
  generalize scanned : Json.tokens text.toList = tokens at opening
  cases opening with
  | record =>
    obtain ⟨c, rest, _, _, opens, read, _⟩ := Json.opens_of_tokens (by simp) scanned
    obtain rfl := Json.eq_head_of_next read rfl
    exact Toml.tree?_none (by decide) (by decide) opens (Toml.scanLine_none (by simp))
  | list =>
    obtain ⟨c, rest, _, _, opens, bracket, scanned⟩ := Json.opens_of_tokens (by simp) scanned
    obtain rfl := Json.eq_head_of_next bracket rfl
    cases bracket
    obtain ⟨c, text, _, _, name, quote, scanned⟩ := Json.opens_of_tokens (by simp) scanned
    obtain rfl := Json.eq_head_of_next quote rfl
    obtain ⟨⟨units, left⟩, read, same⟩ := Option.map_eq_some_iff.mp quote
    cases same
    obtain ⟨c, _, _, _, comma, mark, _⟩ := Json.opens_of_tokens (by simp) scanned
    obtain rfl := Json.eq_head_of_next mark rfl
    exact Toml.tree?_none (by decide) (by decide) opens (Toml.scanLine_comma name read comma)

/-- A text that has a meaning in TOML is no document in JSON. -/
theorem ofText_json_of_toml {text : String} {tree : Tree} (read : Toml.tree? text = some tree) :
    ∃ fault, ofText .json text = .error (.malformed .json fault) := by
  cases decoded : Json.decode decode text with
  | error fault => exact ⟨fault, by simp [ofText, decoded, Except.mapError]⟩
  | ok document => cases (tree?_of_json decoded).symm.trans read

end Document

end StarReport
