import Mathlib.Data.List.Nodup
import StarReport.Proofs.Json.Written
import StarReport.Toml.Printer
import StarReport.Toml.Reader

/-!
Written TOML is read back. A text in quotes is scanned to its characters, whatever they are, an
array to its items and an inline table to its members, and assignments on lines of their own make a
record of the values that they assign.
-/

set_option autoImplicit false
set_option relaxedAutoImplicit false

namespace StarReport.Toml

open Json (hexDigit separated)
open StarReport.Tree (object)

/-! ### Quoted texts -/

/-- The characters with an escape of two characters. -/
def shortEscaped : List Char := ['"', '\\', '\n', '\r', '\t']

private theorem scanBasic_shortEscaped (rest : List Char) :
    ∀ c ∈ shortEscaped, scanBasic (escape c ++ rest) = (scanBasic rest).map (prepend [c]) := by
  intro c short
  simp only [shortEscaped, List.mem_cons, List.not_mem_nil, or_false] at short
  rcases short with rfl | rfl | rfl | rfl | rfl <;> rfl

private theorem escape_long {c : Char} (long : c ∉ shortEscaped) : escape c =
    if c.toNat < 32 ∨ c.toNat = 127 then
      ['\\', 'u', '0', '0', hexDigit (c.toNat / 16), hexDigit (c.toNat % 16)]
    else [c] := by
  simp only [shortEscaped, List.mem_cons, List.not_mem_nil, or_false, not_or] at long
  simp [escape, long]

private theorem numbered?_hexDigit {c : Char} (small : c.toNat < 128) :
    numbered? ['0', '0', hexDigit (c.toNat / 16), hexDigit (c.toNat % 16)] = some c := by
  rw [numbered?, Json.hexValue?_hexDigit c.toNat small, Option.bind_some, scalar?,
    if_pos (by omega), Char.ofNat_toNat]

private theorem scanBasic_plain {c : Char} (long : c ∉ shortEscaped)
    (printed : ¬(c.toNat < 32 ∨ c.toNat = 127)) (rest : List Char) :
    scanBasic (c :: rest) = (scanBasic rest).map (prepend [c]) := by
  have plain : isPlain c = true := by
    simp only [isPlain, Bool.or_eq_true, Bool.and_eq_true, decide_eq_true_eq]
    omega
  simp only [shortEscaped, List.mem_cons, List.not_mem_nil, or_false, not_or] at long
  obtain ⟨quote, backslash, -⟩ := long
  have unescaped := scanBasic.eq_7 c rest quote (fun _ _ _ same _ => backslash same)
    (fun _ _ _ _ _ same _ => backslash same) (fun _ _ _ _ _ _ _ _ _ same _ => backslash same)
    (fun _ _ same _ => backslash same)
  rw [unescaped, if_pos plain]

/-- A character is scanned as itself, however it is written. -/
theorem scanBasic_escape (c : Char) (rest : List Char) :
    scanBasic (escape c ++ rest) = (scanBasic rest).map (prepend [c]) := by
  by_cases short : c ∈ shortEscaped
  · exact scanBasic_shortEscaped rest c short
  · rw [escape_long short]
    by_cases control : c.toNat < 32 ∨ c.toNat = 127
    · rw [if_pos control]
      change (numbered? _).bind _ = _
      rw [numbered?_hexDigit (by omega)]
      rfl
    · rw [if_neg control]
      exact scanBasic_plain short control rest

theorem scanBasic_quoted (cs rest : List Char) :
    scanBasic (cs.flatMap escape ++ '"' :: rest) = some (cs, rest) := by
  induction cs with
  | nil => rfl
  | cons c cs ih =>
    rw [List.flatMap_cons, List.append_assoc, scanBasic_escape, ih]
    rfl

/-- No character is written with a quote in front. -/
private theorem escape_begins (c : Char) : ∃ head tail, escape c = head :: tail ∧ head ≠ '"' := by
  by_cases quote : c = '"'
  · exact ⟨'\\', ['"'], if_pos quote, by decide⟩
  · rw [escape, if_neg quote]
    repeat' split
    all_goals exact ⟨_, _, rfl, by first | decide | exact quote⟩

/-- No quote comes next. An empty text with a quote after it would begin a text over several
lines. -/
def Apart (rest : List Char) : Prop := rest.head? ≠ some '"'

theorem apart_cons {c : Char} {rest : List Char} : Apart (c :: rest) ↔ c ≠ '"' := by
  simp [Apart]

theorem scanQuoted_quoted (characters : String) {rest : List Char} (apart : Apart rest) :
    scanQuoted (quoted characters ++ rest) = some (characters.toList, rest) := by
  have single : ∀ tail,
      characters.toList.flatMap escape ++ '"' :: rest = '"' :: '"' :: tail → False := by
    intro tail opened
    cases written : characters.toList with
    | nil =>
      rw [written, List.flatMap_nil, List.nil_append] at opened
      exact apart (congrArg List.head? (List.cons.inj opened).2)
    | cons c cs =>
      obtain ⟨head, others, begins, unquoted⟩ := escape_begins c
      rw [written, List.flatMap_cons, begins] at opened
      exact unquoted (List.cons.inj opened).1
  rw [quoted, List.cons_append, List.append_assoc, List.singleton_append, scanQuoted.eq_2 _ single,
    scanBasic_quoted]

/-! ### Parts -/

/-- A character that begins a key or a value: no blank, comment, closing bracket or mark. -/
def Begins (c : Char) : Prop := c ∉ [' ', '\t', '\n', '\r', '#', ']', '}', '\uFEFF']

instance (c : Char) : Decidable (Begins c) := inferInstanceAs (Decidable (_ ∉ _))

/-- A text that is scanned as the value, with all that comes after it left over. -/
structure Spells {α : Type} (scanner : Scanner α) (text : List Char) (value : α) : Prop where
  begins : ∃ c rest, text = c :: rest ∧ Begins c
  scans : ∀ rest, Apart rest → scanner (text ++ rest) = some (value, rest)

/-- A gap takes spaces and stops at the beginning of a key or a value. -/
structure Gap (gap : List Char → Option (List Char)) : Prop where
  space : ∀ rest, gap (' ' :: rest) = gap rest
  stops : ∀ c rest, Begins c → gap (c :: rest) = some (c :: rest)

theorem gap_skipBlanks : Gap (skipBlanks false) where
  space _ := by simp [skipBlanks, isSpace]
  stops c rest begins := by
    simp only [Begins, List.mem_cons, List.not_mem_nil, or_false, not_or] at begins
    obtain ⟨space, tab, newline, ending, comment, -⟩ := begins
    rw [skipBlanks.eq_4 _ _ _ (fun _ same _ => ending same) newline]
    simp [isSpace, space, tab, comment]

theorem gap_skipSpaces : Gap skipSpaces where
  space _ := by simp [skipSpaces, isSpace]
  stops c rest begins := by
    simp only [Begins, List.mem_cons, List.not_mem_nil, or_false, not_or] at begins
    simp [skipSpaces, isSpace, begins]

section Separated

variable {α : Type} {closing : Char} {part : Scanner α}

theorem scanParts_space (bound : Nat) (cs : List Char) :
    scanParts closing part bound (' ' :: cs) = scanParts closing part bound cs := by
  cases bound with
  | zero => rfl
  | succ bound => rw [scanParts, scanParts, gap_skipBlanks.space]

theorem ne_of_begins {c : Char} (begins : Begins c) (bracket : ¬Begins closing) : c ≠ closing := by
  rintro rfl
  exact bracket begins

/-- A part is scanned, and the parts after the comma that follows it. -/
theorem scanParts_more {text : List Char} {value : α} (spells : Spells part text value)
    (bracket : ¬Begins closing) (bound : Nat) (rest : List Char) :
    scanParts closing part (bound + 1) (text ++ ',' :: rest) =
      (scanParts closing part bound rest).map (Prod.map (value :: ·) id) := by
  obtain ⟨c, cs, rfl, begins⟩ := spells.begins
  have scanned := spells.scans (',' :: rest) (apart_cons.mpr (by decide))
  have comma := gap_skipBlanks.stops ',' rest (by decide)
  rw [List.cons_append] at scanned ⊢
  rw [scanParts, gap_skipBlanks.stops c _ begins]
  simp only [Option.bind_eq_bind, Option.bind_some, if_neg (ne_of_begins begins bracket), scanned,
    comma]
  cases scanParts closing part bound rest <;> rfl

/-- The last part is scanned, with the closing bracket after it. -/
theorem scanParts_last {text : List Char} {value : α} (spells : Spells part text value)
    (bracket : ¬Begins closing) {after rest : List Char} (apart : Apart after)
    (closed : skipBlanks false after = some (closing :: rest)) (bound : Nat) :
    scanParts closing part (bound + 1) (text ++ after) = some ([value], rest) := by
  obtain ⟨c, cs, rfl, begins⟩ := spells.begins
  have scanned := spells.scans after apart
  have other : closing ≠ ',' := (ne_of_begins (by decide) bracket).symm
  rw [List.cons_append] at scanned ⊢
  rw [scanParts, gap_skipBlanks.stops c _ begins]
  simp [ne_of_begins begins bracket, scanned, closed]

/-- Parts with commas between them are scanned up to the closing bracket. -/
theorem scanParts_separated {texts : List (List Char)} {values : List α}
    (each : List.Forall₂ (Spells part) texts values) (bracket : ¬Begins closing)
    {after rest : List Char} (apart : Apart after)
    (closed : skipBlanks false after = some (closing :: rest)) (bound : Nat)
    (covers : texts.length < bound) :
    scanParts closing part bound (separated [',', ' '] texts ++ after) = some (values, rest) := by
  induction each generalizing bound with
  | nil =>
    obtain ⟨bound, rfl⟩ := Nat.exists_eq_add_one_of_ne_zero (Nat.ne_of_gt covers)
    simp [separated, scanParts, closed]
  | @cons text value texts values spells tail ih =>
    obtain ⟨bound, rfl⟩ := Nat.exists_eq_add_one_of_ne_zero (Nat.ne_zero_of_lt covers)
    cases tail with
    | nil => exact scanParts_last spells bracket apart closed bound
    | cons next others =>
      have scanned := ih bound (Nat.lt_of_succ_lt_succ covers)
      rw [separated, List.append_assoc, List.append_assoc, List.cons_append, List.singleton_append,
        scanParts_more spells bracket, scanParts_space, scanned]
      · rfl
      · simp

theorem length_le_separated {texts : List (List Char)} {values : List α}
    (each : List.Forall₂ (Spells part) texts values) (separator : List Char) :
    texts.length ≤ (separated separator texts).length := by
  induction each with
  | nil => exact Nat.le_refl _
  | @cons text value texts values spells tail ih =>
    obtain ⟨c, cs, rfl, -⟩ := spells.begins
    cases tail with
    | nil => simp [separated]
    | cons next others =>
      rw [separated]
      · simp only [List.length_cons, List.length_append] at ih ⊢
        omega
      · simp

end Separated

/-! ### Values -/

section Values

variable {depth : Nat} {texts : List (List Char)}

theorem spells_quoted (depth : Nat) (characters : String) :
    Spells (scanValueWithin depth) (quoted characters) (.string characters) := by
  refine ⟨⟨'"', _, rfl, by decide⟩, fun rest apart => ?_⟩
  have scalar (cs : List Char) : scanValueWithin depth ('"' :: cs) = scanScalar ('"' :: cs) := by
    cases depth <;> rfl
  have scanned := scanQuoted_quoted characters apart
  rw [quoted, List.cons_append] at scanned ⊢
  rw [scalar, scanScalar, scanned, Option.map_some]
  simp [Tree.string]

theorem spells_array {items : List Tree}
    (each : List.Forall₂ (Spells (scanValueWithin depth)) texts items) :
    Spells (scanValueWithin (depth + 1)) (array texts) (.list items) := by
  refine ⟨⟨'[', _, rfl, by decide⟩, fun rest _ => ?_⟩
  have closed : skipBlanks false (']' :: rest) = some (']' :: rest) := rfl
  have covers := length_le_separated each [',', ' ']
  have scanned := scanParts_separated each (by decide) (apart_cons.mpr (by decide)) closed
    ((separated [',', ' '] texts ++ ']' :: rest).length + 1) (by simp; omega)
  change scanValueWithin (depth + 1) ('[' :: (separated [',', ' '] texts ++ [']'] ++ rest)) = _
  rw [List.append_assoc, List.singleton_append, scanValueWithin, scanned, Option.map_some]

end Values

/-! ### Members -/

/-- A key that needs no quotes. -/
def Bare (key : String) : Prop := key.toList ≠ [] ∧ key.toList.all isKeyChar = true

instance (key : String) : Decidable (Bare key) := inferInstanceAs (Decidable (_ ∧ _))

theorem Bare.chars {key : String} (bare : Bare key) : ∀ c ∈ key.toList, isKeyChar c = true :=
  List.all_eq_true.mp bare.2

theorem Bare.begins {key : String} (bare : Bare key) :
    ∃ c cs, key.toList = c :: cs ∧ isKeyChar c = true := by
  obtain ⟨c, cs, begins⟩ := List.exists_cons_of_ne_nil bare.1
  exact ⟨c, cs, begins, bare.chars c (begins ▸ List.mem_cons_self)⟩

theorem begins_of_isKeyChar {c : Char} (key : isKeyChar c = true) : Begins c := by
  intro other
  simp only [List.mem_cons, List.not_mem_nil, or_false] at other
  rcases other with rfl | rfl | rfl | rfl | rfl | rfl | rfl | rfl <;> revert key <;> decide

theorem scanKeyPart_bare {key : String} (bare : Bare key) (rest : List Char) :
    scanKeyPart (key.toList ++ ' ' :: rest) = some (key, ' ' :: rest) := by
  have taken : (key.toList ++ ' ' :: rest).takeWhile isKeyChar = key.toList := by
    rw [List.takeWhile_append_of_pos bare.chars]
    simp [isKeyChar, Decimal.isDigit]
  have left : (key.toList ++ ' ' :: rest).dropWhile isKeyChar = ' ' :: rest := by
    rw [List.dropWhile_append_of_pos bare.chars]
    simp [isKeyChar, Decimal.isDigit]
  obtain ⟨c, cs, begins, isKey⟩ := bare.begins
  have unquoted : c ≠ '"' ∧ c ≠ '\'' := by
    constructor <;> rintro rfl <;> exact absurd isKey (by decide)
  rw [begins, List.cons_append] at taken left ⊢
  rw [scanKeyPart.eq_3 _ (fun _ same => unquoted.1 (List.cons.inj same).1)
    (fun _ same => unquoted.2 (List.cons.inj same).1), taken, left, ← begins]
  simp [bare.1]

/-- A bare key is read up to the equals sign, with the space before it. -/
theorem scanKey_bare {key : String} (bare : Bare key) (rest : List Char) :
    scanKey (key.toList ++ ' ' :: '=' :: rest) = some ([key], '=' :: rest) := by
  have start : (key.toList ++ ' ' :: '=' :: rest).dropWhile isSpace =
      key.toList ++ ' ' :: '=' :: rest := by
    obtain ⟨c, cs, begins, isKey⟩ := bare.begins
    have visible := begins_of_isKeyChar isKey
    simp only [Begins, List.mem_cons, not_or] at visible
    rw [begins, List.cons_append, List.dropWhile_cons_of_neg (by simp [isSpace, visible])]
  rw [scanKey, scanKeyWithin, start, scanKeyPart_bare bare]
  simp [isSpace]

theorem spells_pair {gap : List Char → Option (List Char)} {value : Scanner Tree} {key : String}
    {text : List Char} {tree : Tree} (spaces : Gap gap) (bare : Bare key)
    (spells : Spells value text tree) :
    Spells (scanPair gap value) (pair key text) ([key], tree) := by
  obtain ⟨c, cs, begins, isKey⟩ := bare.begins
  refine ⟨⟨c, cs ++ (" = ".toList ++ text), ?_, begins_of_isKeyChar isKey⟩, fun rest apart => ?_⟩
  · rw [pair, begins, List.append_assoc, List.cons_append]
  · obtain ⟨first, others, rfl, visible⟩ := spells.begins
    have scanned := spells.scans rest apart
    have shape : pair key (first :: others) ++ rest =
        key.toList ++ ' ' :: '=' :: (' ' :: (first :: (others ++ rest))) := by
      simp [pair]
    rw [shape, scanPair, scanKey_bare bare]
    rw [List.cons_append] at scanned
    simp [spaces.stops '=' _ (by decide), spaces.space, spaces.stops first _ visible, scanned]

theorem alter_new {key : String} {change : Option Node → Option Node} {entries : Entries}
    (new : key ∉ entries.map Prod.fst) :
    alter key change entries = (change none).map fun node => entries ++ [(key, node)] := by
  induction entries with
  | nil => rfl
  | cons entry entries ih =>
    obtain ⟨held, node⟩ := entry
    simp only [List.map_cons, List.mem_cons, not_or] at new
    rw [alter, if_neg (Ne.symm new.1), ih new.2]
    cases change none <;> rfl

/-- The entries of a table whose keys each have a value. -/
def closedEntries (members : List (String × Tree)) : Entries :=
  members.map fun member => (member.1, .closed member.2)

theorem entriesTree_closed (members : List (String × Tree)) :
    .record (entriesTree (closedEntries members)) = object members := by
  have each : entriesTree (closedEntries members) =
      members.map fun member => (some member.1, member.2) := by
    induction members with
    | nil => rfl
    | cons member members ih =>
      rw [List.map_cons, ← ih]
      rfl
  rw [each, object]

theorem assign_closed {members : List (String × Tree)} {key : String} (tree : Tree)
    (new : key ∉ members.map Prod.fst) :
    assign tree [key] (closedEntries members) = some (closedEntries (members ++ [(key, tree)])) := by
  have absent : key ∉ (closedEntries members).map Prod.fst := by
    rw [closedEntries, List.map_map]
    exact new
  rw [assign, alter_new absent]
  simp [closedEntries]

/-- Members are taken in one after the other, as long as their keys are all different. -/
theorem foldlM_members {σ : Type} {state : List (String × Tree) → σ}
    {step : σ → String × Tree → Option σ}
    (each : ∀ before member, member.1 ∉ before.map Prod.fst →
      step (state before) member = some (state (before ++ [member])))
    (before : List (String × Tree)) {members : List (String × Tree)}
    (distinct : ((before ++ members).map Prod.fst).Nodup) :
    members.foldlM step (state before) = some (state (before ++ members)) := by
  induction members generalizing before with
  | nil => rw [List.append_nil]; rfl
  | cons member members ih =>
    have new : member.1 ∉ before.map Prod.fst := by
      rw [List.map_append, List.map_cons, List.nodup_middle, List.nodup_cons] at distinct
      exact fun held => distinct.1 (List.mem_append_left _ held)
    rw [List.foldlM_cons, each before member new]
    change members.foldlM step (state (before ++ [member])) = _
    rw [ih _ (by rwa [List.append_assoc, List.singleton_append]), List.append_assoc,
      List.singleton_append]

theorem inlineTable_members {members : List (String × Tree)}
    (distinct : (members.map Prod.fst).Nodup) :
    inlineTable (members.map fun member => ([member.1], member.2)) = some (object members) := by
  have entered : members.foldlM (fun entries member => assign member.2 [member.1] entries)
      (closedEntries []) = some (closedEntries members) :=
    foldlM_members (fun _ member new => assign_closed member.2 new) [] distinct
  rw [inlineTable, List.foldlM_map]
  change Option.map _ (members.foldlM _ (closedEntries [])) = _
  rw [entered, Option.map_some, entriesTree_closed]

/-- An inline table is scanned to the record of its members. -/
theorem spells_inlineRecord {depth : Nat} {texts : List (List Char)}
    {members : List (String × Tree)} (distinct : (members.map Prod.fst).Nodup)
    (each : List.Forall₂ (Spells (scanPair (skipBlanks false) (scanValueWithin depth))) texts
      (members.map fun member => ([member.1], member.2))) :
    Spells (scanValueWithin (depth + 1)) (inlineRecord texts) (object members) := by
  refine ⟨⟨'{', _, rfl, by decide⟩, fun rest _ => ?_⟩
  have closed : skipBlanks false (' ' :: '}' :: rest) = some ('}' :: rest) := rfl
  have covers := length_le_separated each [',', ' ']
  have scanned := scanParts_separated each (by decide) (apart_cons.mpr (by decide)) closed
    ((' ' :: (separated [',', ' '] texts ++ ' ' :: '}' :: rest)).length + 1) (by simp; omega)
  change scanValueWithin (depth + 1)
    ('{' :: ' ' :: (separated [',', ' '] texts ++ [' ', '}'] ++ rest)) = _
  rw [List.append_assoc, List.cons_append, List.singleton_append, scanValueWithin,
    scanParts_space, scanned]
  simp [inlineTable_members distinct]

/-! ### Lines -/

theorem spells_line {key : String} {text : List Char} {tree : Tree} (bare : Bare key)
    (spells : Spells scanValue text tree) :
    Spells scanLine (pair key text) (.assignment [key] tree) := by
  have assigned := spells_pair gap_skipSpaces bare spells
  refine ⟨assigned.begins, fun rest apart => ?_⟩
  obtain ⟨c, cs, begins, isKey⟩ := bare.begins
  have unbracketed : c ≠ '[' := by
    rintro rfl
    exact absurd isKey (by decide)
  have scanned := assigned.scans rest apart
  rw [pair, begins, List.append_assoc, List.append_assoc, List.cons_append] at scanned ⊢
  rw [scanLine.eq_3 _ (fun _ same => unbracketed (List.cons.inj same).1)
    (fun _ same => unbracketed (List.cons.inj same).1), scanned]
  rfl

theorem length_le_lines (texts : List (List Char)) :
    texts.length ≤ (texts.flatMap (· ++ ['\n'])).length := by
  induction texts with
  | nil => exact Nat.le_refl _
  | cons text texts ih =>
    simp only [List.flatMap_cons, List.length_append, List.length_cons]
    omega

theorem linesWithin_written {texts : List (List Char)} {lines : List Line}
    (each : List.Forall₂ (Spells scanLine) texts lines) {bound : Nat}
    (covers : texts.length < bound) :
    linesWithin bound (texts.flatMap (· ++ ['\n'])) = some lines := by
  induction each generalizing bound with
  | nil =>
    obtain ⟨bound, rfl⟩ := Nat.exists_eq_add_one_of_ne_zero (Nat.ne_of_gt covers)
    rfl
  | @cons text line texts lines spells _ ih =>
    obtain ⟨bound, rfl⟩ := Nat.exists_eq_add_one_of_ne_zero (Nat.ne_zero_of_lt covers)
    obtain ⟨c, cs, rfl, begins⟩ := spells.begins
    have scanned := spells.scans ('\n' :: texts.flatMap (· ++ ['\n']))
      (apart_cons.mpr (by decide))
    rw [List.flatMap_cons, List.append_assoc, List.singleton_append]
    rw [List.cons_append] at scanned ⊢
    rw [linesWithin, gap_skipBlanks.stops c _ begins]
    simp [scanned, finishLine, ih (Nat.lt_of_succ_lt_succ covers)]

theorem dropMark_written {texts : List (List Char)} {lines : List Line}
    (each : List.Forall₂ (Spells scanLine) texts lines) :
    dropMark (texts.flatMap (· ++ ['\n'])) = texts.flatMap (· ++ ['\n']) := by
  cases each with
  | nil => rfl
  | cons spells _ =>
    obtain ⟨c, cs, rfl, begins⟩ := spells.begins
    refine dropMark.eq_2 _ fun rest same => ?_
    obtain rfl := (List.cons.inj same).1
    exact absurd begins (by decide)

/-- A document in which no header stands. -/
def Assembly.ofMembers (members : List (String × Tree)) : Assembly := ⟨[], closedEntries members⟩

theorem Assembly.add_assignment (members : List (String × Tree)) (member : String × Tree)
    (new : member.1 ∉ members.map Prod.fst) :
    (ofMembers members).add (.assignment [member.1] member.2) =
      some (ofMembers (members ++ [member])) := by
  change Option.map _ (assign _ _ _) = _
  rw [ofMembers, assign_closed member.2 new]
  rfl

/-- Assignments on lines of their own are read as the record of what they assign. -/
theorem tree?_written {texts : List (List Char)} {members : List (String × Tree)}
    (distinct : (members.map Prod.fst).Nodup)
    (each : List.Forall₂ (Spells scanLine) texts
      (members.map fun member => .assignment [member.1] member.2)) :
    tree? (String.ofList (texts.flatMap (· ++ ['\n']))) = some (object members) := by
  have assembled : (members.map fun member => Line.assignment [member.1] member.2).foldlM
      Assembly.add (.ofMembers []) = some (.ofMembers members) := by
    rw [List.foldlM_map]
    exact foldlM_members Assembly.add_assignment [] distinct
  rw [tree?, String.toList_ofList, dropMark_written each]
  simp only [linesWithin_written each (Nat.lt_succ_of_le (length_le_lines texts))]
  change Option.bind (List.foldlM _ (Assembly.ofMembers []) _) _ = _
  rw [assembled, Option.bind_some]
  exact congrArg some (entriesTree_closed members)

end StarReport.Toml
