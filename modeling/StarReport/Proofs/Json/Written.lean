import Mathlib.Data.List.Forall2
import StarReport.Json.Printer
import StarReport.Json.Reader

/-!
Written trees are read back. A text in quotes is scanned to its characters, whatever they are, and a
tree of texts, flags and nulls is written as its tokens, from which reading makes the tree again.
-/

set_option autoImplicit false
set_option relaxedAutoImplicit false

namespace StarReport.Json

/-! ### Quoted texts -/

/-- The characters with an escape of two characters. -/
def shortEscaped : List Char := ['"', '\\', '\x08', '\x0c', '\n', '\r', '\t']

/-- What a written character is scanned to. -/
def unitOf (c : Char) : Unit16 :=
  if c ∉ shortEscaped ∧ c.toNat < 32 then .escaped c.toNat else .char c

private theorem scanText_shortEscaped (rest : List Char) :
    ∀ c ∈ shortEscaped, scanText (escape c ++ rest) = (scanText rest).map (prepend (.char c)) := by
  intro c short
  simp only [shortEscaped, List.mem_cons, List.not_mem_nil, or_false] at short
  rcases short with rfl | rfl | rfl | rfl | rfl | rfl | rfl <;> rfl

private theorem escape_other {c : Char} (long : c ∉ shortEscaped) : escape c =
    if c.toNat < 32 then ['\\', 'u', '0', '0', hexDigit (c.toNat / 16), hexDigit (c.toNat % 16)]
    else [c] := by
  simp only [shortEscaped, List.mem_cons, List.not_mem_nil, or_false, not_or] at long
  simp [escape, long]

/-- Hexadecimal digits are read back. -/
theorem hexValue?_hexDigit : ∀ value < 128,
    hexValue? ['0', '0', hexDigit (value / 16), hexDigit (value % 16)] = some value := by
  decide

private theorem scanText_plain {c : Char} (long : c ∉ shortEscaped) (printed : ¬c.toNat < 32)
    (rest : List Char) : scanText (c :: rest) = (scanText rest).map (prepend (.char c)) := by
  simp only [shortEscaped, List.mem_cons, List.not_mem_nil, or_false, not_or] at long
  obtain ⟨quote, backslash, -⟩ := long
  have unescaped := scanText.eq_5 c rest quote (fun _ _ _ _ _ same _ => backslash same)
    (fun _ _ same _ => backslash same)
  rw [unescaped, if_neg printed]

/-- A character is scanned as one unit, however it is written. -/
theorem scanText_escape (c : Char) (rest : List Char) :
    scanText (escape c ++ rest) = (scanText rest).map (prepend (unitOf c)) := by
  by_cases short : c ∈ shortEscaped
  · rw [unitOf, if_neg fun control => control.1 short]
    exact scanText_shortEscaped rest c short
  · rw [escape_other short]
    by_cases control : c.toNat < 32
    · rw [unitOf, if_pos control, if_pos ⟨short, control⟩]
      change (hexValue? _).bind _ = _
      rw [hexValue?_hexDigit c.toNat (by omega)]
      rfl
    · rw [unitOf, if_neg control, if_neg fun both => control both.2]
      exact scanText_plain short control rest

theorem scanText_quoted (cs rest : List Char) :
    scanText (cs.flatMap escape ++ '"' :: rest) = some (cs.map unitOf, rest) := by
  induction cs with
  | nil => rfl
  | cons c cs ih =>
    rw [List.flatMap_cons, List.append_assoc, scanText_escape, ih]
    rfl

/-- An escaped control character is no half of a pair. -/
private theorem characters?_escaped {c : Char} (control : c.toNat < 32) (units : List Unit16) :
    characters? (.escaped c.toNat :: units) = (characters? units).map (c :: ·) := by
  have alone : (isHighSurrogate c.toNat || isLowSurrogate c.toNat) = false := by
    simp [isHighSurrogate, isLowSurrogate]
    omega
  have unpaired (low : Nat) : (isHighSurrogate c.toNat && isLowSurrogate low) = false := by
    rw [(Bool.or_eq_false_iff.mp alone).1, Bool.false_and]
  cases units with
  | nil => simp [characters?, alone]
  | cons unit units =>
    cases unit with
    | char d => simp [characters?, alone]
    | escaped low => simp [characters?, alone, unpaired low]

theorem characters?_map_unitOf (cs : List Char) : characters? (cs.map unitOf) = some cs := by
  induction cs with
  | nil => rfl
  | cons c cs ih =>
    rw [List.map_cons, unitOf]
    split
    · rename_i control
      rw [characters?_escaped control.2, ih, Option.map_some]
    · rw [characters?, ih, Option.map_some]

/-! ### Tokens of written trees -/

/-- A text has the given tokens. -/
def Scans (cs : List Char) (tokens : List Token) : Prop :=
  ∀ bound, cs.length ≤ bound → tokensWithin bound cs = tokens

theorem scans_nil : Scans [] [] := by
  intro bound _
  cases bound <;> rfl

theorem Scans.tokens_eq {cs : List Char} {tokens : List Token} (scans : Scans cs tokens) :
    Json.tokens cs = tokens := scans _ (Nat.le_refl _)

/-- A text that has the given tokens whatever comes after it. -/
def Spells (text : List Char) (written : List Token) : Prop :=
  ∀ rest tokens, Scans rest tokens → Scans (text ++ rest) (written ++ tokens)

theorem spells_nil : Spells [] [] := fun _ _ scans => scans

theorem Spells.append {text text' : List Char} {written written' : List Token}
    (left : Spells text written) (right : Spells text' written') :
    Spells (text ++ text') (written ++ written') := by
  intro rest tokens scans
  rw [List.append_assoc, List.append_assoc]
  exact left _ _ (right rest tokens scans)

theorem Spells.tokens_eq {text : List Char} {written : List Token} (spells : Spells text written) :
    Json.tokens text = written := by
  have scans := spells [] [] scans_nil
  rw [List.append_nil, List.append_nil] at scans
  exact scans.tokens_eq

/-- A text that is read as one token from its first character on. -/
theorem spells_token {c : Char} {text : List Char} {token : Token} (visible : isBlank c = false)
    (read : ∀ rest, next c (text ++ rest) = some (token, rest)) : Spells (c :: text) [token] := by
  intro rest tokens scans bound covers
  cases bound with
  | zero => simp at covers
  | succ bound =>
    have within : rest.length ≤ bound := by
      simp only [List.cons_append, List.length_cons, List.length_append] at covers
      omega
    rw [List.cons_append, tokensWithin, if_neg (by simp [visible]), read, List.singleton_append]
    exact congrArg (token :: ·) (scans bound within)

theorem spells_quoted (characters : String) :
    Spells (quoted (some characters)) [.text (some characters)] := by
  refine spells_token rfl fun rest => ?_
  change (scanText _).map _ = _
  rw [List.append_assoc, List.singleton_append, Option.getD_some, scanText_quoted, Option.map_some,
    characters?_map_unitOf, Option.map_some, String.ofList_toList]

/-- Entries with commas between them. -/
def commas : List (List Token) → List Token
  | [] => []
  | [entry] => entry
  | entry :: rest => entry ++ .comma :: commas rest

theorem spells_separated {separator : List Char} (comma : Spells separator [.comma])
    {entries : List (List Char)} {written : List (List Token)}
    (each : List.Forall₂ Spells entries written) :
    Spells (separated separator entries) (commas written) := by
  induction each with
  | nil => exact spells_nil
  | @cons entry tokens entries written head tail ih =>
    cases tail with
    | nil => exact head
    | cons next tail =>
      rw [separated, commas, List.append_assoc]
      · exact head.append (comma.append ih)
      · simp
      · simp

theorem spells_comma : Spells [','] [.comma] := spells_token rfl fun _ => rfl

mutual

/-- The tokens that a tree without numbers is written as. -/
def tokensOf : Tree → List Token
  | .null => [.null]
  | .flag value => [.flag value]
  | .text characters => [.text characters]
  | .list items => .openList :: (commas (itemTokens items) ++ [.closeList])
  | .record members => .openRecord :: (commas (memberTokens members) ++ [.closeRecord])
  | _ => []

def itemTokens : List Tree → List (List Token)
  | [] => []
  | item :: rest => tokensOf item :: itemTokens rest

def memberTokens : List (Characters × Tree) → List (List Token)
  | [] => []
  | (key, value) :: rest => (.text key :: .colon :: tokensOf value) :: memberTokens rest

end

mutual

/-- Trees of whole texts, flags and nulls. -/
def plain : Tree → Bool
  | .null => true
  | .flag _ => true
  | .text characters => characters.isSome
  | .list items => plainItems items
  | .record members => plainMembers members
  | _ => false

def plainItems : List Tree → Bool
  | [] => true
  | item :: rest => plain item && plainItems rest

def plainMembers : List (Characters × Tree) → Bool
  | [] => true
  | (key, value) :: rest => key.isSome && plain value && plainMembers rest

end

mutual

theorem spells_compact : ∀ tree : Tree, plain tree = true → Spells (compact tree) (tokensOf tree)
  | .null, _ => spells_token rfl fun _ => rfl
  | .flag true, _ => spells_token rfl fun _ => rfl
  | .flag false, _ => spells_token rfl fun _ => rfl
  | .text (some characters), _ => spells_quoted characters
  | .list items, isPlain => by
    have opening : Spells ['['] [.openList] := spells_token rfl fun _ => rfl
    have closing : Spells [']'] [.closeList] := spells_token rfl fun _ => rfl
    exact opening.append ((spells_separated spells_comma
      (spells_items items isPlain)).append closing)
  | .record members, isPlain => by
    have opening : Spells ['{'] [.openRecord] := spells_token rfl fun _ => rfl
    have closing : Spells ['}'] [.closeRecord] := spells_token rfl fun _ => rfl
    exact opening.append ((spells_separated spells_comma
      (spells_members members isPlain)).append closing)

theorem spells_items : ∀ items : List Tree, plainItems items = true →
    List.Forall₂ Spells (compactItems items) (itemTokens items)
  | [], _ => .nil
  | item :: rest, isPlain => by
    obtain ⟨head, tail⟩ := Bool.and_eq_true_iff.mp isPlain
    exact .cons (spells_compact item head) (spells_items rest tail)

theorem spells_members : ∀ members : List (Characters × Tree), plainMembers members = true →
    List.Forall₂ Spells (compactMembers members) (memberTokens members)
  | [], _ => .nil
  | (some key, value) :: rest, isPlain => by
    obtain ⟨head, tail⟩ := Bool.and_eq_true_iff.mp isPlain
    have colon : Spells [':'] [.colon] := spells_token rfl fun _ => rfl
    exact .cons ((spells_quoted key).append (colon.append (spells_compact value head)))
      (spells_members rest tail)

end

/-! ### Reading the tokens -/

private theorem tokensOf_begins : ∀ tree : Tree, plain tree = true →
    ∃ head rest, tokensOf tree = head :: rest ∧ head ≠ .closeList
  | .null, _ => ⟨.null, [], rfl, by decide⟩
  | .flag value, _ => ⟨.flag value, [], rfl, fun same => by cases same⟩
  | .text (some characters), _ => ⟨.text (some characters), [], rfl, fun same => by cases same⟩
  | .list items, _ => ⟨.openList, _, rfl, by decide⟩
  | .record members, _ => ⟨.openRecord, _, rfl, by decide⟩

private theorem commas_begins {first : List Token} (others : List (List Token)) (tail : List Token)
    {head : Token} {rest : List Token} (begins : first = head :: rest) :
    ∃ rest', commas (first :: others) ++ tail = head :: rest' := by
  subst begins
  cases others with
  | nil => exact ⟨rest ++ tail, rfl⟩
  | cons next others => exact ⟨_, rfl⟩

private theorem value_openList (bound : Nat) {head : Token} (rest : List Token)
    (other : head ≠ .closeList) : value (bound + 1) (.openList :: head :: rest) =
      (.list (listItems bound (head :: rest)).1, (listItems bound (head :: rest)).2) := by
  cases head <;> first | rfl | exact absurd rfl other

private theorem value_openRecord (bound : Nat) (key : Characters) (rest : List Token) :
    value (bound + 1) (.openRecord :: .text key :: rest) =
      (.record (recordMembers bound (.text key :: rest)).1,
        (recordMembers bound (.text key :: rest)).2) := rfl

mutual

/-- Reading makes a tree again from its tokens. -/
theorem value_tokensOf : ∀ tree : Tree, plain tree = true → ∀ (bound : Nat) (rest : List Token),
    2 * (tokensOf tree).length ≤ bound → value bound (tokensOf tree ++ rest) = (tree, rest)
  | .null, _, bound + 1, rest, _ => rfl
  | .flag flag, _, bound + 1, rest, _ => rfl
  | .text (some characters), _, bound + 1, rest, _ => rfl
  | .list [], _, bound + 1, rest, _ => rfl
  | .list (item :: items), isPlain, bound + 1, rest, covers => by
    have inner : 2 * ((commas (itemTokens (item :: items))).length + 1) ≤ bound := by
      simp only [tokensOf, List.length_cons, List.length_append, List.length_nil] at covers
      omega
    have read := listItems_tokens item items isPlain bound rest inner
    obtain ⟨head, tail, begins, other⟩ :=
      tokensOf_begins item (Bool.and_eq_true_iff.mp isPlain).1
    obtain ⟨more, same⟩ := commas_begins (itemTokens items) (.closeList :: rest) begins
    rw [tokensOf, List.cons_append, List.append_assoc, List.singleton_append]
    rw [itemTokens] at read ⊢
    rw [same] at read ⊢
    rw [value_openList bound more other, read]
  | .record [], _, bound + 1, rest, _ => rfl
  | .record ((some key, item) :: members), isPlain, bound + 1, rest, covers => by
    have inner : 2 * ((commas (memberTokens ((some key, item) :: members))).length + 1) ≤
        bound := by
      simp only [tokensOf, List.length_cons, List.length_append, List.length_nil] at covers
      omega
    have read := recordMembers_tokens key item members isPlain bound rest inner
    obtain ⟨more, same⟩ := commas_begins (memberTokens members) (.closeRecord :: rest)
      (rfl : .text (some key) :: .colon :: tokensOf item = _)
    rw [tokensOf, List.cons_append, List.append_assoc, List.singleton_append]
    rw [memberTokens] at read ⊢
    rw [same] at read ⊢
    rw [value_openRecord, read]

theorem listItems_tokens : ∀ (item : Tree) (items : List Tree), plainItems (item :: items) = true →
    ∀ (bound : Nat) (rest : List Token),
      2 * ((commas (itemTokens (item :: items))).length + 1) ≤ bound →
        listItems bound (commas (itemTokens (item :: items)) ++ .closeList :: rest) =
          (item :: items, rest)
  | item, [], isPlain, bound + 1, rest, covers => by
    have within : 2 * (tokensOf item).length ≤ bound := by
      simp only [itemTokens, commas] at covers
      omega
    have read := value_tokensOf item (Bool.and_eq_true_iff.mp isPlain).1 bound
      (.closeList :: rest) within
    rw [itemTokens, itemTokens, commas, listItems, read]
  | item, next :: items, isPlain, bound + 1, rest, covers => by
    obtain ⟨head, tail⟩ := Bool.and_eq_true_iff.mp isPlain
    have length : (commas (itemTokens (item :: next :: items))).length =
        (tokensOf item).length + 1 + (commas (itemTokens (next :: items))).length := by
      simp only [itemTokens, commas, List.length_append, List.length_cons]
      omega
    have split : commas (itemTokens (item :: next :: items)) ++ .closeList :: rest =
        tokensOf item ++ .comma :: (commas (itemTokens (next :: items)) ++ .closeList :: rest) := by
      simp only [itemTokens, commas, List.append_assoc, List.cons_append]
    have read := value_tokensOf item head bound
      (.comma :: (commas (itemTokens (next :: items)) ++ .closeList :: rest)) (by omega)
    have others := listItems_tokens next items tail bound rest (by omega)
    rw [split, listItems, read]
    simp only [others]

theorem recordMembers_tokens : ∀ (key : String) (item : Tree)
    (members : List (Characters × Tree)), plainMembers ((some key, item) :: members) = true →
    ∀ (bound : Nat) (rest : List Token),
      2 * ((commas (memberTokens ((some key, item) :: members))).length + 1) ≤ bound →
        recordMembers bound
          (commas (memberTokens ((some key, item) :: members)) ++ .closeRecord :: rest) =
            ((some key, item) :: members, rest)
  | key, item, [], isPlain, bound + 1, rest, covers => by
    have within : 2 * (tokensOf item).length ≤ bound := by
      simp only [memberTokens, commas, List.length_cons] at covers
      omega
    have read := value_tokensOf item (Bool.and_eq_true_iff.mp isPlain).1 bound
      (.closeRecord :: rest) within
    rw [memberTokens, memberTokens, commas, List.cons_append, List.cons_append, recordMembers, read]
  | key, item, (none, other) :: members, isPlain, _, _, _ => by
    simp [plainMembers] at isPlain
  | key, item, (some next, other) :: members, isPlain, bound + 1, rest, covers => by
    obtain ⟨head, tail⟩ := Bool.and_eq_true_iff.mp isPlain
    have length : (commas (memberTokens ((some key, item) :: (some next, other) :: members))).length =
        (tokensOf item).length + 3 +
          (commas (memberTokens ((some next, other) :: members))).length := by
      simp only [memberTokens, commas, List.length_append, List.length_cons]
      omega
    have split : commas (memberTokens ((some key, item) :: (some next, other) :: members)) ++
        .closeRecord :: rest = .text (some key) :: .colon :: (tokensOf item ++ .comma ::
          (commas (memberTokens ((some next, other) :: members)) ++ .closeRecord :: rest)) := by
      simp only [memberTokens, commas, List.append_assoc, List.cons_append]
    have read := value_tokensOf item head bound
      (.comma :: (commas (memberTokens ((some next, other) :: members)) ++ .closeRecord :: rest))
      (by omega)
    have others := recordMembers_tokens next other members tail bound rest (by omega)
    rw [split, recordMembers, read]
    simp only [others]

end

mutual

/-- Nothing is broken in a plain tree, and no number is too large to be held. -/
theorem whole_of_plain : ∀ tree : Tree, plain tree = true →
    tree.intact = true ∧ tree.held = true
  | .null, _ => ⟨rfl, rfl⟩
  | .flag _, _ => ⟨rfl, rfl⟩
  | .text _, _ => ⟨rfl, rfl⟩
  | .list items, isPlain => wholeItems_of_plain items isPlain
  | .record members, isPlain => wholeMembers_of_plain members isPlain

theorem wholeItems_of_plain : ∀ items : List Tree, plainItems items = true →
    Tree.intactItems items = true ∧ Tree.heldItems items = true
  | [], _ => ⟨rfl, rfl⟩
  | item :: items, isPlain => by
    obtain ⟨head, tail⟩ := Bool.and_eq_true_iff.mp isPlain
    obtain ⟨intact, held⟩ := whole_of_plain item head
    obtain ⟨intact', held'⟩ := wholeItems_of_plain items tail
    exact ⟨Bool.and_eq_true_iff.mpr ⟨intact, intact'⟩, Bool.and_eq_true_iff.mpr ⟨held, held'⟩⟩

theorem wholeMembers_of_plain : ∀ members : List (Characters × Tree),
    plainMembers members = true →
      Tree.intactMembers members = true ∧ Tree.heldMembers members = true
  | [], _ => ⟨rfl, rfl⟩
  | (some key, item) :: members, isPlain => by
    obtain ⟨head, tail⟩ := Bool.and_eq_true_iff.mp isPlain
    obtain ⟨intact, held⟩ := whole_of_plain item head
    obtain ⟨intact', held'⟩ := wholeMembers_of_plain members tail
    exact ⟨Bool.and_eq_true_iff.mpr ⟨intact, intact'⟩, Bool.and_eq_true_iff.mpr ⟨held, held'⟩⟩

end

theorem plain_string (characters : String) : plain (Tree.string characters) = true := rfl

theorem plain_list {items : List Tree} :
    plain (.list items) = true ↔ ∀ item ∈ items, plain item = true := by
  change plainItems items = true ↔ _
  induction items with
  | nil => simp [plainItems]
  | cons item items ih => rw [plainItems, Bool.and_eq_true, ih, List.forall_mem_cons]

theorem plain_object {members : List (String × Tree)} :
    plain (Tree.object members) = true ↔ ∀ member ∈ members, plain member.2 = true := by
  change plainMembers (members.map _) = true ↔ _
  induction members with
  | nil => simp [plainMembers]
  | cons member members ih =>
    rw [List.map_cons, plainMembers, Option.isSome_some, Bool.true_and, Bool.and_eq_true, ih,
      List.forall_mem_cons]

/-- A text that is spelled as the tokens of a tree is read as this tree. -/
theorem tree?_of_spells {tree : Tree} (isPlain : plain tree = true) {text : List Char}
    (spells : Spells text (tokensOf tree)) : tree? (String.ofList text) = some tree := by
  have result : read (String.ofList text) = (tree, []) := by
    have made := value_tokensOf tree isPlain (2 * (tokensOf tree).length + 1) []
      (Nat.le_succ _)
    rw [List.append_nil] at made
    rw [read, String.toList_ofList, spells.tokens_eq]
    exact made
  rw [tree?, result]
  simp [(whole_of_plain tree isPlain).1]

/-- A tree of texts, flags and nulls is read back from what it is written as. -/
theorem tree?_write {tree : Tree} (isPlain : plain tree = true) :
    tree? (write tree) = some tree :=
  tree?_of_spells isPlain (spells_compact tree isPlain)

/-- A tree of texts, flags and nulls is known by what it is written as. -/
theorem eq_of_write {tree? : Option Tree} {tree : Tree} (isPlain : plain tree = true)
    (same : (tree?.map fun tree => (plain tree, write tree)) = some (true, write tree)) :
    tree? = some tree := by
  obtain ⟨other, rfl, written⟩ := Option.map_eq_some_iff.mp same
  obtain ⟨isPlain', written⟩ := Prod.mk.inj written
  rw [← tree?_write isPlain, ← tree?_write isPlain', written]

end StarReport.Json
