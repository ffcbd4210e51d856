import Mathlib.Data.List.Find
import Mathlib.Data.List.TakeWhile
import StarReport.Proofs.FirstFailure
import StarReport.Settings.Expansion

/-!
Expansion is one substitution from the left. What a text splits into is said here without saying how
it is found: every text splits in one way only, expansion puts the parts together with the values of
the variables they refer to, and it fails with the first of these that is not set. A text that ends
where a part ends is expanded apart from what follows it.
-/

set_option autoImplicit false
set_option relaxedAutoImplicit false

namespace StarReport.Settings

/-- What a dollar sign before the text begins, and what is left of the text. -/
inductive Refers : List Char → Segment → List Char → Prop
  | closed {name rest : List Char} : '}' ∉ name →
      Refers ('{' :: (name ++ '}' :: rest)) (.braced name true) rest
  | unclosed {name : List Char} : '}' ∉ name → Refers ('{' :: name) (.braced name false) []
  | bare {name rest : List Char} : name ≠ [] → (∀ c ∈ name, isNameChar c = true) →
      (∀ c ∈ rest.head?, isNameChar c = false) → Refers (name ++ rest) (.bare name) rest
  | dollar {rest : List Char} : (∀ c ∈ rest.head?, c ≠ '{' ∧ isNameChar c = false) →
      Refers rest .dollar rest

/-- The parts of a text, from the left. -/
inductive Splits : List Char → List Segment → Prop
  | nil : Splits [] []
  | literal {c : Char} {rest : List Char} {parts : List Segment} :
      c ≠ '$' → Splits rest parts → Splits (c :: rest) (.literal c :: parts)
  | reference {cs rest : List Char} {part : Segment} {parts : List Segment} :
      Refers cs part rest → Splits rest parts → Splits ('$' :: cs) (part :: parts)

/-- Nothing that follows a text with these parts can belong to the last of them: it is no reference
whose brace is open, and a name or a single dollar sign is not continued. -/
structure Ends (parts : List Segment) (following : List Char) : Prop where
  closed : ∀ name, parts.getLast? ≠ some (.braced name false)
  apart : ((∀ name, parts.getLast? ≠ some (.bare name)) ∧ parts.getLast? ≠ some .dollar) ∨
    ∀ c ∈ following.head?, c ≠ '{' ∧ isNameChar c = false

namespace Segment

/-- The variable that a part refers to. -/
def name? : Segment → Option String
  | literal _ => none
  | braced name _ => some (String.ofList name)
  | bare name => some (String.ofList name)
  | dollar => none

/-- What stands for the part in the result: the value of its variable, or the part itself. -/
def output (environment : Environment) : Segment → List Char
  | literal c => [c]
  | braced name _ => ((environment.value? (String.ofList name)).map String.toList).getD []
  | bare name => ((environment.value? (String.ofList name)).map String.toList).getD []
  | dollar => ['$']

end Segment

/-- The variables that the parts refer to, from the left. -/
def references (parts : List Segment) : List String := parts.filterMap Segment.name?

/-! ### One part -/

private theorem span_eq {p : Char → Bool} {name rest : List Char} (inside : ∀ c ∈ name, p c = true)
    (outside : ∀ c ∈ rest.head?, p c = false) :
    (name ++ rest).takeWhile p = name ∧ (name ++ rest).dropWhile p = rest := by
  rw [List.takeWhile_append_of_pos inside, List.dropWhile_append_of_pos inside]
  cases rest with
  | nil => simp
  | cons c rest => simp [outside c rfl]

private theorem exists_span (p : Char → Bool) (cs : List Char) : ∃ name rest, cs = name ++ rest ∧
    (∀ c ∈ name, p c = true) ∧ ∀ c ∈ rest.head?, p c = false := by
  refine ⟨cs.takeWhile p, cs.dropWhile p, List.takeWhile_append_dropWhile.symm,
    fun c member => List.mem_takeWhile_imp member, fun c first => ?_⟩
  have outside := List.head?_dropWhile_not p cs
  rwa [first] at outside

theorem isNameChar_brace : isNameChar '{' = false := by decide +kernel

theorem Refers.reference_eq {cs rest : List Char} {part : Segment} (refers : Refers cs part rest) :
    reference cs = (part, rest) := by
  have inside {name : List Char} (free : '}' ∉ name) :
      ∀ c ∈ name, decide (c ≠ '}') = true := by
    intro c member
    rw [decide_eq_true_eq]
    rintro rfl
    exact free member
  cases refers with
  | @closed name _ free =>
    obtain ⟨taken, dropped⟩ := @span_eq (· ≠ '}') name ('}' :: rest) (inside free) (by simp)
    rw [reference, taken, dropped]
    rfl
  | @unclosed name free =>
    obtain ⟨taken, dropped⟩ := @span_eq (· ≠ '}') name [] (inside free) (by simp)
    rw [List.append_nil] at taken dropped
    rw [reference, taken, dropped]
    rfl
  | @bare name _ some_name inside outside =>
    obtain ⟨taken, dropped⟩ := span_eq inside outside
    have other : ∀ after, name ++ rest ≠ '{' :: after := by
      intro after same
      obtain ⟨c, name', rfl⟩ := List.exists_cons_of_ne_nil some_name
      obtain rfl : c = '{' := (List.cons.inj same).1
      exact absurd (inside _ List.mem_cons_self) (by simp [isNameChar_brace])
    rw [reference.eq_2 _ other, taken, dropped, if_neg (by simpa using some_name)]
  | dollar outside =>
    obtain ⟨taken, -⟩ := @span_eq isNameChar [] cs (by simp) fun c first => (outside c first).2
    have other : ∀ after, cs ≠ '{' :: after := by
      rintro after rfl
      exact (outside '{' rfl).1 rfl
    rw [List.nil_append] at taken
    rw [reference.eq_2 _ other, taken]
    rfl

theorem exists_refers (cs : List Char) : ∃ part rest, Refers cs part rest := by
  by_cases brace : ∃ after, cs = '{' :: after
  · obtain ⟨after, rfl⟩ := brace
    obtain ⟨name, rest, rfl, inside, outside⟩ := exists_span (· ≠ '}') after
    have free : '}' ∉ name := fun member => by simpa using inside '}' member
    cases rest with
    | nil => exact ⟨_, _, by simpa using Refers.unclosed free⟩
    | cons c rest =>
      obtain rfl : c = '}' := by simpa using outside c rfl
      exact ⟨_, _, .closed free⟩
  · obtain ⟨name, rest, rfl, inside, outside⟩ := exists_span isNameChar cs
    cases name with
    | cons c name => exact ⟨_, _, .bare (by simp) inside outside⟩
    | nil =>
      refine ⟨_, _, .dollar fun c first => ⟨?_, outside c first⟩⟩
      rintro rfl
      obtain ⟨after, same⟩ := List.head?_eq_some_iff.mp first
      exact brace ⟨after, same⟩

theorem refers_iff {cs rest : List Char} {part : Segment} :
    Refers cs part rest ↔ reference cs = (part, rest) := by
  refine ⟨Refers.reference_eq, fun found => ?_⟩
  obtain ⟨part', rest', refers⟩ := exists_refers cs
  cases refers.reference_eq.symm.trans found
  exact refers

/-! ### The parts of a text -/

theorem splits_iff {cs : List Char} {parts : List Segment} :
    Splits cs parts ↔ parts = segments cs := by
  constructor
  · intro splits
    induction splits with
    | nil => rw [segments]
    | literal plain _ ih => rw [segments, if_neg plain, ih]
    | reference refers _ ih => rw [segments, if_pos rfl, refers.reference_eq, ih]
  · rintro rfl
    fun_induction segments cs with
    | case1 => exact .nil
    | case2 rest ih => exact .reference (refers_iff.mpr rfl) ih
    | case3 c rest plain ih => exact .literal plain ih

theorem existsUnique_splits (cs : List Char) : ∃! parts, Splits cs parts :=
  ⟨segments cs, splits_iff.mpr rfl, fun _ splits => splits_iff.mp splits⟩

/-! ### Texts that follow one another -/

theorem Ends.of_cons {part : Segment} {parts : List Segment} {following : List Char}
    (ends : Ends (part :: parts) following) : Ends parts following := by
  cases parts with
  | nil => constructor <;> simp
  | cons next parts => exact ⟨ends.closed, ends.apart⟩

/-- A part is what it is whatever comes after the text, if it is not the last part or the text ends
with it. -/
theorem Refers.append {cs rest following : List Char} {part : Segment}
    (refers : Refers cs part rest) (ends : rest = [] → Ends [part] following) :
    Refers (cs ++ following) part (rest ++ following) := by
  have head {allowed : Char → Prop} (inside : ∀ c ∈ rest.head?, allowed c)
      (outside : rest = [] → ∀ c ∈ following.head?, allowed c) :
      ∀ c ∈ (rest ++ following).head?, allowed c := by
    cases rest with
    | nil => exact outside rfl
    | cons d rest => exact inside
  cases refers with
  | closed free => simpa using Refers.closed free
  | unclosed free => exact absurd rfl ((ends rfl).closed _)
  | bare some_name inside outside =>
    rw [List.append_assoc]
    refine .bare some_name inside (head outside fun last c first => ?_)
    rcases (ends last).apart with ⟨other, _⟩ | apart
    · exact absurd rfl (other _)
    · exact (apart c first).2
  | dollar outside =>
    refine .dollar (head outside fun last c first => ?_)
    rcases (ends last).apart with ⟨_, other⟩ | apart
    · exact absurd rfl other
    · exact apart c first

theorem Splits.append {cs following : List Char} {parts more : List Segment}
    (splits : Splits cs parts) (ends : Ends parts following) (splits' : Splits following more) :
    Splits (cs ++ following) (parts ++ more) := by
  induction splits with
  | nil => exact splits'
  | literal plain _ ih => exact .literal plain (ih ends.of_cons)
  | reference refers rest ih =>
    refine .reference (refers.append ?_) (ih ends.of_cons)
    rintro rfl
    cases rest
    exact ends

/-! ### Substitution -/

variable {environment : Environment}

theorem Segment.expand_eq (part : Segment) : part.expand environment =
    if part.name?.any fun name => (environment.value? name).isNone then
      .error (part.name?.getD "")
    else .ok (part.output environment) := by
  cases part with
  | literal c => rfl
  | dollar => rfl
  | braced name closed =>
    cases found : environment.value? (String.ofList name) <;>
      simp [expand, resolve, name?, output, found]
  | bare name =>
    cases found : environment.value? (String.ofList name) <;>
      simp [expand, resolve, name?, output, found]

theorem Segment.output_congr {other : Environment} {part : Segment}
    (agree : ∀ name ∈ part.name?, other.value? name = environment.value? name) :
    part.output other = part.output environment := by
  cases part with
  | literal c => rfl
  | dollar => rfl
  | braced name closed => simp only [output, agree _ rfl]
  | bare name => simp only [output, agree _ rfl]

section

variable {text : String} {parts : List Segment}

/-- The values put together, or the first variable that is not set. -/
theorem expand_of_splits (splits : Splits text.toList parts) : expand environment text =
      match (references parts).find? fun name => (environment.value? name).isNone with
      | some name => .error name
      | none => .ok (String.ofList (parts.flatMap (Segment.output environment))) := by
  rw [expand, ← splits_iff.mp splits, FirstFailure.mapM_eq Segment.expand_eq, references,
    List.find?_filterMap]
  cases refused : parts.find? fun part =>
      part.name?.any fun name => (environment.value? name).isNone with
  | none => rfl
  | some part =>
    have unset := List.find?_some refused
    cases named : part.name? with
    | none => simp [named] at unset
    | some name =>
      simp only [Option.bind_some, named]
      rfl

theorem expand_eq_ok (splits : Splits text.toList parts) {result : String} :
    expand environment text = .ok result ↔
      (∀ name ∈ references parts, environment.value? name ≠ none) ∧
        result = String.ofList (parts.flatMap (Segment.output environment)) := by
  rw [expand_of_splits splits]
  cases found : (references parts).find? fun name => (environment.value? name).isNone with
  | some name =>
    have unset : environment.value? name = none := by simpa using List.find?_some found
    simpa using fun set => absurd unset (set name (List.mem_of_find?_eq_some found))
  | none =>
    have set : ∀ name ∈ references parts, environment.value? name ≠ none := by
      simpa using List.find?_eq_none.mp found
    rw [and_iff_right set, Except.ok.injEq, eq_comm]

theorem expand_eq_error (splits : Splits text.toList parts) {name : String} :
    expand environment text = .error name ↔
      ∃ before after, references parts = before ++ name :: after ∧
        environment.value? name = none ∧
        ∀ earlier ∈ before, environment.value? earlier ≠ none := by
  have first : expand environment text = .error name ↔
      ((references parts).find? fun name => (environment.value? name).isNone) = some name := by
    rw [expand_of_splits splits]
    cases (references parts).find? fun name => (environment.value? name).isNone <;> simp
  rw [first, List.find?_eq_some_iff_append]
  simp only [Option.isNone_iff_eq_none, Bool.not_eq_true', Option.isNone_eq_false_iff,
    Option.isSome_iff_ne_none]
  constructor
  · rintro ⟨unset, before, after, split, set⟩
    exact ⟨before, after, split, unset, set⟩
  · rintro ⟨before, after, split, unset, set⟩
    exact ⟨unset, before, after, split, set⟩

theorem exists_expand_eq_error (splits : Splits text.toList parts) :
    (∃ name, expand environment text = .error name) ↔
      ∃ name ∈ references parts, environment.value? name = none := by
  constructor
  · rintro ⟨name, failed⟩
    obtain ⟨before, after, split, unset, _⟩ := (expand_eq_error splits).mp failed
    exact ⟨name, by simp [split], unset⟩
  · rintro ⟨name, member, unset⟩
    cases outcome : expand environment text with
    | error cause => exact ⟨cause, rfl⟩
    | ok result => exact absurd unset (((expand_eq_ok splits).mp outcome).1 name member)

/-- Only the variables that a text refers to matter. -/
theorem expand_congr (splits : Splits text.toList parts) {other : Environment}
    (agree : ∀ name ∈ references parts, other.value? name = environment.value? name) :
    expand other text = expand environment text := by
  have unset : ((references parts).find? fun name => (other.value? name).isNone) =
      (references parts).find? fun name => (environment.value? name).isNone :=
    List.find?_congr fun name member => by rw [agree name member]
  have outputs : parts.flatMap (Segment.output other) =
      parts.flatMap (Segment.output environment) :=
    List.flatMap_congr fun part member => Segment.output_congr fun name refers =>
      agree name (List.mem_filterMap.mpr ⟨part, member, refers⟩)
  rw [expand_of_splits splits, expand_of_splits splits, unset, outputs]

theorem expand_append {more : String} (splits : Splits text.toList parts)
    (ends : Ends parts more.toList) : expand environment (text ++ more) = do
      let front ← expand environment text
      let back ← expand environment more
      return front ++ back := by
  have both := splits.append ends (splits_iff.mpr rfl)
  rw [expand, expand, expand, String.toList_append, ← splits_iff.mp both, ← splits_iff.mp splits,
    List.mapM_append]
  cases parts.mapM (Segment.expand environment) with
  | error name => rfl
  | ok front =>
    cases (segments more.toList).mapM (Segment.expand environment) with
    | error name => rfl
    | ok back => simp [bind, Except.bind, Except.map, pure, Except.pure]

end

/-- A text splits in one way only. It is expanded exactly where every variable that its parts refer to
is set, to what stands for the parts put together; otherwise the first of these variables that is not
set is the error. No other variable matters, and a text that ends with its last part is expanded apart
from what follows it. -/
theorem substitution_of_splits (environment : Environment) (text : String) :
    (∃! parts, Splits text.toList parts) ∧ ∀ parts, Splits text.toList parts →
      (∀ result, expand environment text = .ok result ↔
        (∀ name ∈ references parts, environment.value? name ≠ none) ∧
          result = String.ofList (parts.flatMap (Segment.output environment))) ∧
      ((∃ name, expand environment text = .error name) ↔
        ∃ name ∈ references parts, environment.value? name = none) ∧
      (∀ name, expand environment text = .error name ↔
        ∃ before after, references parts = before ++ name :: after ∧
          environment.value? name = none ∧
          ∀ earlier ∈ before, environment.value? earlier ≠ none) ∧
      (∀ other : Environment,
        (∀ name ∈ references parts, other.value? name = environment.value? name) →
          expand other text = expand environment text) ∧
      ∀ more : String, Ends parts more.toList → expand environment (text ++ more) = do
        let front ← expand environment text
        let back ← expand environment more
        return front ++ back := by
  refine ⟨existsUnique_splits text.toList, fun parts splits => ⟨?_, ?_, ?_, ?_, ?_⟩⟩
  · exact fun result => expand_eq_ok splits
  · exact exists_expand_eq_error splits
  · exact fun name => expand_eq_error splits
  · exact fun other agree => expand_congr splits agree
  · exact fun more ends => expand_append splits ends

/-- One variable is set, and its value looks like a reference. -/
private def nested : Environment :=
  ⟨fun name => if name = "A" then some "$\x7bA\x7d" else none, none⟩

/-- The value is not scanned again, a single dollar sign before a slash is kept, and the reference
without a name is the first that is not set. -/
theorem substitution_of_nested :
    Splits "$A/$".toList [.bare ['A'], .literal '/', .dollar] ∧
    Ends [.bare ['A'], .literal '/', .dollar] "/$\x7b\x7d$B".toList ∧
    expand nested "$A/$" = .ok "$\x7bA\x7d/$" ∧
    expand nested "/$\x7b\x7d$B" = .error "" ∧
    expand nested ("$A/$" ++ "/$\x7b\x7d$B") = .error "" := by
  have inside : isNameChar 'A' = true ∧ isNameChar 'B' = true := by decide +kernel
  have outside : isNameChar '/' = false := by decide +kernel
  have name : Refers ['A', '/', '$'] (.bare ['A']) ['/', '$'] :=
    @Refers.bare ['A'] ['/', '$'] (by simp) (by simp [inside]) (by simp [outside])
  have splits : Splits "$A/$".toList [.bare ['A'], .literal '/', .dollar] :=
    .reference name (.literal (by decide) (.reference (.dollar (by simp)) .nil))
  have ends : Ends [.bare ['A'], .literal '/', .dollar] "/$\x7b\x7d$B".toList :=
    ⟨by simp, .inr (by simp [outside])⟩
  have empty : Refers ['{', '}', '$', 'B'] (.braced [] true) ['$', 'B'] :=
    @Refers.closed [] ['$', 'B'] (by simp)
  have last : Refers ['B'] (.bare ['B']) [] :=
    @Refers.bare ['B'] [] (by simp) (by simp [inside]) (by simp)
  have splits' : Splits "/$\x7b\x7d$B".toList [.literal '/', .braced [] true, .bare ['B']] :=
    .literal (by decide) (.reference empty (.reference last .nil))
  obtain ⟨succeeds, _, _, _, follows⟩ := (substitution_of_splits nested "$A/$").2 _ splits
  obtain ⟨_, _, fails, _, _⟩ := (substitution_of_splits nested "/$\x7b\x7d$B").2 _ splits'
  have front : expand nested "$A/$" = .ok "$\x7bA\x7d/$" :=
    (succeeds _).mpr ⟨by decide, by decide⟩
  have back : expand nested "/$\x7b\x7d$B" = .error "" :=
    (fails "").mpr ⟨[], ["B"], by decide, by decide, by simp⟩
  refine ⟨splits, ends, front, back, ?_⟩
  rw [follows _ ends, front, back]
  rfl

end StarReport.Settings
