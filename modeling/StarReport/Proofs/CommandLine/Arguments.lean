import StarReport.CommandLine.Arguments

/-!
Arguments for a report. Whatever the names are, empty ones and those with dashes and equals signs
included, there are arguments that ask for just these names on a path: each name stands in one word
with its option, and two dashes come before the path.
-/

set_option autoImplicit false
set_option relaxedAutoImplicit false

namespace StarReport.CommandLine

/-- Arguments that ask for names on a path. -/
def compileArguments (path : String) (dimensions measures : List String) : List String :=
  "compile" :: (dimensions.map ("--dimension=" ++ ·) ++
    (measures.map ("--measure=" ++ ·) ++ ["--", path]))

private theorem of_dimension (name : String) :
    Word.of ("--dimension=" ++ name) = .long "dimension" (some name) := by
  simp [Word.of]

private theorem of_measure (name : String) :
    Word.of ("--measure=" ++ name) = .long "measure" (some name) := by
  simp [Word.of]

variable {before given : Given}

private theorem go_dimensions (names rest : List String) :
    Reading.go ⟨.compile, before, given, false⟩ (names.map ("--dimension=" ++ ·) ++ rest) =
      Reading.go ⟨.compile, before, { given with dimensions := given.dimensions ++ names }, false⟩
        rest := by
  induction names generalizing given with
  | nil => simp
  | cons name names ih =>
    rw [List.map_cons, List.cons_append, Reading.go, if_neg Bool.false_ne_true, of_dimension]
    simp [longName?, OptionName.takesValue, Given.set, ih]

private theorem go_measures (names rest : List String) :
    Reading.go ⟨.compile, before, given, false⟩ (names.map ("--measure=" ++ ·) ++ rest) =
      Reading.go ⟨.compile, before, { given with measures := given.measures ++ names }, false⟩
        rest := by
  induction names generalizing given with
  | nil => simp
  | cons name names ih =>
    rw [List.map_cons, List.cons_append, Reading.go, if_neg Bool.false_ne_true, of_measure]
    simp [longName?, OptionName.takesValue, Given.set, ih]

/-- Every report on every path can be asked for. -/
theorem parse_compileArguments {path : String} (some_path : path ≠ "")
    (dimensions measures : List String) :
    parse (compileArguments path dimensions measures) =
      some (.run ⟨none, .compile (some path) dimensions measures false false false⟩) := by
  have command : Word.of "compile" = .plain "compile" := by decide +kernel
  have stop : Word.of "--" = .stop := by decide +kernel
  rw [parse, compileArguments, Reading.go, if_neg Bool.false_ne_true, command]
  simp [Reading.plain, scope?, go_dimensions, go_measures, Reading.go, stop, Given.nothing,
    Given.position, path?, some_path, Reading.finish, Given.command?]

end StarReport.CommandLine
