import StarReport.Schema.Source

/-!
One call to a source. A load is due where nothing is cached or the time of change is later than the
one recorded. A call then goes on to load and comes to what the load gives; otherwise it is answered
without a load.
-/

set_option autoImplicit false
set_option relaxedAutoImplicit false

namespace StarReport.Schema.Source

open StarReport.Star (StarId)

variable {source : Source} {load : StarId → Except LoadError Schema}

/-- Nothing is cached, or it was loaded at an earlier time of change. -/
def Due (source : Source) (modified : Int) : Prop :=
  ∀ cached ∈ source.cached, cached.modified < modified

theorem due_iff {modified : Int} : source.Due modified ↔ source.cached = none ∨
    ∃ cached, source.cached = some cached ∧ cached.modified < modified := by
  unfold Due
  cases source.cached with
  | none => simp
  | some cached => simp

/-- What asking can come to, by the time of change that was observed. -/
inductive Outcome (source : Source) (load : StarId → Except LoadError Schema) :
    Except LoadError Int → Answer × Source → Prop
  | unobserved {cause : LoadError} : Outcome source load (.error cause) (⟨.error cause, []⟩, source)
  | kept {modified : Int} {cached : Cached} : source.cached = some cached →
      modified ≤ cached.modified → Outcome source load (.ok modified) (⟨.ok cached.held, []⟩, source)
  | failed {modified : Int} {cause : LoadError} {log : List String} : source.Due modified →
      load ⟨source.loads⟩ = .error cause → loadedNotice ∉ log →
      Outcome source load (.ok modified) (⟨.error cause, log⟩, source)
  | loaded {modified : Int} {schema : Schema} {log : List String} : source.Due modified →
      load ⟨source.loads⟩ = .ok schema → loadedNotice ∈ log →
      Outcome source load (.ok modified) (⟨.ok ⟨source.loads, schema⟩, log⟩,
        ⟨source.path, some ⟨⟨source.loads, schema⟩, modified⟩, source.loads + 1⟩)

theorem current?_eq_none {modified : Int} :
    source.current? modified = none ↔ source.Due modified := by
  unfold current? Due
  cases source.cached with
  | none => simp
  | some cached => simp

theorem current?_eq_some {modified : Int} {held : Held}
    (current : source.current? modified = some held) :
    ∃ cached, source.cached = some cached ∧ modified ≤ cached.modified ∧ cached.held = held := by
  unfold current? at current
  cases recorded : source.cached with
  | none => simp [recorded] at current
  | some cached => simpa [recorded] using current

/-- A call goes on to load exactly where a load is due. -/
theorem course_of_due {modified : Int} (due : source.Due modified) :
    source.course (.ok modified) =
      .loading modified (if source.cached.isSome then [reloadNotice] else []) := by
  simp only [course, current?_eq_none.mpr due]

theorem ask_of_current {modified : Int} {held : Held}
    (current : source.current? modified = some held) :
    source.ask (.ok modified) load = (⟨.ok held, []⟩, source) := by
  simp only [ask, course, current]

theorem ask_of_loading {observed : Except LoadError Int} {modified : Int} {notice : List String}
    (loading : source.course observed = .loading modified notice) :
    source.ask observed load = source.finish modified notice (load ⟨source.loads⟩) := by
  simp only [ask, loading]

theorem outcome_ask (source : Source) (modified : Except LoadError Int)
    (load : StarId → Except LoadError Schema) :
    source.Outcome load modified (source.ask modified load) := by
  cases modified with
  | error cause => exact .unobserved
  | ok modified =>
    cases current : source.current? modified with
    | some held =>
      rw [ask_of_current current]
      obtain ⟨cached, recorded, older, rfl⟩ := current?_eq_some current
      exact .kept recorded older
    | none =>
      have due := current?_eq_none.mp current
      have quiet : loadedNotice ∉ if source.cached.isSome then [reloadNotice] else [] := by
        split <;> decide
      rw [ask_of_loading (course_of_due due)]
      cases result : load ⟨source.loads⟩ with
      | error cause => exact .failed due result quiet
      | ok schema => exact .loaded due result (List.mem_append_right _ List.mem_cons_self)

/-- A call attempts a load: the observed time of change does not answer it. -/
def Attempts (source : Source) (observed : Except LoadError Int) : Prop :=
  ∃ modified notice, source.course observed = .loading modified notice

/-- A load is attempted exactly where a time of change was observed at which one is due. -/
theorem attempts_iff {observed : Except LoadError Int} :
    source.Attempts observed ↔ ∃ time, observed = .ok time ∧ source.Due time := by
  constructor
  · rintro ⟨modified, notice, loading⟩
    cases observed with
    | error cause => cases loading
    | ok time =>
      refine ⟨time, rfl, current?_eq_none.mp ?_⟩
      unfold course at loading
      cases current : source.current? time with
      | some held => simp [current] at loading
      | none => rfl
  · rintro ⟨time, rfl, due⟩
    exact ⟨time, _, course_of_due due⟩

/-- The answer to a call that attempts a load is what the load gives. -/
theorem result_of_attempts {observed : Except LoadError Int} (attempts : source.Attempts observed) :
    (source.ask observed load).1.result.map Held.schema = load ⟨source.loads⟩ := by
  obtain ⟨modified, notice, loading⟩ := attempts
  rw [ask_of_loading loading]
  cases load ⟨source.loads⟩ <;> rfl

end StarReport.Schema.Source
