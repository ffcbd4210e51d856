import Mathlib.Data.List.Chain
import StarReport.Proofs.Schema.Asking

/-!
Sessions: a source in use while its file changes in any way, also between the two observations of a
call. A load is attempted where one is due and at no other time, a call that fails leaves no trace,
and the loads that succeed between two invalidations are at later and later times of change.
-/

set_option autoImplicit false
set_option relaxedAutoImplicit false

namespace StarReport.Schema

/-- The load that succeeded in the course of a call, as the log of the call tells, with the time of
change that was observed before. -/
def Answer.load? (answer : Answer) (observed : Except LoadError Int) : Option Cached :=
  match observed, answer.result with
  | .ok modified, .ok held => if loadedNotice ∈ answer.log then some ⟨held, modified⟩ else none
  | _, _ => none

namespace Source

/-- A source in use, the files as they are at the time, and a record of the loads that succeeded
since the last invalidation: the handle that each gave and the time of change observed before it. -/
structure Session where
  files : Files
  source : Source
  loads : List Cached

namespace Session

/-- What can happen in a session. A change leaves the files as given. A call looks at the file
twice, and in between the files become each of the given ones in turn. -/
inductive Event where
  | change (after : Files)
  | ask (between : List Files)
  | invalidate

def of (path : String) (files : Files) : Session := ⟨files, .of path, []⟩

variable {session : Session}

/-- The files at the end of a call. -/
def filesAfter (session : Session) (between : List Files) : Files :=
  between.getLast?.getD session.files

/-- The time of change that a call observes first. -/
def observed (session : Session) : Except LoadError Int := session.source.observe session.files

/-- A call: the answer, and the source that is left. -/
def call (session : Session) (between : List Files) : Answer × Source :=
  session.source.ask session.observed (load (session.filesAfter between) session.source.path)

def answer (session : Session) (between : List Files) : Answer := (session.call between).1

def apply (session : Session) : Event → Session
  | .change after => { session with files := after }
  | .ask between => ⟨session.filesAfter between, (session.call between).2,
      session.loads ++ ((session.answer between).load? session.observed).toList⟩
  | .invalidate => ⟨session.files, session.source.invalidate, []⟩

def after (session : Session) (history : List Event) : Session := history.foldl apply session

/-- The answers to the calls of a history, in order. -/
def answers (session : Session) : List Event → List Answer
  | [] => []
  | .ask between :: rest => session.answer between :: answers (session.apply (.ask between)) rest
  | event :: rest => answers (session.apply event) rest

/-- A call attempts a load. -/
def Attempts (session : Session) : Prop := session.source.Attempts session.observed

/-- A call without changes is one in which the files stay as they are. -/
theorem call_nil (session : Session) : session.call [] = session.source.schema session.files := rfl

theorem observed_eq_ok {modified : Int} : session.observed = .ok modified ↔
    ∃ entry, session.files.find session.source.path = .ok entry ∧ entry.modified = modified := by
  unfold observed observe
  cases session.files.find session.source.path with
  | error obstacle => cases obstacle <;> simp
  | ok entry => simp

theorem files_changes (session : Session) (between : List Files) :
    session.after (between.map .change) = { session with files := session.filesAfter between } := by
  induction between generalizing session with
  | nil => rfl
  | cons next rest ih =>
    refine (ih (session.apply (.change next))).trans ?_
    have last : (next :: rest).getLast?.getD session.files = rest.getLast?.getD next := by
      rw [List.getLast?_cons, Option.getD_some]
    exact congrArg (fun files => Session.mk files session.source session.loads) last.symm

/-! ### Calls -/

/-- What a call can come to: its result, and the session after it. But for the changes of the files
only a load that succeeds leaves a trace. -/
inductive Called (session : Session) (between : List Files) :
    Except LoadError Held → Session → Prop
  | kept {modified : Int} {cached : Cached} : session.observed = .ok modified →
      session.source.cached = some cached → modified ≤ cached.modified →
      Called session between (.ok cached.held) (session.after (between.map .change))
  | failed {cause : LoadError} :
      Called session between (.error cause) (session.after (between.map .change))
  | loaded {modified : Int} {schema : Schema} : session.observed = .ok modified →
      session.source.Due modified →
      load (session.filesAfter between) session.source.path ⟨session.source.loads⟩ = .ok schema →
      Called session between (.ok ⟨session.source.loads, schema⟩) ⟨session.filesAfter between,
        ⟨session.source.path, some ⟨⟨session.source.loads, schema⟩, modified⟩,
          session.source.loads + 1⟩,
        session.loads ++ [⟨⟨session.source.loads, schema⟩, modified⟩]⟩

theorem called_ask (session : Session) (between : List Files) :
    session.Called between (session.answer between).result (session.apply (.ask between)) := by
  have outcome := session.source.outcome_ask session.observed
    (load (session.filesAfter between) session.source.path)
  change session.source.Outcome _ _ (session.call between) at outcome
  have applied : session.apply (.ask between) = ⟨session.filesAfter between,
      (session.call between).2,
      session.loads ++ ((session.call between).1.load? session.observed).toList⟩ := rfl
  have traceless : ∀ cause log, (⟨session.filesAfter between, session.source, session.loads ++
      ((⟨.error cause, log⟩ : Answer).load? session.observed).toList⟩ : Session) =
        session.after (between.map .change) := by
    intro cause log
    rw [files_changes]
    cases session.observed <;> simp [Answer.load?]
  rw [applied, answer]
  cases observed : session.observed with
  | error cause =>
    rw [observed] at outcome traceless
    generalize session.call between = result at outcome ⊢
    cases outcome
    rw [traceless]
    exact .failed
  | ok modified =>
    rw [observed] at outcome traceless
    generalize session.call between = result at outcome ⊢
    cases outcome with
    | failed due result quiet =>
      rw [traceless]
      exact .failed
    | kept recorded older =>
      have kept : Called session between _ _ := .kept observed recorded older
      rw [files_changes] at kept
      simpa [Answer.load?] using kept
    | loaded due result told =>
      have loaded := Called.loaded observed due result
      simpa [Answer.load?, told] using loaded

/-- A call that fails leaves nothing but the changes of the files. -/
theorem apply_of_error {between : List Files} {cause : LoadError}
    (failed : (session.answer between).result = .error cause) :
    session.apply (.ask between) = session.after (between.map .change) := by
  have called := session.called_ask between
  rw [failed] at called
  generalize session.apply (.ask between) = next at called ⊢
  cases called
  rfl

/-- After a call that succeeds its handle is cached. -/
theorem held_of_ok {between : List Files} {held : Held}
    (answered : (session.answer between).result = .ok held) :
    (session.apply (.ask between)).source.cached.map Cached.held = some held := by
  have called := session.called_ask between
  rw [answered] at called
  generalize session.apply (.ask between) = next at called ⊢
  cases called with
  | kept _ cached _ => rw [files_changes, cached, Option.map_some]
  | loaded _ _ _ => rfl

/-! ### Histories -/

/-- What is cached is the latest of the loads on record. These are at later and later times, and each
gave a handle of its own. -/
structure Recorded (path : String) (session : Session) : Prop where
  path : session.source.path = path
  latest : session.source.cached = session.loads.getLast?
  times : (session.loads.map Cached.modified).IsChain (· < ·)
  handles : (session.loads.map (·.held.number)).IsChain (· < ·)
  numbered : ∀ cached ∈ session.source.cached, cached.held.number < session.source.loads

variable {path : String}

/-- Loads in order stay in order if the next one comes after the latest. -/
private theorem isChain_map_append {κ : Type} [LT κ] {key : Cached → κ} {loads : List Cached}
    {next : Cached} (ordered : (loads.map key).IsChain (· < ·))
    (later : ∀ cached ∈ loads.getLast?, key cached < key next) :
    ((loads ++ [next]).map key).IsChain (· < ·) := by
  rw [List.map_append, List.isChain_append, List.getLast?_map]
  refine ⟨ordered, .singleton _, fun last held new only => ?_⟩
  obtain ⟨cached, listed, rfl⟩ := Option.map_eq_some_iff.mp held
  obtain rfl : key next = new := by simpa using only
  exact later cached listed

theorem Recorded.change (recorded : session.Recorded path) (between : List Files) :
    (session.after (between.map .change)).Recorded path := by
  rw [files_changes]
  exact ⟨recorded.path, recorded.latest, recorded.times, recorded.handles, recorded.numbered⟩

theorem Recorded.apply (recorded : session.Recorded path) (event : Event) :
    (session.apply event).Recorded path := by
  cases event with
  | change after => exact recorded.change [after]
  | invalidate => exact ⟨recorded.path, rfl, .nil, .nil, by rintro cached ⟨⟩⟩
  | ask between =>
    have called := session.called_ask between
    generalize (session.answer between).result = result at called
    generalize session.apply (.ask between) = next at called ⊢
    cases called with
    | kept _ _ _ => exact recorded.change between
    | failed => exact recorded.change between
    | @loaded modified schema _ due _ =>
      have numbers := recorded.numbered
      rw [Due, recorded.latest] at due
      rw [recorded.latest] at numbers
      refine ⟨recorded.path, by simp, isChain_map_append recorded.times due,
        isChain_map_append recorded.handles numbers, ?_⟩
      rintro cached ⟨⟩
      exact Nat.lt_succ_self _

theorem Recorded.after (recorded : session.Recorded path) (history : List Event) :
    (session.after history).Recorded path := by
  induction history generalizing session with
  | nil => exact recorded
  | cons event rest ih => exact ih (recorded.apply event)

theorem recorded_of (path : String) (files : Files) : (of path files).Recorded path :=
  ⟨rfl, rfl, .nil, .nil, by rintro cached ⟨⟩⟩

theorem attempts_iff_due : session.Attempts ↔
    ∃ entry, session.files.find session.source.path = .ok entry ∧
      session.source.Due entry.modified := by
  rw [Attempts, attempts_iff]
  constructor
  · rintro ⟨time, observed, due⟩
    obtain ⟨entry, found, rfl⟩ := observed_eq_ok.mp observed
    exact ⟨entry, found, due⟩
  · rintro ⟨entry, found, due⟩
    exact ⟨entry.modified, observed_eq_ok.mpr ⟨entry, found, rfl⟩, due⟩

theorem result_of_attempt (attempts : session.Attempts) (between : List Files) :
    (session.answer between).result.map Held.schema =
      load (session.filesAfter between) session.source.path ⟨session.source.loads⟩ :=
  result_of_attempts attempts

end Session

/-- Whatever becomes of the file, a load is attempted where the file has a time of change and nothing
is cached or that time is later than the one recorded, and an attempt decides the answer. A call that
fails leaves all as it would be without the call. One that succeeds gives the handle of the latest
load since the last invalidation. These loads are at strictly later and later times, and each gave a
handle of its own. -/
theorem reloads_after (path : String) (files : Files) (history : List Session.Event)
    (between : List Files) :
    let session := (Session.of path files).after history
    let answer := session.answer between
    let next := session.apply (.ask between)
    let without := session.after (between.map .change)
    (session.Attempts ↔ ∃ entry, session.files.find path = .ok entry ∧
      (session.source.cached = none ∨
        ∃ cached, session.source.cached = some cached ∧ cached.modified < entry.modified)) ∧
    (session.Attempts →
      answer.result.map Held.schema = load next.files path ⟨session.source.loads⟩) ∧
    (∀ cause, answer.result = .error cause → next.source = session.source ∧ next = without ∧
      ∀ later, next.answers later = without.answers later) ∧
    (∀ held, answer.result = .ok held → next.loads.getLast?.map Cached.held = some held) ∧
    session.source.cached = session.loads.getLast? ∧
    (session.loads.map Cached.modified).Pairwise (· < ·) ∧
    (session.loads.map Cached.modified).Nodup ∧
    (session.loads.map (·.held.number)).Pairwise (· < ·) := by
  intro session answer next without
  have recorded := (Session.recorded_of path files).after history
  have recorded' := recorded.apply (.ask between)
  have times := List.isChain_iff_pairwise.mp recorded.times
  refine ⟨?_, ?_, ?_, ?_, recorded.latest, times, times.imp Int.ne_of_lt,
    List.isChain_iff_pairwise.mp recorded.handles⟩
  · rw [Session.attempts_iff_due, recorded.path]
    simp only [due_iff]
  · intro attempts
    have decided : answer.result.map Held.schema =
        load next.files session.source.path ⟨session.source.loads⟩ :=
      Session.result_of_attempt attempts between
    rwa [recorded.path] at decided
  · intro cause failed
    have traceless : next = without := Session.apply_of_error failed
    refine ⟨?_, traceless, fun later => by rw [traceless]⟩
    have changed : without = { session with files := session.filesAfter between } :=
      session.files_changes between
    rw [traceless, changed]
  · intro held answered
    rw [← recorded'.latest]
    exact Session.held_of_ok answered

end Source

end StarReport.Schema
