import StarReport.Proofs.Schema.Freshness
import StarReport.Proofs.Schema.Session

/-!
Writes that race with a call. A call takes the time of change first and the content after it, so what
is cached may be of later content than the time says but never of earlier content. A write in the
middle of a call therefore leaves the source behind its file, and the next call loads again.
-/

set_option autoImplicit false
set_option relaxedAutoImplicit false

namespace StarReport.Schema.Source

namespace Session

variable {session : Session} {path : String} {seen : List Int} {between rest : List Files}

/-- The files as an event leaves them, each in turn. -/
def Event.writes : Event → List Files
  | change after => [after]
  | ask between => between
  | invalidate => []

/-- The path leads to a file each time, and each time to one that was changed later than at all times
seen before. -/
def Rewritten (path : String) : List Int → List Files → Prop
  | _, [] => True
  | seen, after :: rest =>
    ∃ content modified, after.find path = .ok (.file content modified) ∧
      (∀ time ∈ seen, time < modified) ∧ Rewritten path (modified :: seen) rest

/-- The time of change of what the path leads to at first. -/
def timesAt (files : Files) (path : String) : List Int :=
  match files.find path with
  | .ok entry => [entry.modified]
  | .error _ => []

/-- The writes in the middle of a call might as well come again after it. -/
theorem changed_ask (session : Session) (raced : between ≠ []) :
    (session.apply (.ask between)).after (between.map .change) = session.apply (.ask between) := by
  have last : (session.apply (.ask between)).filesAfter between = session.filesAfter between := by
    rw [filesAfter, filesAfter, List.getLast?_eq_some_getLast raced, Option.getD_some,
      Option.getD_some]
  rw [files_changes, last]
  rfl

/-! ### Sessions that are not behind -/

/-- A session on a path that is up to date with its file, whose time of change has been seen. -/
structure Current (path : String) (seen : List Int) (session : Session) : Prop where
  recorded : session.Recorded path
  fresh : session.source.UpToDate session.files seen
  known : ∀ entry, session.files.find path = .ok entry → entry.modified ∈ seen

theorem current_of (path : String) (files : Files) :
    (of path files).Current path (timesAt files path) := by
  refine ⟨recorded_of path files, ⟨?_, ?_, ?_⟩, ?_⟩
  · intro content modified found
    change files.find path = _ at found
    simp [timesAt, found, Files.Entry.modified]
  · rintro cached ⟨⟩
  · rintro cached ⟨⟩
  · intro entry found
    change files.find path = _ at found
    simp [timesAt, found]

/-- A write makes a session current that has seen what it recorded. -/
theorem current_of_write (recorded : session.Recorded path)
    (times : ∀ cached ∈ session.source.cached, cached.modified ∈ seen)
    {content : ByteArray} {modified : Int}
    (written : session.files.find path = .ok (.file content modified))
    (newer : ∀ time ∈ seen, time < modified) : session.Current path (modified :: seen) := by
  have written' : session.files.find session.source.path = .ok (.file content modified) := by
    rw [recorded.path]
    exact written
  refine ⟨recorded, upToDate_of_write times written' newer, ?_⟩
  · intro entry found
    obtain rfl := Except.ok.inj (written.symm.trans found)
    exact List.mem_cons_self

theorem Current.change (current : session.Current path seen)
    (rewritten : Rewritten path seen (between ++ rest)) :
    ∃ seen', (session.after (between.map .change)).Current path seen' ∧
      Rewritten path seen' rest := by
  induction between generalizing session seen with
  | nil => exact ⟨seen, current, rewritten⟩
  | cons next between ih =>
    obtain ⟨content, modified, written, newer, rewritten⟩ := rewritten
    exact ih (current_of_write (current.recorded.apply (.change next)) current.fresh.time written
      newer) rewritten

/-- What a call records is a time that was seen before the call was over. -/
theorem Current.times_ask (current : session.Current path seen) (between : List Files) :
    ∀ cached ∈ (session.apply (.ask between)).source.cached, cached.modified ∈ seen := by
  have called := session.called_ask between
  generalize (session.answer between).result = result at called
  generalize session.apply (.ask between) = next at called ⊢
  cases called with
  | kept _ _ _ =>
    rw [files_changes]
    exact current.fresh.time
  | failed =>
    rw [files_changes]
    exact current.fresh.time
  | @loaded modified schema observed _ _ =>
    obtain ⟨entry, found, rfl⟩ := observed_eq_ok.mp observed
    rw [current.recorded.path] at found
    rintro cached ⟨⟩
    exact current.known entry found

theorem Current.ask (current : session.Current path seen)
    (rewritten : Rewritten path seen (between ++ rest)) :
    ∃ seen', (session.apply (.ask between)).Current path seen' ∧ Rewritten path seen' rest := by
  cases between with
  | nil =>
    exact ⟨seen, ⟨current.recorded.apply (.ask []), current.fresh.ask, current.known⟩, rewritten⟩
  | cons next between =>
    -- The first of the writes makes the session current again; the others are as between calls.
    obtain ⟨content, modified, written, newer, rewritten⟩ := rewritten
    have recorded := (current.recorded.apply (.ask (next :: between))).apply (.change next)
    have resumed := current_of_write recorded (current.times_ask (next :: between)) written newer
    rw [← changed_ask session (List.cons_ne_nil next between)]
    exact resumed.change rewritten

theorem Current.apply (current : session.Current path seen) {event : Event}
    (rewritten : Rewritten path seen (event.writes ++ rest)) :
    ∃ seen', (session.apply event).Current path seen' ∧ Rewritten path seen' rest := by
  cases event with
  | change after =>
    have changed : Rewritten path seen ([after] ++ rest) := rewritten
    exact current.change changed
  | ask between => exact current.ask rewritten
  | invalidate =>
    exact ⟨seen, ⟨current.recorded.apply .invalidate, current.fresh.invalidate, current.known⟩,
      rewritten⟩

theorem Current.after (current : session.Current path seen) {history : List Event}
    (rewritten : Rewritten path seen (history.flatMap Event.writes ++ rest)) :
    ∃ seen', (session.after history).Current path seen' ∧ Rewritten path seen' rest := by
  induction history generalizing session seen with
  | nil => exact ⟨seen, current, rewritten⟩
  | cons event history ih =>
    rw [List.flatMap_cons, List.append_assoc] at rewritten
    obtain ⟨seen', next, rewritten⟩ := current.apply rewritten
    exact ih next rewritten

/-- Without writes in its middle a call answers with what a load would give. -/
theorem Current.answer_nil (current : session.Current path seen)
    (clear : ∀ failure, session.files.find path ≠ .error (.blocked failure)) (id : Star.StarId) :
    (session.answer []).result.map (·.schema.under id) = load session.files path id := by
  have answered := current.fresh.schema_result id
  unfold Source.current at answered
  rw [current.recorded.path] at answered
  rw [answer, call_nil, answered]
  split
  · exact absurd ‹_› (clear _)
  · rfl

/-! ### Handles that are never given again -/

/-- The handle of the number was given before, and where it is cached the file was changed since. -/
structure Superseded (path : String) (number : Nat) (session : Session) : Prop where
  given : number < session.source.loads
  behind : ∀ cached ∈ session.source.cached, cached.held.number = number →
    ∀ entry, session.files.find path = .ok entry → cached.modified < entry.modified

variable {number : Nat}

/-- After writes the file is newer than at all times seen before them. -/
theorem newer_of_rewritten {files : Files} (rewritten : Rewritten path seen (between ++ rest))
    (raced : between ≠ []) {entry : Files.Entry}
    (found : (between.getLast?.getD files).find path = .ok entry) :
    ∀ time ∈ seen, time < entry.modified := by
  induction between generalizing seen files with
  | nil => exact absurd rfl raced
  | cons next between ih =>
    obtain ⟨content, modified, written, newer, rewritten⟩ := rewritten
    rw [List.getLast?_cons, Option.getD_some] at found
    cases between with
    | nil =>
      obtain rfl := Except.ok.inj (written.symm.trans found)
      exact newer
    | cons other between =>
      intro time before
      exact ih rewritten (List.cons_ne_nil other between) found time (List.mem_cons_of_mem _ before)

theorem Superseded.change (superseded : session.Superseded path number)
    (current : session.Current path seen) (rewritten : Rewritten path seen (between ++ rest)) :
    (session.after (between.map .change)).Superseded path number := by
  rw [files_changes]
  refine ⟨superseded.given, fun cached listed same entry found => ?_⟩
  by_cases raced : between = []
  · subst raced
    exact superseded.behind cached listed same entry found
  · exact newer_of_rewritten rewritten raced found _ (current.fresh.time cached listed)

theorem Superseded.apply (superseded : session.Superseded path number)
    (current : session.Current path seen) {event : Event}
    (rewritten : Rewritten path seen (event.writes ++ rest)) :
    (session.apply event).Superseded path number := by
  cases event with
  | change after =>
    have changed : Rewritten path seen ([after] ++ rest) := rewritten
    exact superseded.change current changed
  | invalidate => exact ⟨superseded.given, by rintro cached ⟨⟩⟩
  | ask between =>
    have called := session.called_ask between
    generalize (session.answer between).result = result at called
    generalize session.apply (.ask between) = next at called ⊢
    cases called with
    | kept _ _ _ => exact superseded.change current rewritten
    | failed => exact superseded.change current rewritten
    | loaded _ _ _ =>
      have given := superseded.given
      refine ⟨Nat.lt_succ_of_lt given, ?_⟩
      rintro cached ⟨⟩ same
      exact absurd same (Nat.ne_of_gt given)

theorem Superseded.after (superseded : session.Superseded path number)
    (current : session.Current path seen) {history : List Event}
    (rewritten : Rewritten path seen (history.flatMap Event.writes ++ rest)) :
    (session.after history).Superseded path number := by
  induction history generalizing session seen with
  | nil => exact superseded
  | cons event history ih =>
    rw [List.flatMap_cons, List.append_assoc] at rewritten
    obtain ⟨seen', next, others⟩ := current.apply rewritten
    exact ih (superseded.apply current rewritten) next others

theorem Superseded.answer_ne (superseded : session.Superseded path number)
    (current : session.Current path seen) {held : Held}
    (answered : (session.answer between).result = .ok held) : held.number ≠ number := by
  have called := session.called_ask between
  rw [answered] at called
  generalize session.apply (.ask between) = next at called
  cases called with
  | loaded _ _ _ => exact Nat.ne_of_gt superseded.given
  | @kept modified cached observed listed older =>
    obtain ⟨entry, found, rfl⟩ := observed_eq_ok.mp observed
    rw [current.recorded.path] at found
    intro same
    have later := superseded.behind cached listed same entry found
    omega

/-- The handle that a call gives while its file is written is superseded. -/
theorem Current.superseded_ask (current : session.Current path seen)
    (rewritten : Rewritten path seen (between ++ rest)) (raced : between ≠ []) {held : Held}
    (answered : (session.answer between).result = .ok held) :
    (session.apply (.ask between)).Superseded path held.number := by
  have numbered := (current.recorded.apply (.ask between)).numbered
  obtain ⟨cached, listed, rfl⟩ := Option.map_eq_some_iff.mp (held_of_ok answered)
  refine ⟨numbered cached listed, fun other listed' _ entry found => ?_⟩
  exact newer_of_rewritten rewritten raced found _ (current.times_ask between other listed')

end Session

open Session (Rewritten timesAt)

/-- However writes fall between the calls and between the two observations of a call, each later than
those before, a call in which none falls answers with what a load gives at that moment. A handle that
a call gave while the file was written is not given again by any later call. -/
theorem answer_of_quiet {path : String} {files : Files} {history : List Session.Event}
    (rewritten : Rewritten path (timesAt files path) (history.flatMap Session.Event.writes)) :
    let session := (Session.of path files).after history
    ((∀ failure, session.files.find path ≠ .error (.blocked failure)) → ∀ id,
      (session.answer []).result.map (·.schema.under id) = load session.files path id) ∧
    ∀ before between later, history = before ++ .ask between :: later → between ≠ [] →
      ∀ raced, (((Session.of path files).after before).answer between).result = .ok raced →
        ∀ during held, (session.answer during).result = .ok held → held.number ≠ raced.number := by
  intro session
  have start := Session.current_of path files
  refine ⟨fun clear id => ?_, ?_⟩
  · rw [← List.append_nil (history.flatMap Session.Event.writes)] at rewritten
    obtain ⟨seen, current, _⟩ := start.after rewritten
    exact current.answer_nil clear id
  · rintro before between later rfl written raced given during held answered
    rw [List.flatMap_append, List.flatMap_cons] at rewritten
    obtain ⟨seen, current, rewritten⟩ := start.after rewritten
    have superseded := current.superseded_ask rewritten written given
    obtain ⟨seen', next, rewritten⟩ := current.ask rewritten
    rw [← List.append_nil (later.flatMap Session.Event.writes)] at rewritten
    obtain ⟨seen'', last, _⟩ := next.after rewritten
    have ended : session = (((Session.of path files).after before).apply (.ask between)).after
        later := List.foldl_append
    rw [ended] at answered
    exact (superseded.after next rewritten).answer_ne last answered

/-- The file is written once while a call is looking at it and once after the call. -/
private def overtaken : List Session.Event :=
  [.ask [stored "Mid" 7], .change (stored "New" 9)]

private theorem rewritten_overtaken : Rewritten "sales.json"
    (timesAt (stored "Old" 5) "sales.json") (overtaken.flatMap Session.Event.writes) := by
  refine ⟨_, 7, find_stored "Mid" 7, ?_, _, 9, find_stored "New" 9, ?_, trivial⟩
  · rw [timesAt, find_stored "Old" 5]
    simp [Files.Entry.modified]
  · rw [timesAt, find_stored "Old" 5]
    simp [Files.Entry.modified]

/-- The schema read in the middle of the writes is replaced at the next call. -/
theorem answer_of_quiet_overtaken :
    Rewritten "sales.json" (timesAt (stored "Old" 5) "sales.json")
      (overtaken.flatMap Session.Event.writes) ∧
    ∃ raced held,
      ((Session.of "sales.json" (stored "Old" 5)).answer [stored "Mid" 7]).result = .ok raced ∧
      (((Session.of "sales.json" (stored "Old" 5)).after overtaken).answer []).result = .ok held ∧
      raced.schema.database.name = "Mid" ∧ held.schema.database.name = "New" ∧
      held.number ≠ raced.number := by
  obtain ⟨mid, loadedMid, midName⟩ : ∃ schema,
      load (stored "Mid" 7) "sales.json" ⟨0⟩ = .ok schema ∧ schema.database.name = "Mid" :=
    load_stored (by decide +kernel) 7
  obtain ⟨new, loadedNew, newName⟩ := load_new 9
  have attempts : (Session.of "sales.json" (stored "Old" 5)).Attempts :=
    Session.attempts_iff_due.mpr ⟨_, find_stored "Old" 5, by rintro cached ⟨⟩⟩
  have attempted := Session.result_of_attempt attempts [stored "Mid" 7]
  have read : load ((Session.of "sales.json" (stored "Old" 5)).filesAfter [stored "Mid" 7])
      (Session.of "sales.json" (stored "Old" 5)).source.path
      ⟨(Session.of "sales.json" (stored "Old" 5)).source.loads⟩ = .ok mid := loadedMid
  rw [read] at attempted
  obtain ⟨raced, given, rfl⟩ := FirstFailure.map_ok.mp attempted
  obtain ⟨current, superseded⟩ := answer_of_quiet rewritten_overtaken
  have files : ((Session.of "sales.json" (stored "Old" 5)).after overtaken).files =
      stored "New" 9 := rfl
  rw [files, find_stored "New" 9] at current
  have quiet := current (fun failure same => by cases same) ⟨0⟩
  rw [loadedNew] at quiet
  obtain ⟨held, answered, same⟩ := FirstFailure.map_ok.mp quiet
  refine ⟨rewritten_overtaken, raced, held, given, answered, midName,
    (congrArg (·.database.name) same).trans newName, ?_⟩
  exact superseded [] _ _ rfl (List.cons_ne_nil _ _) raced given [] held answered

end StarReport.Schema.Source
