import StarReport.Proofs.Schema.Asking
import StarReport.Proofs.Schema.Building
import StarReport.Proofs.Schema.Loading

/-!
A source is never behind its file. As long as every write of the file is later than those before,
each answer is what a load would give at that moment, whatever was cached, and answers with nothing
in between share one handle.
-/

set_option autoImplicit false
set_option relaxedAutoImplicit false

namespace StarReport

open StarReport.Star (StarId)

/-- The same schema over a star of another identity. -/
def Schema.under (schema : Schema) (id : StarId) : Schema :=
  ⟨schema.database, schema.star.copy id⟩

theorem Document.under_schema (document : Document) (id id' : StarId) :
    (document.schema id).under id' = document.schema id' := by
  have metrics : (document.schema id).star.metrics.map (Star.Metric.own id') =
      (document.schema id').star.metrics := by
    have same_key (x y : Star.Metric) :
        (x.own id').identity = (y.own id').identity ↔ x.identity = y.identity := Iff.rfl
    have owned := Distinct.map_ofList (Star.Metric.own id') same_key
      (document.star.metrics.map (document.metric id))
    rw [List.map_map] at owned
    exact owned
  simp only [Schema.under, Star.copy, Star.setDimensions, Star.setMetrics, Star.setMeasures,
    Star.ofFact, metrics]
  simp only [schema, List.map_map]
  rfl

namespace Schema

theorem build_under (document : Document) (id id' : StarId) :
    (build id document).map (·.under id') = build id' document := by
  rw [Document.build_eq, Document.build_eq]
  cases document.violations with
  | nil => exact congrArg Except.ok (document.under_schema id id')
  | cons cause _ => rfl

/-- What a load makes of an entry depends on the identity of the star in nothing else. -/
theorem ofEntry_under (path : String) (entry : Files.Entry) (id id' : StarId) :
    (ofEntry id path entry).map (·.under id') = ofEntry id' path entry := by
  unfold ofEntry ofText
  cases Format.ofPath path with
  | error cause => rfl
  | ok format =>
    cases entry.text with
    | error failure => rfl
    | ok text =>
      change (Document.ofText format text >>= fun document =>
          (build id document).mapError LoadError.invalid).map _ =
        Document.ofText format text >>= fun document =>
          (build id' document).mapError LoadError.invalid
      cases Document.ofText format text with
      | error cause => rfl
      | ok document =>
        change ((build id document).mapError LoadError.invalid).map _ =
          (build id' document).mapError LoadError.invalid
        rw [← build_under document id id']
        cases build id document <;> rfl

namespace Source

/-! ### One answer -/

/-- What asking a source can come to, and the source that is left. -/
inductive Asked (source : Source) (files : Files) : Answer × Source → Prop
  | missing : files.find source.path = .error .missing →
      Asked source files (⟨.error (.fileNotFound source.path), []⟩, source)
  | blocked {failure : Files.Failure} : files.find source.path = .error (.blocked failure) →
      Asked source files (⟨.error (.unreadable failure), []⟩, source)
  | kept {entry : Files.Entry} {cached : Cached} : files.find source.path = .ok entry →
      source.cached = some cached → entry.modified ≤ cached.modified →
      Asked source files (⟨.ok cached.held, []⟩, source)
  | failed {entry : Files.Entry} {cause : LoadError} {log : List String} :
      files.find source.path = .ok entry →
      (∀ cached ∈ source.cached, cached.modified < entry.modified) →
      ofEntry ⟨source.loads⟩ source.path entry = .error cause →
      Asked source files (⟨.error cause, log⟩, source)
  | loaded {entry : Files.Entry} {schema : Schema} {log : List String} :
      files.find source.path = .ok entry →
      (∀ cached ∈ source.cached, cached.modified < entry.modified) →
      ofEntry ⟨source.loads⟩ source.path entry = .ok schema →
      Asked source files (⟨.ok ⟨source.loads, schema⟩, log⟩,
        ⟨source.path, some ⟨⟨source.loads, schema⟩, entry.modified⟩, source.loads + 1⟩)

theorem asked_schema (source : Source) (files : Files) :
    Asked source files (source.schema files) := by
  have outcome := source.outcome_ask (source.observe files) (load files source.path)
  rw [Source.schema]
  generalize source.ask (source.observe files) (load files source.path) = result at outcome ⊢
  unfold observe load at outcome
  cases found : files.find source.path with
  | error obstacle =>
    rw [found] at outcome
    cases obstacle with
    | missing =>
      cases outcome
      exact .missing found
    | blocked failure =>
      cases outcome
      exact .blocked found
  | ok entry =>
    rw [found] at outcome
    cases outcome with
    | kept recorded older => exact .kept found recorded older
    | failed due failed _ => exact .failed found due failed
    | loaded due loaded _ => exact .loaded found due loaded

/-- What a load makes of the path of a source, except that a path that is blocked is told as
unreadable and not as leading nowhere. -/
def current (source : Source) (files : Files) (id : StarId) : Except LoadError Schema :=
  match files.find source.path with
  | .error (.blocked failure) => .error (.unreadable failure)
  | _ => load files source.path id

/-- What a source has cached is up to date with its file: the time of change was seen before, and
while the entry at the path is no newer, a load would give the cached schema again. -/
structure UpToDate (source : Source) (files : Files) (seen : List Int) : Prop where
  file : ∀ content modified, files.find source.path = .ok (.file content modified) →
    modified ∈ seen
  time : ∀ cached ∈ source.cached, cached.modified ∈ seen
  schema : ∀ cached ∈ source.cached, ∀ entry, files.find source.path = .ok entry →
    entry.modified ≤ cached.modified →
    ∀ id, ofEntry id source.path entry = .ok (cached.held.schema.under id)

variable {source : Source} {files : Files} {seen : List Int}

/-- A load that succeeded read a file. -/
theorem file_of_ofEntry {id : StarId} {path : String} {entry : Files.Entry} {schema : Schema}
    (loaded : ofEntry id path entry = .ok schema) :
    ∃ content, entry = .file content entry.modified := by
  cases entry with
  | file content modified => exact ⟨content, rfl⟩
  | directory modified =>
    unfold ofEntry at loaded
    cases format : Format.ofPath path with
    | error cause => simp [format, bind, Except.bind] at loaded
    | ok format' =>
      rw [format] at loaded
      cases loaded

theorem ofEntry_ok_under {path : String} {entry : Files.Entry} {id : StarId} {schema : Schema}
    (loaded : ofEntry id path entry = .ok schema) (id' : StarId) :
    ofEntry id' path entry = .ok (schema.under id') := by
  rw [← ofEntry_under path entry id id', loaded]
  rfl

theorem UpToDate.schema_result (fresh : source.UpToDate files seen) (id : StarId) :
    (source.schema files).1.result.map (·.schema.under id) = source.current files id := by
  have asked := source.asked_schema files
  unfold current load
  generalize source.schema files = outcome at asked
  cases asked with
  | missing found => rw [found]; rfl
  | blocked found => rw [found]; rfl
  | kept found cached older =>
    rw [found]
    exact (fresh.schema _ cached _ found older id).symm
  | failed found _ result =>
    rw [found]
    exact (congrArg (Except.map (·.under id)) result).symm.trans (ofEntry_under _ _ _ id)
  | loaded found _ result =>
    rw [found]
    exact (ofEntry_ok_under result id).symm

theorem UpToDate.ask (fresh : source.UpToDate files seen) :
    (source.schema files).2.UpToDate files seen := by
  have asked := source.asked_schema files
  generalize source.schema files = outcome at asked
  cases asked with
  | missing found => exact fresh
  | blocked found => exact fresh
  | kept found cached older => exact fresh
  | failed found _ result => exact fresh
  | @loaded entry schema log found _ result =>
    obtain ⟨content, file⟩ := file_of_ofEntry result
    refine ⟨fresh.file, ?_, ?_⟩
    · rintro cached ⟨⟩
      exact fresh.file content entry.modified (found.trans (congrArg _ file))
    · rintro cached ⟨⟩ other found' _ id
      obtain rfl := Except.ok.inj (found.symm.trans found')
      exact ofEntry_ok_under result id

theorem UpToDate.invalidate (fresh : source.UpToDate files seen) :
    source.invalidate.UpToDate files seen := by
  refine ⟨fresh.file, ?_, ?_⟩
  · rintro cached ⟨⟩
  · rintro cached ⟨⟩

/-- A write is newer than anything cached, so nothing that is cached counts as current. -/
theorem upToDate_of_write (times : ∀ cached ∈ source.cached, cached.modified ∈ seen)
    {after : Files} {content : ByteArray} {modified : Int}
    (written : after.find source.path = .ok (.file content modified))
    (newer : ∀ time ∈ seen, time < modified) : source.UpToDate after (modified :: seen) := by
  refine ⟨?_, ?_, ?_⟩
  · intro content' modified' found
    obtain ⟨rfl, rfl⟩ := Files.Entry.file.inj (Except.ok.inj (written.symm.trans found))
    exact List.mem_cons_self
  · intro cached held
    exact List.mem_cons_of_mem _ (times cached held)
  · intro cached held entry found older
    obtain rfl := Except.ok.inj (written.symm.trans found)
    have before := newer cached.modified (times cached held)
    change modified ≤ cached.modified at older
    omega

theorem UpToDate.write (fresh : source.UpToDate files seen) {after : Files} {content : ByteArray}
    {modified : Int} (written : after.find source.path = .ok (.file content modified))
    (newer : ∀ time ∈ seen, time < modified) : source.UpToDate after (modified :: seen) :=
  upToDate_of_write fresh.time written newer

theorem UpToDate.remove (fresh : source.UpToDate files seen) {after : Files}
    {obstacle : Files.Obstacle} (removed : after.find source.path = .error obstacle) :
    source.UpToDate after seen := by
  refine ⟨?_, fresh.time, ?_⟩
  · intro content modified found
    cases removed.symm.trans found
  · intro cached _ entry found
    cases removed.symm.trans found

/-- Asking again after a success gives the same handle and changes nothing. -/
theorem schema_again {held : Held} (answered : (source.schema files).1.result = .ok held) :
    (source.schema files).2.schema files = (⟨.ok held, []⟩, (source.schema files).2) := by
  have asked := source.asked_schema files
  generalize outcome_eq : source.schema files = outcome at asked answered ⊢
  cases asked with
  | missing found => cases answered
  | blocked found => cases answered
  | kept found cached older =>
    obtain rfl := Except.ok.inj answered
    exact outcome_eq
  | failed found _ result => cases answered
  | loaded found _ result =>
    obtain rfl := Except.ok.inj answered
    simp [Source.schema, observe, found, ask, course, current?]

/-! ### Histories -/

/-- What can happen to a source and to the file it follows. After a write or a removal the files are
as given. -/
inductive Event where
  | write (after : Files) (content : ByteArray) (modified : Int)
  | remove (after : Files)
  | ask
  | invalidate

/-- A source in use, and the files as they are at the time. -/
structure Watch where
  files : Files
  source : Source

namespace Watch

def answer (watch : Watch) : Answer := (watch.source.schema watch.files).1

def apply (watch : Watch) : Event → Watch
  | .write after _ _ => ⟨after, watch.source⟩
  | .remove after => ⟨after, watch.source⟩
  | .ask => ⟨watch.files, (watch.source.schema watch.files).2⟩
  | .invalidate => ⟨watch.files, watch.source.invalidate⟩

def after (watch : Watch) (events : List Event) : Watch := events.foldl apply watch

end Watch

/-- A history in which each write leaves its content at the path, changed later than at all times
seen before, and each removal leaves nothing there. -/
def Timely (path : String) : List Int → List Event → Prop
  | _, [] => True
  | seen, .write after content modified :: rest =>
    after.find path = .ok (.file content modified) ∧ (∀ time ∈ seen, time < modified) ∧
      Timely path (modified :: seen) rest
  | seen, .remove after :: rest =>
    (∃ obstacle, after.find path = .error obstacle) ∧ Timely path seen rest
  | seen, .ask :: rest => Timely path seen rest
  | seen, .invalidate :: rest => Timely path seen rest

/-- The time of change of the file that is there at first. -/
def seenAt (files : Files) (path : String) : List Int :=
  match files.find path with
  | .ok (.file _ modified) => [modified]
  | _ => []

theorem upToDate_of (path : String) (files : Files) :
    (Source.of path).UpToDate files (seenAt files path) := by
  refine ⟨?_, ?_, ?_⟩
  · intro content modified found
    change files.find path = _ at found
    simp [seenAt, found]
  · rintro cached ⟨⟩
  · rintro cached ⟨⟩

theorem schema_path (source : Source) (files : Files) :
    (source.schema files).2.path = source.path := by
  have asked := source.asked_schema files
  generalize source.schema files = outcome at asked
  cases asked <;> rfl

/-- What each event keeps, a whole history keeps. -/
theorem UpToDate.after {path : String} (named : source.path = path)
    (fresh : source.UpToDate files seen) {history : List Event}
    (timely : Timely path seen history) :
    ((Watch.mk files source).after history).source.path = path ∧
      ∃ seen', ((Watch.mk files source).after history).source.UpToDate
        ((Watch.mk files source).after history).files seen' := by
  induction history generalizing files source seen with
  | nil => exact ⟨named, seen, fresh⟩
  | cons event rest ih =>
    subst named
    cases event with
    | write after content modified =>
      obtain ⟨written, newer, timely⟩ := timely
      exact ih rfl (fresh.write written newer) timely
    | remove after =>
      obtain ⟨⟨obstacle, removed⟩, timely⟩ := timely
      exact ih rfl (fresh.remove removed) timely
    | ask => exact ih (source.schema_path files) fresh.ask timely
    | invalidate => exact ih rfl fresh.invalidate timely

theorem answer_after_asks {watch : Watch} {held : Held} (answered : watch.answer.result = .ok held)
    (count : Nat) :
    (watch.after (List.replicate count .ask)).answer.result = .ok held := by
  induction count generalizing watch with
  | zero => exact answered
  | succ count ih =>
    have again : (watch.apply .ask).answer.result = .ok held :=
      congrArg (fun outcome => outcome.1.result) (schema_again answered)
    exact ih again

/-- After any history in which writes are later than those before, an answer is what a load makes
of the file as it then is, and as long as nothing but asking happens an answer stays the same one. -/
theorem answer_after {path : String} {files : Files} {history : List Event}
    (timely : Timely path (seenAt files path) history) :
    let watch := (Watch.mk files (.of path)).after history
    (∀ id, watch.answer.result.map (·.schema.under id) =
      match watch.files.find path with
      | .error (.blocked failure) => .error (.unreadable failure)
      | _ => load watch.files path id) ∧
    ∀ held, watch.answer.result = .ok held → ∀ count,
      (watch.after (List.replicate count .ask)).answer.result = .ok held := by
  intro watch
  obtain ⟨named, seen, fresh⟩ := (upToDate_of path files).after rfl timely
  refine ⟨fun id => ?_, fun held answered count => answer_after_asks answered count⟩
  have current := fresh.schema_result id
  unfold Source.current at current
  rw [named] at current
  exact current

/-! ### Files of a small document -/

/-- A document of one table, without the names of its fields. -/
def document (database : String) : String := "[\"" ++ database ++ "\",[[\"F\"]],[\"F\"]]"

def noFiles : Files := ⟨[], fun _ => none⟩

def stored (database : String) (modified : Int) : Files :=
  noFiles.write ["sales.json"] (.file (document database).toUTF8 modified) 0

private def replaced : List Event :=
  [.write (stored "Old" 5) (document "Old").toUTF8 5, .ask, .remove noFiles, .ask,
    .write (stored "New" 9) (document "New").toUTF8 9]

theorem find_stored (database : String) (modified : Int) :
    (stored database modified).find "sales.json" =
      .ok (.file (document database).toUTF8 modified) := by
  rfl

private theorem timely_replaced :
    Timely "sales.json" (seenAt noFiles "sales.json") replaced := by
  refine ⟨find_stored "Old" 5, ?_, ⟨.missing, rfl⟩, find_stored "New" 9, ?_, trivial⟩
  · intro time seen
    cases seen
  · intro time seen
    obtain rfl := List.mem_singleton.mp seen
    decide

private theorem ofEntry_text {path : String} {format : Format} {entry : Files.Entry} {text : String}
    (named : Format.ofPath path = .ok format) (read : entry.text = .ok text) (id : StarId) :
    ofEntry id path entry = ofText id format text := by
  rw [ofEntry, named]
  simp only [bind, Except.bind, Except.mapError, read]

theorem load_stored {database : String} (named : (ofText ⟨0⟩ .json (document database)).toOption.map
    (·.database.name) = some database) (modified : Int) : ∃ schema,
      load (stored database modified) "sales.json" ⟨0⟩ = .ok schema ∧
        schema.database.name = database := by
  have json : Format.ofPath "sales.json" = .ok .json := by rfl
  rw [load, find_stored database modified]
  simp only
  rw [ofEntry_text json (Files.Entry.text_toUTF8 (document database) modified)]
  generalize ofText ⟨0⟩ .json (document database) = result at named
  cases result with
  | error cause => cases named
  | ok schema => exact ⟨schema, rfl, Option.some.inj named⟩

theorem load_new (modified : Int) : ∃ schema,
    load (stored "New" modified) "sales.json" ⟨0⟩ = .ok schema ∧ schema.database.name = "New" :=
  load_stored (by decide +kernel) modified

/-- A file that was removed and written anew after its schema was cached. -/
theorem answer_after_replaced : Timely "sales.json" (seenAt noFiles "sales.json") replaced ∧
    ∃ held, ((Watch.mk noFiles (.of "sales.json")).after replaced).answer.result = .ok held ∧
      held.schema.database.name = "New" := by
  refine ⟨timely_replaced, ?_⟩
  have answered := (answer_after timely_replaced).1 ⟨0⟩
  obtain ⟨schema, loaded, name⟩ := load_new 9
  have files : ((Watch.mk noFiles (.of "sales.json")).after replaced).files = stored "New" 9 := rfl
  rw [files, find_stored, loaded] at answered
  cases result : ((Watch.mk noFiles (.of "sales.json")).after replaced).answer.result with
  | error cause =>
    rw [result] at answered
    cases answered
  | ok held =>
    rw [result] at answered
    exact ⟨held, rfl, (congrArg (·.database.name) (Except.ok.inj answered)).trans name⟩

/-- A file that stands where the path of a source takes a directory. -/
private def notes : Files := noFiles.write ["notes.txt"] (.file .empty 5) 0

theorem not_answer_eq_load : ¬ ∀ path files history, Timely path (seenAt files path) history →
    ∀ id, ((Watch.mk files (.of path)).after history).answer.result.map (·.schema.under id) =
      load ((Watch.mk files (.of path)).after history).files path id := by
  intro claim
  have same := claim "notes.txt/sales.toml" notes [] trivial ⟨0⟩
  have answered : (Watch.mk notes (.of "notes.txt/sales.toml")).answer.result =
      .error (.unreadable .notDirectory) := by rfl
  have loaded : load notes "notes.txt/sales.toml" ⟨0⟩ =
      .error (.fileNotFound "notes.txt/sales.toml") := by rfl
  change (Watch.mk notes (.of "notes.txt/sales.toml")).answer.result.map _ =
    load notes "notes.txt/sales.toml" ⟨0⟩ at same
  rw [answered, loaded] at same
  cases same

end Source

end Schema

end StarReport
