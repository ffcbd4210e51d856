import StarReport.Http.Service
import StarReport.Proofs.Schema.Freshness

/-!
Services in use. Requests come in while the file of the schema is written and removed. Whatever
happens, the service keeps its path and its options, what it has cached is up to date with the file,
and the star of the cached schema owns its members.
-/

set_option autoImplicit false
set_option relaxedAutoImplicit false

namespace StarReport

open StarReport.Star (StarId)

namespace Schema

namespace Source

/-- Sources whose cached star owns its members. -/
def Owned (source : Source) : Prop := ∀ cached ∈ source.cached, cached.held.schema.star.Owns

theorem Owned.ask {source : Source} (owned : source.Owned) (files : Files) :
    (source.schema files).2.Owned ∧
      ∀ held, (source.schema files).1.result = .ok held → held.schema.star.Owns := by
  have asked := source.asked_schema files
  generalize source.schema files = outcome at asked
  cases asked with
  | missing found => exact ⟨owned, fun held answered => by cases answered⟩
  | blocked found => exact ⟨owned, fun held answered => by cases answered⟩
  | failed found _ result => exact ⟨owned, fun held answered => by cases answered⟩
  | @kept entry cached found same older =>
    refine ⟨owned, fun held answered => ?_⟩
    obtain rfl := Except.ok.inj answered
    exact owned cached same
  | loaded found _ result =>
    have owns := owns_of_ofEntry result
    refine ⟨?_, fun held answered => ?_⟩
    · rintro cached ⟨⟩
      exact owns
    · obtain rfl := Except.ok.inj answered
      exact owns

end Source

end Schema

namespace Http

open Schema (Source)

private theorem respondListing_service (service : Service) (files : Files) (request : Request) :
    (service.respondListing files request).2 = service ∨
      (service.respondListing files request).2 =
        { service with source := (service.source.schema files).2 } := by
  unfold Service.respondListing
  by_cases get : request.method = "GET"
  · rw [if_pos get]
    exact .inr rfl
  · rw [if_neg get]
    by_cases head : request.method = "HEAD"
    · rw [if_pos head]
      exact .inr rfl
    · rw [if_neg head]
      exact .inl rfl

private theorem respondReport_service (service : Service) (files : Files) (request : Request) :
    (service.respondReport files request).2 = service ∨
      (service.respondReport files request).2 =
        { service with source := (service.source.schema files).2 } := by
  unfold Service.respondReport
  by_cases post : request.method = "POST"
  · rw [if_pos post]
    cases request.report? with
    | error response => exact .inl rfl
    | ok report => exact .inr rfl
  · rw [if_neg post]
    exact .inl rfl

/-- A response leaves the service as it was, or as it is after asking for the schema. -/
theorem Service.respond_service (service : Service) (files : Files) (request : Request) :
    (service.respond files request).2 = service ∨
      (service.respond files request).2 =
        { service with source := (service.source.schema files).2 } := by
  unfold Service.respond
  by_cases options : request.method = "OPTIONS"
  · rw [if_pos options]
    exact .inl rfl
  · rw [if_neg options]
    by_cases metadata : request.path = "/api/metadata"
    · rw [if_pos metadata]
      exact respondListing_service service files request
    · rw [if_neg metadata]
      by_cases report : request.path = "/api/report"
      · rw [if_pos report]
        exact respondReport_service service files request
      · rw [if_neg report]
        exact .inl rfl

/-- What can happen to a service and to the file that it follows: a write or a removal, after which
the files are as given, a request, or the loading of the schema with which a service starts. -/
inductive Event where
  | write (after : Files) (content : ByteArray) (modified : Int)
  | remove (after : Files)
  | request (request : Request)
  | start

/-- What an event is to the source of the service. -/
def Event.toSource : Event → Source.Event
  | write after content modified => .write after content modified
  | remove after => .remove after
  | request _ => .ask
  | start => .ask

/-- A service in use, and the files as they are at the time. -/
structure Deployment where
  files : Files
  service : Service

namespace Deployment

def apply (deployment : Deployment) : Event → Deployment
  | .write after _ _ => ⟨after, deployment.service⟩
  | .remove after => ⟨after, deployment.service⟩
  | .request request => ⟨deployment.files, (deployment.service.respond deployment.files request).2⟩
  | .start => ⟨deployment.files, { deployment.service with
      source := (deployment.service.source.schema deployment.files).2 }⟩

def after (deployment : Deployment) (history : List Event) : Deployment :=
  history.foldl apply deployment

/-- A service that follows a path under given options and is not behind the file. -/
structure Sound (path : String) (options : Report.Options) (seen : List Int)
    (deployment : Deployment) : Prop where
  path : deployment.service.source.path = path
  options : deployment.service.options = options
  fresh : deployment.service.source.UpToDate deployment.files seen
  owned : deployment.service.source.Owned

variable {path : String} {options : Report.Options} {seen : List Int} {deployment : Deployment}

theorem Sound.ask (sound : deployment.Sound path options seen) :
    (Deployment.mk deployment.files { deployment.service with
      source := (deployment.service.source.schema deployment.files).2 }).Sound path options seen :=
  ⟨(Source.schema_path _ _).trans sound.path, sound.options, sound.fresh.ask,
    (sound.owned.ask deployment.files).1⟩

theorem Sound.respond (sound : deployment.Sound path options seen) (request : Request) :
    (deployment.apply (.request request)).Sound path options seen := by
  rcases deployment.service.respond_service deployment.files request with kept | asked
  · rw [apply, kept]
    exact sound
  · rw [apply, asked]
    exact sound.ask

/-- A history of timely events keeps a service sound. -/
theorem Sound.after (sound : deployment.Sound path options seen) {history : List Event}
    (timely : Source.Timely path seen (history.map Event.toSource)) :
    ∃ seen', (deployment.after history).Sound path options seen' := by
  induction history generalizing deployment seen with
  | nil => exact ⟨seen, sound⟩
  | cons event rest ih =>
    cases event with
    | write after content modified =>
      obtain ⟨written, newer, timely⟩ := timely
      rw [← sound.path] at written
      exact ih ⟨sound.path, sound.options, sound.fresh.write written newer, sound.owned⟩ timely
    | remove after =>
      obtain ⟨⟨obstacle, removed⟩, timely⟩ := timely
      rw [← sound.path] at removed
      exact ih ⟨sound.path, sound.options, sound.fresh.remove removed, sound.owned⟩ timely
    | request request => exact ih (sound.respond request) timely
    | start => exact ih sound.ask timely

/-- A sound service answers with an error or a schema just where the file loads as one, and the two
schemas differ in the identity of the star alone. -/
theorem Sound.loaded (sound : deployment.Sound path options seen) :
    (∃ cause cause',
      (deployment.service.source.schema deployment.files).1.result = .error cause ∧
        Schema.load deployment.files path ⟨0⟩ = .error cause') ∨
    ∃ held, (deployment.service.source.schema deployment.files).1.result = .ok held ∧
      held.schema.star.Owns ∧
        Schema.load deployment.files path ⟨0⟩ = .ok (held.schema.under ⟨0⟩) := by
  have answered := sound.fresh.schema_result ⟨0⟩
  have owned := (sound.owned.ask deployment.files).2
  rw [Source.current, sound.path] at answered
  generalize (deployment.service.source.schema deployment.files).1.result = result at answered owned
  cases result with
  | error cause =>
    cases found : deployment.files.find path with
    | error obstacle =>
      exact .inl ⟨cause, .fileNotFound path, rfl, by rw [Schema.load, found]⟩
    | ok entry =>
      rw [found] at answered
      exact .inl ⟨cause, cause, rfl, answered.symm⟩
  | ok held =>
    refine .inr ⟨held, rfl, owned held rfl, ?_⟩
    cases found : deployment.files.find path with
    | error obstacle =>
      rw [Schema.load, found] at answered
      cases obstacle <;> cases answered
    | ok entry =>
      rw [found] at answered
      exact answered.symm

theorem sound_of (path : String) (options : Report.Options) (files : Files) :
    (Deployment.mk files ⟨.of path, options⟩).Sound path options (Source.seenAt files path) :=
  ⟨rfl, rfl, Source.upToDate_of path files, by rintro cached ⟨⟩⟩

end Deployment

end Http

end StarReport
