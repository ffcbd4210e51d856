import StarReport.Proofs.Document.Written
import StarReport.Proofs.Http.Agreement
import StarReport.Proofs.Json.Indented
import StarReport.Proofs.Report.Advertised

/-!
The two listings of a schema. Whatever a service has been through, it answers with a listing where a
run of the command line prints one at the same moment, and with a failure where the run fails. The
answer is compact and the print is indented, and both are read as one array, in which every name and
every function of the document stands as it is.
-/

set_option autoImplicit false
set_option relaxedAutoImplicit false

namespace StarReport

/-- The array of the names and functions of a document. -/
def Document.metadata (document : Document) : Tree :=
  .list (document.star.dimensions.map (fun entry =>
      .object [("type", .string "dimension"), ("name", .string entry.name)]) ++
    document.star.measures.map fun entry =>
      .object [("type", .string "measure"), ("name", .string entry.name),
        ("function", .string entry.function.text)])

namespace Report

theorem plain_encodeListing (fields : List Field) : Json.plain (encodeListing fields) = true := by
  refine Json.plain_list.mpr fun item among => ?_
  obtain ⟨field, _, rfl⟩ := List.mem_map.mp among
  cases field <;> rfl

/-- The listing of a schema that is built is the array of its document. -/
theorem encodeListing_of_build {id : Star.StarId} {document : Document} {schema : Schema}
    (built : Schema.build id document = .ok schema) :
    encodeListing (listing schema.star) = document.metadata := by
  obtain ⟨_, rfl⟩ := Document.build_eq_ok.mp built
  rw [document.listing_schema id, encodeListing, List.map_append, List.map_map, List.map_map]
  rfl

end Report

namespace Http

open CommandLine (Exit)

/-- A response of the service and an exit of the command line that list the same fields, or that
fail because the schema does not load. -/
inductive Listed (files : Files) (path : String) : Response → Exit → Prop
  | fields {schema : Schema} : Schema.load files path ⟨0⟩ = .ok schema →
      Listed files path ⟨200, Json.write (Report.encodeListing (Report.listing schema.star))⟩
        (.success
          (Json.writeIndented (Report.encodeListing (Report.listing schema.star)) ++ "\n"))
  | failed {cause : Schema.LoadError} {message reason : String} :
      Schema.load files path ⟨0⟩ = .error cause →
      Listed files path ⟨500, message⟩ (.failure reason)

variable {files : Files} {path : String} {response : Response} {exit : Exit}

theorem Deployment.Sound.listed {deployment : Deployment} {options : Report.Options}
    {seen : List Int} (sound : deployment.Sound path options seen) :
    Listed deployment.files path (deployment.service.listing deployment.files).1
      (.of (CommandLine.listingOutput deployment.files path)) := by
  unfold Service.listing CommandLine.listingOutput CommandLine.loadSchema
  simp only
  rcases sound.loaded with ⟨cause, cause', answered, unloaded⟩ | ⟨held, answered, _, loaded⟩
  · rw [answered, unloaded]
    exact .failed unloaded
  · have same : Report.listing held.schema.star =
        Report.listing (held.schema.under ⟨0⟩).star :=
      (Report.listing_copy held.schema.star ⟨0⟩).symm
    rw [answered, loaded]
    simp only [same]
    exact .fields loaded

theorem Listed.status_iff (listed : Listed files path response exit) :
    response.status = 200 ↔ exit.code = 0 := by
  cases listed with
  | fields loaded => exact ⟨fun _ => rfl, fun _ => rfl⟩
  | failed unloaded => constructor <;> intro absurdity <;> cases absurdity

theorem Listed.of_error (listed : Listed files path response exit) {cause : Schema.LoadError}
    (unloaded : Schema.load files path ⟨0⟩ = .error cause) :
    response.status = 500 ∧ exit.code = 1 ∧ exit.output = "" := by
  cases listed with
  | fields loaded => cases loaded.symm.trans unloaded
  | failed _ => exact ⟨rfl, rfl, rfl⟩

/-- Both texts are read back as the listing of the schema. -/
theorem Listed.of_ok (listed : Listed files path response exit) {schema : Schema}
    (loaded : Schema.load files path ⟨0⟩ = .ok schema) :
    let array := Report.encodeListing (Report.listing schema.star)
    response.status = 200 ∧ exit.code = 0 ∧
      Json.tree? response.body = some array ∧ Json.tree? exit.output = some array := by
  intro array
  have isPlain : Json.plain array = true := Report.plain_encodeListing _
  cases listed with
  | fields loaded' =>
    obtain rfl := Except.ok.inj (loaded.symm.trans loaded')
    exact ⟨rfl, rfl, Json.tree?_write isPlain, Json.tree?_writeIndented isPlain⟩
  | failed unloaded => cases loaded.symm.trans unloaded

/-- Whatever requests a service has answered and however the file of its schema was written, each
time anew, and removed, a request for the fields is answered with them exactly where a run of the
command line prints them; else the service fails and the run fails without any output. Where there
is an answer the file holds a document, and the answer and the print are both read as the array of
its names and functions, which is the listing of the star. -/
theorem metadata_after {parser : Sql.Parser} {path : String} {settings : Settings} {files : Files}
    {history : List Event}
    (timely : Schema.Source.Timely path (Schema.Source.seenAt files path)
      (history.map Event.toSource))
    {deployment : Deployment}
    (reached : deployment = (Deployment.mk files ⟨.of path, settings.options⟩).after history)
    {environment : Environment} {config schema : Option String} {arguments : List String}
    (parsed : CommandLine.parse arguments = some (.run ⟨config, .describe schema⟩))
    (configured : CommandLine.settings deployment.files environment config = .ok settings)
    (located : CommandLine.schemaPath schema settings environment = .ok path)
    {request : Request} (asked : request.method = "GET")
    (addressed : request.path = "/api/metadata") :
    let response := (deployment.service.respond deployment.files request).1
    ∃ exit, CommandLine.run parser deployment.files environment arguments = .ended exit ∧
      (response.status = 200 ↔ exit.code = 0) ∧
      (∀ cause, Schema.load deployment.files path ⟨0⟩ = .error cause →
        response.status = 500 ∧ exit.code = 1 ∧ exit.output = "") ∧
      ∀ schema, Schema.load deployment.files path ⟨0⟩ = .ok schema →
        response.status = 200 ∧ exit.code = 0 ∧
        ∃ document : Document, document.InFile deployment.files path ∧
          Schema.build ⟨0⟩ document = .ok schema ∧
          Report.encodeListing (Report.listing schema.star) = document.metadata ∧
          Json.tree? response.body = some document.metadata ∧
          Json.tree? exit.output = some document.metadata := by
  intro response
  obtain ⟨seen, sound⟩ := (Deployment.sound_of path settings.options files).after timely
  rw [← reached] at sound
  have answered : response = (deployment.service.listing deployment.files).1 := by
    have plain : request.method ≠ "OPTIONS" := by
      rw [asked]
      decide
    change (deployment.service.respond deployment.files request).1 = _
    rw [Service.respond, if_neg plain, if_pos addressed, Service.respondListing, if_pos asked]
  have run : CommandLine.run parser deployment.files environment arguments = .ended
      (.of (CommandLine.listingOutput deployment.files path)) := by
    rw [CommandLine.run, parsed]
    simp only [CommandLine.Invocation.run, configured, CommandLine.Command.run, located]
    rfl
  have listed := sound.listed
  rw [← answered] at listed
  refine ⟨_, run, listed.status_iff, fun cause unloaded => listed.of_error unloaded,
    fun schema loaded => ?_⟩
  obtain ⟨status, code, body, output⟩ := listed.of_ok loaded
  obtain ⟨document, held, built⟩ := Schema.load_eq_ok.mp loaded
  rw [Report.encodeListing_of_build built] at body output
  exact ⟨status, code, document, held, built, Report.encodeListing_of_build built, body, output⟩

/-- A document with names and a function of quotes, backslashes, control characters and letters from
beyond ASCII. -/
private def oddNames : Document :=
  ⟨"StarDB", [⟨"Sales", none, []⟩],
    ⟨"Sales", [⟨"\\\"Größe\"\x00", "Sales", "Size"⟩, ⟨"\r\n\t", "Sales", "Lines"⟩], [],
      [⟨"売上😀\x1f", .other "SUM\"\x7f", "Sales", "Amount"⟩]⟩⟩

private def oddContent : ByteArray := (Json.write oddNames.encode).toUTF8

private def oddFiles : Files :=
  Schema.Source.noFiles.write ["sales.json"] (.file oddContent 5) 0

private theorem oddNames_inFile : oddNames.InFile oddFiles "sales.json" := by
  have spelled : oddNames.star.Spelled := by
    intro measure mem
    obtain rfl := List.mem_singleton.mp mem
    exact ⟨"SUM\"\x7f", rfl⟩
  exact ⟨.file oddContent 5, .json, _, rfl, rfl, Files.Entry.text_toUTF8 _ _,
    (oddNames.texts_written.decoded spelled).1⟩

/-- A service starts, and its file is written afterwards. -/
private def publication : List Event := [.start, .write oddFiles oddContent 5]

private def published : Deployment :=
  (Deployment.mk Schema.Source.noFiles ⟨.of "sales.json", Settings.default.options⟩).after
    publication

private theorem files_published : published.files = oddFiles := rfl

private theorem timely_publication : Schema.Source.Timely "sales.json"
    (Schema.Source.seenAt Schema.Source.noFiles "sales.json")
    (publication.map Event.toSource) := by
  refine ⟨rfl, ?_, trivial⟩
  intro time seen
  cases seen

/-- Every name is listed as it is in the document. -/
theorem metadata_of_oddNames : ∃ response exit,
    (published.service.respond published.files ⟨"GET", "/api/metadata", none, ""⟩).1 = response ∧
    CommandLine.run Sql.Grammar.parser published.files (.ofList []) ["describe", "sales.json"] =
      .ended exit ∧
    response.status = 200 ∧ exit.code = 0 ∧
    let array := Tree.list [
      .object [("type", .string "dimension"), ("name", .string "\\\"Größe\"\x00")],
      .object [("type", .string "dimension"), ("name", .string "\r\n\t")],
      .object [("type", .string "measure"), ("name", .string "売上😀\x1f"),
        ("function", .string "SUM\"\x7f")]]
    Json.tree? response.body = some array ∧ Json.tree? exit.output = some array := by
  have parsed : CommandLine.parse ["describe", "sales.json"] =
      some (.run ⟨none, .describe (some "sales.json")⟩) := by decide +kernel
  have configured : CommandLine.settings oddFiles (.ofList []) none = .ok Settings.default := by
    rfl
  have loaded : Schema.load oddFiles "sales.json" ⟨0⟩ = .ok (oddNames.schema ⟨0⟩) :=
    Schema.load_eq_ok.mpr ⟨oddNames, oddNames_inFile, rfl⟩
  have addressed : (Request.mk "GET" "/api/metadata" none "").path = "/api/metadata" := by
    decide +kernel
  rw [← files_published] at configured loaded
  obtain ⟨exit, run, _, _, listed⟩ := metadata_after timely_publication
    (rfl : published = _) parsed configured rfl rfl addressed
  obtain ⟨status, code, document, _, _, same, body, output⟩ := listed _ loaded
  rw [← same] at body output
  exact ⟨_, exit, rfl, run, status, code, body, output⟩

end Http

end StarReport
