import StarReport.Http.MediaType
import StarReport.Json.Printer
import StarReport.Json.Reader
import StarReport.Report.Encode
import StarReport.Schema.Source

/-!
The service over HTTP. One resource lists the fields of the star, the other compiles reports. The
form of a request is judged before the schema is looked at; then the schema is taken from its
source, which may reload it.
-/

set_option autoImplicit false
set_option relaxedAutoImplicit false

namespace StarReport.Http

open StarReport.Tree (Fault)

structure Request where
  method : String
  target : String
  contentType : Option String
  body : String
deriving DecidableEq

structure Response where
  status : Nat
  body : String
deriving DecidableEq

/-- A running service: where the schema comes from and how reports are compiled. -/
structure Service where
  source : Schema.Source
  options : Report.Options
deriving DecidableEq

/-- What a text holds after the first colon with two slashes. -/
def afterScheme? : List Char → Option (List Char)
  | [] => none
  | ':' :: '/' :: '/' :: rest => some rest
  | _ :: rest => afterScheme? rest

/-- The path of a request, without what comes after a question mark or a number sign. A target that
names a scheme names a host before the path, and its path has a slash at least; any other target
without a slash in front has no path. -/
def Request.path (request : Request) : String :=
  let target := request.target.toList
  let beforeQuery := fun cs : List Char => cs.takeWhile fun c => c ≠ '?' ∧ c ≠ '#'
  if target.head? = some '/' then String.ofList (beforeQuery target)
  else match afterScheme? target with
    | none => ""
    | some rest =>
      let path := beforeQuery (rest.dropWhile fun c => c ≠ '/' ∧ c ≠ '?' ∧ c ≠ '#')
      if path.isEmpty then "/" else String.ofList path

def Service.listing (service : Service) (files : Files) : Response × Service :=
  let (answer, source) := service.source.schema files
  let response := match answer.result with
    | .error cause => ⟨500, cause.message⟩
    | .ok held => ⟨200, Json.write (Report.encodeListing (Report.listing held.schema.star))⟩
  (response, { service with source := source })

/-- The response to an error of compiling: an unknown name is not found, and all else is a failure
of the service. -/
def refusal (cause : Report.BindingError) : Response :=
  let message := cause.message fun star => toString star.serial
  match cause with
  | .dimensionNotFound _ => ⟨404, message⟩
  | .measureNotFound _ => ⟨404, message⟩
  | .report _ => ⟨500, message⟩

def Service.report (service : Service) (files : Files) (request : Report.Request) :
    Response × Service :=
  let (answer, source) := service.source.schema files
  let response := match answer.result with
    | .error cause => ⟨500, cause.message⟩
    | .ok held =>
      match request.bind held.schema.star service.options with
      | .error cause => refusal cause
      | .ok sql => ⟨200, Json.write (Report.encodeStatement sql)⟩
  (response, { service with source := source })

/-- The report that a request asks for, or the response to a request of the wrong form. -/
def Request.report? (request : Request) : Except Response Report.Request :=
  if (request.contentType.map isJson).getD false then
    (Json.decode Report.Request.decode request.body).mapError fun
      | .malformed => ⟨400, "the body is not a JSON text"⟩
      | .mismatched => ⟨422, "the body is not a report request"⟩
  else .error ⟨415, "the body has to be announced as JSON"⟩

def Service.respondListing (service : Service) (files : Files) (request : Request) :
    Response × Service :=
  if request.method = "GET" then service.listing files
  else if request.method = "HEAD" then
    let (response, service) := service.listing files
    ({ response with body := "" }, service)
  else (⟨405, ""⟩, service)

def Service.respondReport (service : Service) (files : Files) (request : Request) :
    Response × Service :=
  if request.method = "POST" then
    match request.report? with
    | .error response => (response, service)
    | .ok report => service.report files report
  else (⟨405, ""⟩, service)

/-- The response to a request, and the service after it. Anyone may ask which requests are allowed,
for any path. -/
def Service.respond (service : Service) (files : Files) (request : Request) :
    Response × Service :=
  if request.method = "OPTIONS" then (⟨200, ""⟩, service)
  else if request.path = "/api/metadata" then service.respondListing files request
  else if request.path = "/api/report" then service.respondReport files request
  else (⟨404, ""⟩, service)

end StarReport.Http
