import Gamebook.Api.Message
import Gamebook.Desk.Bundle
import Gamebook.Desk.Draft
import Gamebook.Desk.Save

/-!
# Endpoints

Each service has an endpoint. A request for a path without an endpoint and one with another method
than that of the endpoint are turned away; slashes at the end of the path do no harm, nor does a
line feed in front of them. A request that lacks what the service needs, or gives it in another
shape, is answered by its problems. The case of a method does not matter.
-/

namespace Gamebook

inductive Endpoint where
  | health
  | load
  | validate
  | save
  | saveDraft
  | loadDraft
  | exportBundle
  | importBundle
deriving DecidableEq

namespace Endpoint

def all : List Endpoint :=
  [health, load, validate, save, saveDraft, loadDraft, exportBundle, importBundle]

def method : Endpoint → String
  | health | load | loadDraft | exportBundle => "GET"
  | validate | save | saveDraft | importBundle => "POST"

def path : Endpoint → String
  | health => "/health"
  | load => "/api/authoring/load"
  | validate => "/api/authoring/validate"
  | save => "/api/authoring/save"
  | saveDraft => "/api/authoring/save-draft"
  | loadDraft => "/api/authoring/load-draft"
  | exportBundle => "/api/packages/export"
  | importBundle => "/api/packages/import"

/-- The paths of the manual, which can only be fetched. -/
def manual : List String := ["/openapi.json", "/docs", "/docs/oauth2-redirect", "/redoc"]

/-- A path without what does no harm at its end. -/
def tidyPath (path : String) : String :=
  String.ofList
    (Text.dropFinalLineFeed ((path.toList.reverse.dropWhile (· = '/')).reverse))

def ofPath? (path : String) : Option Endpoint := all.find? fun e => e.path = tidyPath path

/-! ## What a request carries -/

def body {α : Type} (read : Reader α) (r : Request) : Checked α :=
  (match r.body with
    | some j => read j
    | none => .fail .missing).under "body"

def parameter (r : Request) (name : String) : Checked String :=
  match Entries.get? name r.query with
  | some s => .ok s
  | none => ((Checked.fail .missing).under name).under "query"

def credits (r : Request) : Checked Credits :=
  Credits.mk <$> parameter r "storyId" <*> parameter r "version" <*> parameter r "title"
    <*> parameter r "author"

/-- The parts of a package: its manifest, its story and its assets. -/
def packageParts : Reader (Json × Json × List Json) :=
  Reader.fields fun f =>
    (fun manifest story assets => (manifest, story, assets))
      <$> Reader.optional f (.word "manifest") .ok .null
      <*> Reader.optional f (.word "model")
        (fun j => (Reader.map .ok j).map fun _ => j) (.object [])
      <*> Reader.optional f (.word "assets") (Reader.list .ok) []

/-! ## Answers -/

def send (j : Json) : Service Response := do
  if j.isSendable then return ⟨200, .json j.withoutPrivate⟩ else throw .unsendable

/-- The status of a failure: the client is to blame for an unfit package. -/
def failureStatus : Failure → Nat
  | .storage _ => 500
  | _ => 422

/-- Answers a failure of a service. -/
def guarded (service : Service Response) : Service Response :=
  tryCatch service fun stop =>
    match stop with
    | .failure f => return .error (failureStatus f) f.toJson
    | stop => throw stop

/-- Goes on with what a request carries. -/
def given {α : Type} (carried : Checked α) (service : α → Service Response) : Service Response :=
  match carried with
  | .ok a => guarded (service a)
  | .refused problems => return .unprocessable problems

def sendSaved : Saved → Service Response
  | .rejected verdict =>
    return .error 400 (.object [
      ("code", "VALIDATION_FAILED"),
      ("message", "Validation failed"),
      ("errors", .array (verdict.errors.map Diagnostic.toJson)),
      ("warnings", .array (verdict.warnings.map Diagnostic.toJson))])
  | .written tables backups warnings =>
    send (.object [
      ("success", .bool true),
      ("written", .array (tables.map fun p => .string p.text)),
      ("backups", .array (backups.map fun p => .string p.text)),
      ("warnings", .array (warnings.map Diagnostic.toJson))])

def draftJson : Option Draft → Json
  | some d => .object [("exists", .bool true), ("savedAt", d.savedAt), ("model", d.story)]
  | none => .object [("exists", .bool false)]

/-- Answers a request at an endpoint. -/
def answer (s : Settings) (now : Instant) (r : Request) : Endpoint → Service Response
  | health => send (.object [("status", "ok")])
  | load => guarded do send (← Desk.load s).toJson
  | validate => given (body Story.ofJson r) fun story => do send (← Desk.validate s story).toJson
  | save => given (body Story.ofJson r) fun story => do sendSaved (← Desk.save s now story)
  | saveDraft =>
    given (body Story.ofJson r) fun story => do
      Desk.saveDraft s now story
      send (.object [("success", .bool true), ("savedAt", .string now.iso)])
  | loadDraft => guarded do send (draftJson (← Desk.loadDraft s))
  | exportBundle =>
    given (credits r) fun c => do send (← Desk.exportBundle s now c).toJson
  | importBundle =>
    given (body packageParts r) fun (manifest, story, assets) =>
      match Desk.importBundle s manifest story assets with
      | .ok imported => send imported.toJson
      | .error stop => throw stop

def respond (s : Settings) (now : Instant) (r : Request) : Service Response := do
  if !(r.body.all Json.isSendable) then throw .unsendable
  let method := r.method.toUpper
  match ofPath? r.path with
  | some e =>
    if e.method = method then answer s now r e else return .error 405 "Method Not Allowed"
  | none =>
    if manual.contains (tidyPath r.path) && method ≠ "GET" && method ≠ "HEAD" then
      return .error 405 "Method Not Allowed"
    else return .error 404 "Not Found"

end Endpoint

end Gamebook
