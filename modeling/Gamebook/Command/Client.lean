import Gamebook.Api.Endpoint
import Gamebook.Command.Option

/-!
# The client commands

Each command asks one endpoint and prints what it is answered. Files that the author names hold
stories or packages as JSON. The exit code is 0, or 1 if the answer tells about errors, or 2 if the
command line or a file that it names is of no use.
-/

namespace Gamebook

inductive ClientOrder where
  | ping
  | load (output : Option Path)
  | validate (file : Path)
  | save (file : Path)
  | saveDraft (file : Path)
  | loadDraft (output : Option Path)
  | exportBundle (credits : Credits) (output : Path)
  | importBundle (file : Path)

namespace ClientOrder

def withoutOperand (specs : List OptionSpec) (args : List String) : Except Usage Arguments := do
  let a ← OptionSpec.readExact (specs ++ [.help]) true .none args
  if a.operands.isEmpty then return a else throw .wrong

def withFile (order : Path → ClientOrder) (args : List String) : Except Usage ClientOrder := do
  match (← OptionSpec.readExact [.help] true .none args).operands with
  | [file] => return order (.ofText file)
  | _ => throw .wrong

/-- Reads the arguments of a command that may write a file. -/
def withOutput (order : Option Path → ClientOrder) (args : List String) :
    Except Usage ClientOrder := do
  let a ← withoutOperand [.free "--out"] args
  return order ((a.value? "--out").map Path.ofText)

/-- Reads the arguments of the export of a package. All of them are needed. -/
def exportOf (args : List String) : Except Usage ClientOrder := do
  let a ← withoutOperand
    [.free "--story-id", .free "--version", .free "--title", .free "--author", .free "--out"] args
  match a.value? "--story-id", a.value? "--version", a.value? "--title", a.value? "--author",
      a.value? "--out" with
  | some storyId, some version, some title, some author, some output =>
    return .exportBundle ⟨storyId, version, title, author⟩ (.ofText output)
  | _, _, _, _, _ => throw .wrong

/-- The command that a group of commands is asked for, and its arguments. -/
def commandOf (args : List String) : Except Usage (String × List String) := do
  match (← OptionSpec.readExact [.help] false .none args).operands with
  | name :: rest => return (name, rest)
  | [] => throw .wrong

def ofDraftArguments (args : List String) : Except Usage ClientOrder := do
  match ← commandOf args with
  | ("save", args) => withFile .saveDraft args
  | ("load", args) => withOutput .loadDraft args
  | _ => throw .wrong

def ofPackageArguments (args : List String) : Except Usage ClientOrder := do
  match ← commandOf args with
  | ("export", args) => exportOf args
  | ("import", args) => withFile .importBundle args
  | _ => throw .wrong

def ofArguments (args : List String) : Except Usage ClientOrder := do
  match ← commandOf args with
  | ("ping", args) =>
    let _ ← withoutOperand [] args
    return .ping
  | ("load", args) => withOutput .load args
  | ("validate", args) => withFile .validate args
  | ("save", args) => withFile .save args
  | ("draft", args) => ofDraftArguments args
  | ("package", args) => ofPackageArguments args
  | _ => throw .wrong

end ClientOrder

namespace Client

/-! ## What the client makes of JSON -/

/-- The collections of a story, or of an answer that holds one; what is missing is empty. -/
def storyOf (j : Json) : Json :=
  let inner := j.field "model"
  let source := if inner.object?.isSome then inner else j
  .object (collectionNames.map fun name =>
    let found := source.field name
    (name, if found.truthy then found else .object []))

def diagnosticLine (j : Json) : String :=
  let file := j.field "file"
  let row := j.field "row"
  let place := (if file.truthy then file.plain else "") ++
    if row.isNull then "" else ":" ++ row.plain
  (j.field "code").plain ++ " [" ++ (j.field "severity").plain ++ "]" ++
    (if place = "" then "" else " " ++ place) ++ ": " ++ (j.field "message").plain

/-- What the text of a response says about an error. -/
def detailOf (text : String) : Json :=
  match (Json.ofBytes (Text.encode text)).map (Json.field "detail") with
  | .ok (.object fields) => .object fields
  | _ => .object []

def items (j : Json) : List Json := j.array?.getD []

/-- The lines of the diagnostics in an answer, and their number. -/
def diagnosticLines (j : Json) : List String :=
  let errors := items (j.field "errors")
  let warnings := items (j.field "warnings")
  ((errors ++ warnings).map fun d => "  " ++ diagnosticLine d) ++
    [natText errors.length ++ " error(s), " ++ natText warnings.length ++ " warning(s)"]

/-! ## Talking to endpoints -/

structure Printed where
  exitCode : Nat
  lines : List String

def ask (s : Settings) (now : Instant) (e : Endpoint) (body : Option Json)
    (query : Entries String) : Service Response :=
  Endpoint.respond s now ⟨e.method, e.path, query, body⟩

/-- The start of the line that tells about an error. -/
def failureLine (action : String) (status : Nat) : String :=
  action ++ " failed (" ++ natText status ++ "): "

/-- Goes on with the answer, unless the response tells about an error: then prints what it says. -/
def answered (action : String) (r : Response) (f : Json → Service Printed) : Service Printed :=
  match r.content with
  | .problems _ => return ⟨1, [failureLine action r.status ++ "<body>"]⟩
  | .json j =>
    if r.status < 400 then f j
    else
      let detail := j.field "detail"
      let code := detail.field "code"
      return ⟨1,
        (failureLine action r.status ++ if code.truthy then code.plain else j.toLine) ::
          if (detail.field "errors").truthy then diagnosticLines detail else []⟩

def readJson (p : Path) : Service (Option Json) := do
  match (← Service.files).read p with
  | .error _ => return none
  | .ok bytes =>
    match (Text.decode? bytes).map Json.ofText with
    | some (.ok j) => return some j
    | some (.error .malformed) => return none
    | some (.error .oversized) => throw .oversized
    | none => throw .undecodable

/-- Writes JSON to a file that the author names. The directory must be there. -/
def writeJson (p : Path) (j : Json) : Service (List String) := do
  match (← Service.files).write p (Text.encode j.toBlock) with
  | .ok w =>
    Service.replace w
    return ["wrote " ++ p.text]
  | .error fault => throw (.file fault)

def writeStory (output : Option Path) (j : Json) : Service (List String) :=
  match output with
  | some p => writeJson p (storyOf j)
  | none => return []

/-- What the client prints when a file that the author names is of no use. -/
def useless : Printed := ⟨2, []⟩

/-- Goes on with the story in a file that the author names. -/
def withStory (p : Path) (f : Json → Service Printed) : Service Printed := do
  match ← readJson p with
  | some (.object fields) => f (storyOf (.object fields))
  | _ => return useless

/-! ## Commands -/

def perform (s : Settings) (now : Instant) : ClientOrder → Service Printed
  | .ping => do
    answered "ping" (← ask s now .health none []) fun j => return ⟨0, ["ok: " ++ j.plain]⟩
  | .load output => do
    answered "load" (← ask s now .load none []) fun j => do
      let counts := collectionNames.map fun name =>
        name ++ "=" ++ natText ((j.field name).object?.getD []).length
      return ⟨0, " ".intercalate counts :: diagnosticLines j ++ (← writeStory output j)⟩
  | .validate file =>
    withStory file fun story => do
      answered "validate" (← ask s now .validate (some story) []) fun j =>
        return ⟨if (j.field "errors").truthy then 1 else 0, diagnosticLines j⟩
  | .save file =>
    withStory file fun story => do
      answered "save" (← ask s now .save (some story) []) fun j =>
        return ⟨0, ((items (j.field "written")).map fun p => "written: " ++ p.plain) ++
          ((items (j.field "backups")).map fun p => "backup: " ++ p.plain) ++ diagnosticLines j⟩
  | .saveDraft file =>
    withStory file fun story => do
      answered "draft save" (← ask s now .saveDraft (some story) []) fun j =>
        return ⟨0, ["saved_at: " ++ (j.field "savedAt").plain]⟩
  | .loadDraft output => do
    answered "draft load" (← ask s now .loadDraft none []) fun j => do
      if (j.field "exists").truthy then
        return ⟨0, ("saved_at: " ++ (j.field "savedAt").plain) :: (← writeStory output j)⟩
      else return ⟨0, ["no draft saved"]⟩
  | .exportBundle c output => do
    let query := [("storyId", c.storyId), ("version", c.version), ("title", c.title),
      ("author", c.author)]
    answered "package export" (← ask s now .exportBundle none query) fun j =>
      return ⟨0, ← writeJson output j⟩
  | .importBundle file => do
    match ← readJson file with
    | none => return useless
    | some bundle =>
      let body := if bundle.isNull then none else some bundle
      answered "package import" (← ask s now .importBundle body []) fun j =>
        let accepted := j.field "accepted"
        return ⟨if accepted.truthy then 0 else 1,
          ("accepted: " ++ accepted.plain) ::
            ((items (j.field "assetDiagnostics")).map fun d => "  " ++ diagnosticLine d) ++
            diagnosticLines j⟩

end Client

namespace Command

def client (s : Settings) (now : Instant) (order : ClientOrder) : Service Outcome := do
  let printed ← Client.perform s now order
  return ⟨printed.exitCode, Outcome.lines printed.lines, ""⟩

end Command

end Gamebook
