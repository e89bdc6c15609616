import Gamebook.Check.Verdict
import Gamebook.Workspace.Storage

/-!
# The author's desk

An author works at a desk: files in a workspace, and notices that are given on the way. A service
may change the files, gives notices and either answers or stops. Settings say where things lie and
what is allowed.
-/

namespace Gamebook

/-- Where things lie and what is allowed. -/
structure Settings where
  /-- The directory of the tables. -/
  tables : Path
  artifacts : Path
  /-- Where the draft lies, seen from the directory of the tables. -/
  draftName : String
  /-- The nodes at which a story may start. -/
  starts : List String
  /-- The nodes that may be dead ends. -/
  allowedDeadEnds : List String
  maxWarnings : Option Int
  maxAssetBytes : Int
  /-- How deep a value may be nested for a copy of it to be made. -/
  maxCopied : Nat
  /-- How deep a value may be nested to be shown in a message. -/
  maxShown : Nat

namespace Settings

/-- The settings of an author who sets nothing. -/
def standard : Settings where
  tables := ⟨["data", "csv"]⟩
  artifacts := ⟨["data", "compiled"]⟩
  draftName := ".authoring-draft.json"
  starts := [defaultStart]
  allowedDeadEnds := []
  maxWarnings := none
  maxAssetBytes := 5 * 1024 * 1024
  maxCopied := 495
  maxShown := 990

def table (s : Settings) (kind : EntityKind) : Path := s.tables.child kind.file

def draft (s : Settings) : Path := s.tables.join (.ofText s.draftName)

/-- The verdict on a story, once nothing has stopped its check. -/
def judge (s : Settings) (story : Story) : Verdict := story.verdict s.starts s.allowedDeadEnds

def check (s : Settings) (story : Story) : Except Text.Oversized Verdict :=
  story.check s.starts s.allowedDeadEnds

end Settings

/-! ## Notices -/

/-- What is told on the way to an answer. -/
inductive Notice where
  | compiler (w : Warning)
  | saveRejected (errors : Nat)
  | buildSkipped (errors : Nat)

def Notice.message : Notice → String
  | compiler w => w.message
  | saveRejected errors => "Save rejected: " ++ natText errors ++ " validation errors"
  | buildSkipped errors => "Build skipped writing: " ++ natText errors ++ " validation errors"

/-! ## Failures -/

/-- A failure of a service, as opposed to an issue of the story. -/
inductive Failure where
  | storage (failure : StorageFailure)
  /-- A package is to be made with a blank field. -/
  | blankManifest
  /-- The manifest of a package is unfit, first of all for this reason. -/
  | unfitManifest (reason : String)
  /-- The story of a package has this many problems. -/
  | unfitStory (count : Nat)

namespace Failure

def code : Failure → String
  | storage (.unreadable _ _) => "TABLE_READ_FAILED"
  | storage (.unwritable _ _) => "TABLE_WRITE_FAILED"
  | blankManifest => "PACKAGE_INVALID_MANIFEST"
  | unfitManifest _ => "PACKAGE_INVALID_MANIFEST"
  | unfitStory _ => "PACKAGE_INVALID_PAYLOAD"

def message : Failure → String
  | storage failure => failure.message
  | blankManifest => "Manifest fields must be non-empty strings"
  | unfitManifest reason => "Invalid package manifest: " ++ reason
  | unfitStory count =>
    "Package model does not match the story schema (" ++ natText count ++ " problems)"

def hint? : Failure → Option String
  | storage (.unreadable _ _) => some "Check that the file exists and is valid CSV."
  | blankManifest => some "Provide storyId, version, title, author."
  | unfitManifest _ => some "Manifest needs non-empty storyId, version, title, author."
  | _ => none

def toJson (f : Failure) : Json :=
  .object ([("code", Json.string f.code), ("message", .string f.message)] ++
    (f.hint?.map fun s => ("hint", Json.string s)).toList)

end Failure

/-- What ends a service without an answer. -/
inductive Stop where
  | failure (f : Failure)
  /-- The tables do not compile. -/
  | refused (problems : List Problem)
  /-- A file that is none of the tables and drafts cannot be read or written. -/
  | file (fault : FileFault)
  /-- Such a file holds no text. -/
  | undecodable
  /-- A number has too many digits to be read or written. -/
  | oversized
  /-- A value is nested too deep to be copied or shown. -/
  | tooDeep
  /-- A number or a garbled text has no place in a message. -/
  | unsendable

/-! ## Services -/

/-- Files, and the notices so far. -/
structure Desk where
  files : Workspace
  notices : List Notice

/-- A service works at a desk and answers or stops. -/
abbrev Service (α : Type) := ExceptT Stop (StateM Desk) α

namespace Service

variable {α : Type}

def files : Service Workspace := do return (← get).files

def notify (notices : List Notice) : Service Unit :=
  modify fun desk => { desk with notices := desk.notices ++ notices }

def replace (w : Workspace) : Service Unit := modify fun desk => { desk with files := w }

def fail (f : Failure) : Service α := throw (.failure f)

def ofStorage : Except StorageFailure α → Service α
  | .ok a => return a
  | .error failure => fail (.storage failure)

def ofRead : Except Text.Oversized α → Service α
  | .ok a => return a
  | .error _ => throw .oversized

/-- What a compilation gives, with its warnings as notices. -/
def ofCompiling (c : Compiling α) : Service α := do
  let run := c.run
  notify (run.warnings.map .compiler)
  match run.value with
  | .ok a => return a
  | .error (.refused problems) => throw (.refused problems)
  | .error .oversized => throw .oversized

/-- Changes files and answers; a failure lays down what is left. -/
def filing (f : Workspace → Except (StorageFailure × Workspace) (α × Workspace)) : Service α := do
  match f (← files) with
  | .ok (a, w) =>
    replace w
    return a
  | .error (failure, w) =>
    replace w
    fail (.storage failure)

end Service

end Gamebook
