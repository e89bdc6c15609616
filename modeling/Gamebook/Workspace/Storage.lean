import Gamebook.Table.Compile
import Gamebook.Table.Rows
import Gamebook.Text.Encoding
import Gamebook.Workspace.Basic

/-!
# Stored tables

Tables are read from a workspace and written to it. Several texts are written together: all of them
are staged beside their paths first, and then each staged file is moved to its path. What goes wrong
before the first move takes the staged files away again and leaves the paths as they were.
-/

namespace Gamebook

inductive ReadCause where
  | file (fault : FileFault)
  | undecodable
  | table (fault : Csv.Fault)
  /-- A draft is something else than an object. -/
  | notObject

def ReadCause.message : ReadCause → String
  | file fault => fault.message
  | undecodable => "<decode error>"
  | table fault => fault.message
  | notObject => "draft is not a JSON object"

inductive StorageFailure where
  | unreadable (path : Path) (cause : ReadCause)
  | unwritable (path : Path) (fault : FileFault)

def StorageFailure.message : StorageFailure → String
  | unreadable path cause =>
    "Could not read table " ++ path.text ++ " (" ++ cause.message ++ ")"
  | unwritable path fault =>
    "Could not write table " ++ path.text ++ " (" ++ fault.message ++ ")"

namespace Workspace

/-! ## Reading -/

def readTable (w : Workspace) (p : Path) : Except StorageFailure (List Row) :=
  match w.read p with
  | .error fault => .error (.unreadable p (.file fault))
  | .ok bytes =>
    match Text.decodeMarked? bytes with
    | none => .error (.unreadable p .undecodable)
    | some cs =>
      match Csv.read cs with
      | .error fault => .error (.unreadable p (.table fault))
      | .ok rows => .ok rows

def readTables (w : Workspace) (directory : Path) : Except StorageFailure Tables := do
  let read (kind : EntityKind) := w.readTable (directory.child kind.file)
  let nodes ← read .node
  let items ← read .item
  let enemies ← read .enemy
  let encounters ← read .encounter
  return ⟨nodes, items, enemies, encounters⟩

/-! ## Writing -/

/-- Writes a text, making the directories on the way. A failure comes with what is left. -/
def writeText (w : Workspace) (p : Path) (text : String) :
    Except (StorageFailure × Workspace) Workspace :=
  match w.makeDirectory p.parent with
  | .error (fault, w) => .error (.unwritable p fault, w)
  | .ok w =>
    match w.write p (Text.encode text) with
    | .error fault => .error (.unwritable p fault, w)
    | .ok w => .ok w

/-- The path beside a path where its text is staged. -/
def staging (p : Path) : Path := p.withEnding ".tmp"

/-- Stages texts one after the other. When one cannot be staged, those of this call are taken away
again; then the failure comes with what is left. -/
def stage (w : Workspace) (staged : List Path) :
    List (Path × String) → Except (StorageFailure × Workspace) Workspace
  | [] => .ok w
  | (p, text) :: texts =>
    match w.writeText (staging p) text with
    | .ok w => w.stage (staged ++ [staging p]) texts
    | .error (failure, w) => .error (failure, staged.foldl discard w)

def swap (w : Workspace) : List Path → Except (StorageFailure × Workspace) Workspace
  | [] => .ok w
  | p :: ps =>
    match w.rename (staging p) p with
    | .ok w => w.swap ps
    | .error fault => .error (.unwritable p fault, w)

/-- Writes texts to their paths. A failure comes with what is left. -/
def writeTexts (w : Workspace) (texts : List (Path × String)) :
    Except (StorageFailure × Workspace) Workspace :=
  match w.stage [] texts with
  | .ok w => w.swap (Entries.keys texts)
  | .error failure => .error failure

/-! ## Backups -/

def backupPath (p : Path) (stamp : Int) : Path :=
  p.withEnding (".bak." ++ String.ofList (intText stamp))

/-- Keeps a copy of a file under a stamp and tells where, or `none` if there is nothing to keep. -/
def backup (w : Workspace) (stamp : Int) (p : Path) :
    Except StorageFailure (Option Path × Workspace) :=
  match w.copy p (backupPath p stamp) with
  | .ok w => .ok (some (backupPath p stamp), w)
  | .error fault =>
    if fault.cause = .missing then .ok (none, w)
    else .error (.unwritable (backupPath p stamp) fault)

/-- Keeps copies of files one after the other. A failure comes with what is left. -/
def backupAll (w : Workspace) (stamp : Int) :
    List Path → Except (StorageFailure × Workspace) (List Path × Workspace)
  | [] => .ok ([], w)
  | p :: ps =>
    match w.backup stamp p with
    | .error failure => .error (failure, w)
    | .ok (kept, w) =>
      match w.backupAll stamp ps with
      | .error failure => .error failure
      | .ok (others, w) => .ok (kept.toList ++ others, w)

end Workspace

end Gamebook
