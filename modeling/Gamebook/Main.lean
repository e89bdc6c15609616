import Gamebook.Command.Build
import Gamebook.Command.Client
import Std.Time.DateTime.Timestamp

/-!
# The command line

`lint` and `build` are commands of their own, and everything else is a command of the client. A
command is carried out on a workspace into which the files that it may touch have been read; in the
end the changes are written back.
-/

namespace Gamebook

def Command.ofArguments (s : Settings) (now : Instant) :
    List String → Except Usage (Service Outcome)
  | "lint" :: args => (LintOrder.ofArguments s args).map (Command.lint s)
  | "build" :: args => (BuildOrder.ofArguments s args).map (Command.build s)
  | args => (ClientOrder.ofArguments args).map (Command.client s now)

/-- The places on the way to the files of a directory that a command may touch. -/
def touchedIn (s : Settings) (now : Instant) (directory : Path) : List Path :=
  let tables := EntityKind.all.map fun kind => directory.child kind.file
  (directory :: directory.join (.ofText s.draftName) :: tables ++ tables.map Workspace.staging ++
    tables.map (fun p => Workspace.backupPath p now.millis) ++
    ["nodes.json", "items.json", "enemies.json", "encounters.json"].map directory.child).flatMap
      Path.way

def touched (s : Settings) (now : Instant) (args : List String) : List Path :=
  let given := args.map fun arg => Path.ofText ((cutAtEquals arg).2.getD arg)
  ((s.tables :: s.artifacts :: given).flatMap (touchedIn s now)).eraseDups

def Entry.same : Entry → Entry → Bool
  | file a, file b => a.data.toList == b.data.toList
  | directory, directory => true
  | _, _ => false

/-- The files of a workspace that another one holds no more, and the entries that it holds anew. -/
def Workspace.changes (before after : Workspace) : List Path × List (Path × Entry) :=
  ((before.entries.filter fun (p, _) => (after.entryAt? p).isNone).map (·.1),
    after.entries.filter fun (p, e) => !(before.entryAt? p).any e.same)

def readEntry (p : Path) : IO (Option Entry) := do
  try
    return some (.file (← IO.FS.readBinFile p.text))
  catch e =>
    match e with
    | .inappropriateType .. => return some .directory
    | _ => return none

def readWorkspace (ps : List Path) : IO Workspace :=
  ps.foldlM (fun w p => do
    match ← readEntry p with
    | some e => return w.put p e
    | none => return w) .empty

def writeChanges (before after : Workspace) : IO Unit := do
  let (gone, new) := before.changes after
  for p in gone do
    IO.FS.removeFile p.text
  for (p, e) in new do
    match e with
    | .directory => IO.FS.createDirAll p.text
    | .file content => IO.FS.writeBinFile p.text content

def currentInstant : IO Instant := do
  let t ← Std.Time.Timestamp.now
  return ⟨t.toNanosecondsSinceUnixEpoch.val / 1000⟩

/-- What to say when a service stops, beside the failures that commands print themselves. -/
def Stop.message : Stop → String
  | failure f => f.message
  | refused problems =>
    "\n".intercalate (problems.map fun p => p.location ++ ": " ++ p.kind.name)
  | file fault => fault.message
  | undecodable => "The file is not encoded in UTF-8."
  | oversized => "A number has too many digits."
  | tooDeep => "A value is nested too deep."
  | unsendable => "A number is not finite or has too many digits, or a text is garbled."

def carryOut (service : Service Outcome) (before : Workspace) : IO UInt32 := do
  let (result, desk) := service.run ⟨before, []⟩
  writeChanges before desk.files
  for notice in desk.notices do
    IO.eprintln notice.message
  match result with
  | .ok outcome =>
    IO.print outcome.output
    IO.eprint outcome.complaints
    return outcome.exitCode.toUInt32
  | .error stop =>
    IO.eprintln stop.message
    return 1

def carryOutLine (args : List String) : IO UInt32 := do
  let settings := Settings.standard
  let now ← currentInstant
  match Command.ofArguments settings now args with
  | .error usage =>
    IO.eprintln "usage: gamebook lint | build | ping | load | validate | save | draft | package"
    return usage.exitCode.toUInt32
  | .ok service => carryOut service (← readWorkspace (touched settings now args))

end Gamebook

def main (args : List String) : IO UInt32 := Gamebook.carryOutLine args
