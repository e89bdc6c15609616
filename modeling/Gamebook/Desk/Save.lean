import Gamebook.Clock
import Gamebook.Desk.Load

/-!
# Saving

A story is saved only if the verdict on it has no errors and all numbers in its tables can be
written. Then the tables are backed up under the time of saving, and all four are written together.
-/

namespace Gamebook

inductive Saved where
  | rejected (verdict : Verdict)
  | written (tables backups : List Path) (warnings : List Diagnostic)

/-- Can all numbers in the tables of a story be written? -/
def Story.isWritable (s : Story) : Bool := s.toJson.isWritable && s.hasNumberedSlots

namespace Desk

def writeTables (s : Settings) (stamp : Int) (story : Story) (w : Workspace) :
    Except (StorageFailure × Workspace) (List Path × Workspace) :=
  match w.backupAll stamp (EntityKind.all.map s.table) with
  | .error failure => .error failure
  | .ok (backups, w) =>
    match w.writeTexts (EntityKind.all.map fun kind => (s.table kind, story.table kind)) with
    | .error failure => .error failure
    | .ok w => .ok (backups, w)

def save (s : Settings) (now : Instant) (story : Story) : Service Saved := do
  let verdict := (← Service.ofRead (s.check story)).attributed
  if verdict.isSound then
    unless story.isWritable do throw .oversized
    let backups ← Service.filing (writeTables s now.millis story)
    return .written (EntityKind.all.map s.table) backups verdict.warnings
  else
    Service.notify [.saveRejected verdict.errors.length]
    return .rejected verdict

end Desk

end Gamebook
