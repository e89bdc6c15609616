import Gamebook.Desk.Load
import Gamebook.Story.Artifacts

/-!
# Building

The story in the tables is compiled into artifacts. They are written only if the verdict has no
errors, or if the author insists.
-/

namespace Gamebook

/-- A compiled story, the verdict on it and the artifacts that were written. -/
structure Built where
  story : Story
  verdict : Verdict
  written : List Path

namespace Desk

/-- Writes texts into a directory, one after the other. A failure comes with what is left. -/
def writeInto (directory : Path) (w : Workspace) :
    List (String × String) → Except (StorageFailure × Workspace) (List Path × Workspace)
  | [] => .ok ([], w)
  | (name, text) :: texts =>
    match w.writeText (directory.child name) text with
    | .error failure => .error failure
    | .ok w =>
      match writeInto directory w texts with
      | .error failure => .error failure
      | .ok (written, w) => .ok (directory.child name :: written, w)

def build (s : Settings) (source target : Path) (validateOnly force : Bool) : Service Built := do
  let (story, _) ← compiled source
  let verdict ← Service.ofRead (s.check story)
  if validateOnly then return ⟨story, verdict, []⟩
  else if verdict.isSound || force then
    let written ← Service.filing fun w => writeInto target w story.artifacts
    return ⟨story, verdict, written⟩
  else
    Service.notify [.buildSkipped verdict.errors.length]
    return ⟨story, verdict, []⟩

end Desk

end Gamebook
