import Gamebook.Clock
import Gamebook.Desk.Basic
import Gamebook.Json.Reader
import Gamebook.Json.Writer
import Gamebook.Schema.Story

/-!
# Drafts

One draft lies beside the tables. It holds a story as it is, sound or not, and the time at which it
was saved. Whoever loads it gets back what the file says.
-/

namespace Gamebook

/-- A draft as its file says it. -/
structure Draft where
  savedAt : Json
  story : Json

namespace Draft

def ofStory (now : Instant) (story : Story) : Draft := ⟨.string now.iso, story.toJson⟩

def toJson (d : Draft) : Json := .object [("savedAt", d.savedAt), ("model", d.story)]

def fileText (d : Draft) : String := d.toJson.toBlock

/-- The draft that a file holds. What it does not say is `null`. -/
def ofBytes (bytes : ByteArray) : Except ReadCause Draft :=
  match (Text.decode? bytes).map Json.ofText with
  | some (.ok (.object fields)) =>
    let j := Json.object fields
    .ok ⟨j.field "savedAt", j.field "model"⟩
  | some (.ok _) => .error .notObject
  | _ => .error .undecodable

end Draft

namespace Desk

/-- Saves the draft of a story, unless one of its numbers has too many digits to be written. -/
def saveDraft (s : Settings) (now : Instant) (story : Story) : Service Unit :=
  let draft := Draft.ofStory now story
  if draft.toJson.isWritable then
    Service.filing fun w => (w.writeText s.draft draft.fileText).map fun w => ((), w)
  else throw .oversized

def draftIn (s : Settings) (w : Workspace) : Except StorageFailure (Option Draft) :=
  if w.contains s.draft then
    match w.read s.draft with
    | .error fault => .error (.unreadable s.draft (.file fault))
    | .ok bytes =>
      match Draft.ofBytes bytes with
      | .ok draft => .ok (some draft)
      | .error cause => .error (.unreadable s.draft cause)
  else .ok none

def loadDraft (s : Settings) : Service (Option Draft) := do
  Service.ofStorage (draftIn s (← Service.files))

end Desk

end Gamebook
