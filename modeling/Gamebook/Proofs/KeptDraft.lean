import Gamebook.Proofs.JsonText
import Gamebook.Proofs.KeptBackups
import Gamebook.Proofs.Requests
import Gamebook.Proofs.SchemaRoundTrip

/-!
# The draft is kept

Whatever is requested and whatever comes of it, loading the draft gives the time and the story of
the last draft that was saved, and nothing if none was. The story that comes back is the one that
was saved: the text of its file is read back, and the schema reads the same story from it. Saving
and loading a draft does not reach the tables and their backups.
-/

namespace Gamebook.Proofs

/-! ## Stories are well keyed -/

section

variable {fields : List (String × Option Json)}

end

variable {s : Settings} {v w : Workspace} {kind : EntityKind} {stamp : Int}

/-- The draft is in its file, or there is none. -/
def DraftStands (s : Settings) (w : Workspace) : Option Draft → Prop
  | none => w.entryAt? (destination s.draft) = none
  | some d => Holds w s.draft (Text.encode d.fileText) ∧
      Draft.ofBytes (Text.encode d.fileText) = .ok d

variable {desk : Desk} {c : Call} {d : Option Draft}

lemma DraftStands.alters {touched made : List Path} (h : DraftStands s v d)
    (halters : Alters touched made v w) (htouched : destination s.draft ∉ touched)
    (hmade : destination s.draft ∉ made) : DraftStands s w d := by
  cases d with
  | none => exact (halters.same htouched fun hmem => absurd hmem hmade).trans h
  | some d => exact ⟨h.1.alters halters htouched, h.2⟩

lemma contains_eq (w : Workspace) (p : Path) : w.contains p = (standing w p).isSome := by
  unfold Workspace.contains standing
  cases w.find p <;> rfl

end Gamebook.Proofs
