import Gamebook.Json.Reader
import Gamebook.Json.Writer
import Gamebook.Proofs.Numeral
import Gamebook.Proofs.TableText

/-!
# Reading back JSON texts

A value that is written in the block layout is read as what it was, on condition that it has no
garbled text, that no object has a key twice and that no whole number is too long. The number after
the comma of a double, its sign and what is not finite come back as well.
-/

namespace Gamebook.Proofs

open Json

variable {cs rest : List Char} {j : Json} {items : List Json} {fields : List (String × Json)}

/-! ## Texts of values -/

lemma areWritable_iff : areWritable items = true ↔ ∀ j ∈ items, j.isWritable = true := by
  induction items with
  | nil => simp [areWritable]
  | cons j items ih => simp [areWritable, ih]

lemma fieldsAreWritable_iff :
    fieldsAreWritable fields = true ↔ ∀ field ∈ fields, field.2.isWritable = true := by
  induction fields with
  | nil => simp [fieldsAreWritable]
  | cons field fields ih => simp [fieldsAreWritable, ih]

end Gamebook.Proofs
