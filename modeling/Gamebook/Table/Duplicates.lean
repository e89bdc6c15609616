import Gamebook.Check.Diagnostic
import Gamebook.Table.Row

/-!
# Repeated ids

Rows whose id an earlier row of the table has are reported with both row numbers. The header is row
one, so the first record is row two.
-/

namespace Gamebook

/-- A row whose id an earlier row has. -/
structure RepeatedId where
  id : String
  file : String
  row : Nat
  firstRow : Nat

namespace RepeatedId

def diagnostic (r : RepeatedId) : Diagnostic where
  code := "DATA001"
  severity := .warning
  file := some r.file
  row := some r.row
  column := none
  message := "Duplicate ID \"" ++ r.id ++ "\" (also at row " ++ natText r.firstRow ++ ")"
  hint := some "Rename or remove the later row; only the first occurrence is compiled."
  context := some [("id", r.id), ("file", r.file), ("firstRow", .int r.firstRow)]

/-- The row number of the first record. -/
def firstRecord : Nat := 2

/-- The repeated ids among rows that begin at row `n`, after rows with the ids of `seen`. -/
def among (file : String) : Entries Nat → Nat → List String → List RepeatedId
  | _, _, [] => []
  | seen, n, id :: ids =>
    if id = "" then among file seen (n + 1) ids
    else
      match Entries.get? id seen with
      | none => among file ((id, n) :: seen) (n + 1) ids
      | some first => ⟨id, file, n, first⟩ :: among file seen (n + 1) ids

def ofRows (file : String) (rows : List Row) (idColumn : String) : List RepeatedId :=
  among file [] firstRecord (rows.map fun row => row.cell idColumn)

end RepeatedId

end Gamebook
