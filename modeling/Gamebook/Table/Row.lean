import Gamebook.Json.Writer
import Gamebook.Story.Arg

/-!
# Table rows

A row has cells under column names, in the order of the columns. A cell may hold nothing. Reading a
cell trims it, and a cell that is not there is empty.
-/

namespace Gamebook

/-- The cells of a row under their columns. -/
abbrev Row := Entries (Option String)

namespace Row

/-- The trimmed text of a cell. -/
def cell (row : Row) (column : String) : String :=
  match Entries.get? column row with
  | some (some s) => Text.trim s
  | _ => ""

/-- The trimmed text of a cell that is not blank. -/
def cell? (row : Row) (column : String) : Option String :=
  if row.cell column = "" then none else some (row.cell column)

def toJson (row : Row) : Json :=
  .object (row.map fun (column, cell) =>
    (column, match cell with
      | some s => .string s
      | none => .null))

/-- A few characters that let an author find the row: the start of its text, or of all its cells. -/
def preview (row : Row) : String :=
  match Entries.get? "text" row with
  | some (some s) =>
    if Text.isBlankText s then shortened else String.ofList (s.toList.take 30) ++ "..."
  | _ => shortened
where
  shortened : String := String.ofList (row.toJson.lineChars.take 50)

end Row

end Gamebook
