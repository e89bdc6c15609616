import Gamebook.Check.Report
import Gamebook.Desk.Basic
import Gamebook.Schema.Story

/-!
# Loading

The story in the tables, with the verdict on it. Loading and linting give the same verdict.
-/

namespace Gamebook

/-- A loaded story, the repeated ids of its tables and the verdict on it. -/
structure Loaded where
  story : Story
  duplicates : List Diagnostic
  verdict : Verdict

namespace Loaded

def errors (l : Loaded) : List Diagnostic := l.verdict.attributed.errors

/-- The repeated ids come before the other warnings. -/
def warnings (l : Loaded) : List Diagnostic :=
  l.duplicates.map Diagnostic.attributed ++ l.verdict.attributed.warnings

def toJson (l : Loaded) : Json :=
  .object (l.story.toFields ++ [
    ("errors", .array (l.errors.map Diagnostic.toJson)),
    ("warnings", .array (l.warnings.map Diagnostic.toJson))])

end Loaded

def Verdict.toJson (v : Verdict) : Json :=
  .object [("errors", .array (v.errors.map Diagnostic.toJson)),
    ("warnings", .array (v.warnings.map Diagnostic.toJson))]

namespace Desk

/-- The story in a directory of tables, and the repeated ids of the tables. -/
def compiled (directory : Path) : Service (Story × List Diagnostic) := do
  let tables ← Service.ofStorage ((← Service.files).readTables directory)
  let story ← Service.ofCompiling tables.compile
  return (story, tables.duplicates)

def load (s : Settings) : Service Loaded := do
  let (story, duplicates) ← compiled s.tables
  return ⟨story, duplicates, ← Service.ofRead (s.check story)⟩

def lint (s : Settings) (directory : Path) (strict : Bool) (maxWarnings : Option Int) :
    Service LintReport := do
  let (story, duplicates) ← compiled directory
  return .ofVerdict duplicates (← Service.ofRead (s.check story)) strict maxWarnings

/-- The verdict on a story that is not in the tables. -/
def validate (s : Settings) (story : Story) : Service Verdict := do
  return (← Service.ofRead (s.check story)).attributed

end Desk

end Gamebook
