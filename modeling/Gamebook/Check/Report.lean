import Gamebook.Check.Verdict

/-!
# Lint reports

Errors and warnings with a cap on the warnings. The table form lists the diagnostics under the files
that they belong to, errors first.
-/

namespace Gamebook

structure LintReport where
  errors : List Diagnostic
  warnings : List Diagnostic
  maxWarnings : Option Int

namespace LintReport

def overLimit (r : LintReport) : Bool :=
  match r.maxWarnings with
  | some cap => cap < r.warnings.length
  | none => false

def success (r : LintReport) : Bool := r.errors.isEmpty && !r.overLimit

def exitCode (r : LintReport) : Nat := if r.success then 0 else 1

def toJson (r : LintReport) : Json :=
  .object [
    ("success", .bool r.success),
    ("errorCount", .int r.errors.length),
    ("warningCount", .int r.warnings.length),
    ("errors", .array (r.errors.map Diagnostic.toJson)),
    ("warnings", .array (r.warnings.map Diagnostic.toJson))]

/-- The label of what belongs to no file. -/
def globalLabel : String := "(global)"

def label (d : Diagnostic) : String :=
  let file := d.file.getD ""
  if file = "" then globalLabel else file

def row (d : Diagnostic) : String :=
  let place := match d.row with
    | some n => ":" ++ String.ofList (intText n)
    | none => ""
  "  " ++ d.code ++ place ++ ": " ++ d.message

/-- The lines of the diagnostics of one severity, grouped by file in order of first appearance. -/
def groups (severity : Severity) (ds : List Diagnostic) : List String :=
  (ds.map label).eraseDups.flatMap fun file =>
    ["", file ++ " [" ++ severity.name ++ "]"] ++ (ds.filter fun d => label d = file).map row

def table (r : LintReport) : String :=
  let ending :=
    if r.errors.isEmpty && r.warnings.isEmpty then ["No errors or warnings."]
    else
      ["", natText r.errors.length ++ " error(s), " ++ natText r.warnings.length ++ " warning(s)"]
  "\n".intercalate (groups .error r.errors ++ groups .warning r.warnings ++ ending)

/-- The report on a story and the repeated ids of its tables. A strict report counts every warning
as an error. -/
def ofVerdict (duplicates : List Diagnostic) (v : Verdict) (strict : Bool)
    (maxWarnings : Option Int) : LintReport :=
  let errors := v.attributed.errors
  let warnings := duplicates ++ v.attributed.warnings
  if strict then
    ⟨errors ++ warnings.map fun d => { d with severity := .error }, [], maxWarnings⟩
  else ⟨errors, warnings, maxWarnings⟩

end LintReport

end Gamebook
