import Gamebook.Command.Lenient
import Gamebook.Desk.Load
import Gamebook.Json.Writer

/-!
# The lint command

Prints the report on the story in a directory of tables. The exit code is 0 for a clean report, 1
for one that is not, and 2 if the tables cannot be read.
-/

namespace Gamebook

structure LintOrder where
  directory : Path
  asJson : Bool
  maxWarnings : Option Int
  strict : Bool

namespace LintOrder

/-- The format that a word names: is it JSON? -/
def format? : String → Option Bool
  | "table" => some false
  | "json" => some true
  | _ => none

def options : List OptionSpec :=
  [.free "--data-dir", .valued "--format" format?, .valued "--max-warnings" intArgument?,
    .flag "--strict", .help]

def ofArguments (s : Settings) (args : List String) : Except Usage LintOrder := do
  let a ← OptionSpec.readLenient options args
  return {
    directory := .ofText ((a.value? "--data-dir").getD s.tables.text)
    asJson := ((a.value? "--format").bind format?).getD false
    maxWarnings := ((a.value? "--max-warnings").bind intArgument?).or s.maxWarnings
    strict := a.has "--strict" }

end LintOrder

namespace Command

/-- The outcome of a command, for which a failure is fatal. -/
def orFatal (service : Service Outcome) : Service Outcome :=
  tryCatch service fun stop =>
    match stop with
    | .failure f => return ⟨2, "", Outcome.lines ["Fatal: " ++ f.message]⟩
    | stop => throw stop

def lint (s : Settings) (order : LintOrder) : Service Outcome :=
  orFatal do
    let report ← Desk.lint s order.directory order.strict order.maxWarnings
    let text := if order.asJson then report.toJson.toLine else report.table
    return ⟨report.exitCode, Outcome.lines [text], ""⟩

end Command

end Gamebook
