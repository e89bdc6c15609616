import Gamebook.Command.Lint
import Gamebook.Desk.Build

/-!
# The build command

Writes the artifacts of the story in a directory of tables. The exit code is 0 for a sound story, 1
for one with errors, and 2 if the tables cannot be read or the artifacts cannot be written.
-/

namespace Gamebook

structure BuildOrder where
  source : Path
  target : Path
  validateOnly : Bool
  force : Bool

namespace BuildOrder

def options : List OptionSpec :=
  [.free "--data-dir", .free "--out-dir", .flag "--validate-only", .flag "--force-write", .help]

def ofArguments (s : Settings) (args : List String) : Except Usage BuildOrder := do
  let a ← OptionSpec.readLenient options args
  return {
    source := .ofText ((a.value? "--data-dir").getD s.tables.text)
    target := .ofText ((a.value? "--out-dir").getD s.artifacts.text)
    validateOnly := a.has "--validate-only"
    force := a.has "--force-write" }

end BuildOrder

namespace Command

def build (s : Settings) (order : BuildOrder) : Service Outcome :=
  orFatal do
    let built ← Desk.build s order.source order.target order.validateOnly order.force
    let verdict := built.verdict
    let ending :=
      if order.validateOnly then
        ["Validation complete. " ++ if verdict.isSound then "No errors." else "Errors found."]
      else []
    return {
      exitCode := if verdict.isSound then 0 else 1
      output := Outcome.lines (ending ++ built.written.map fun p => "Wrote " ++ p.text)
      complaints := Outcome.lines ((verdict.warnings.map fun d => "Warning: " ++ d.message) ++
        verdict.errors.map fun d => "Error: " ++ d.message) }

end Command

end Gamebook
