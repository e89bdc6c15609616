import Gamebook.Check.Graph
import Gamebook.Check.References

/-!
# The verdict on a story

The issues of the entities and of the graph, told apart by severity. There is a verdict only on a
story whose dice texts can be read.
-/

namespace Gamebook

/-- Errors and warnings, each in the order in which they were found. -/
structure Verdict where
  errors : List Diagnostic
  warnings : List Diagnostic

namespace Verdict

def ofDiagnostics (ds : List Diagnostic) : Verdict :=
  ⟨ds.filter fun d => d.severity = .error, ds.filter fun d => d.severity ≠ .error⟩

def isSound (v : Verdict) : Bool := v.errors.isEmpty

def attributed (v : Verdict) : Verdict :=
  ⟨v.errors.map Diagnostic.attributed, v.warnings.map Diagnostic.attributed⟩

end Verdict

/-- The start of a story that names none. -/
def defaultStart : String := "n_start"

namespace Story

/-- The verdict on the entities alone, once nothing has stopped their check. -/
def entityVerdict (s : Story) : Verdict := .ofDiagnostics (s.entityIssues.map Issue.diagnostic)

/-- The verdict on the entities and the graph, once nothing has stopped the check. -/
def verdict (s : Story) (starts allowed : List String) : Verdict :=
  .ofDiagnostics ((s.entityIssues ++ s.graphIssues starts allowed).map Issue.diagnostic)

/-- Checks the entities. -/
def checkEntities (s : Story) : Except Text.Oversized Verdict := do
  s.diceTexts.forM fun text => discard (Dice.askExpression text)
  return s.entityVerdict

/-- Checks the entities and the graph. -/
def check (s : Story) (starts allowed : List String) : Except Text.Oversized Verdict := do
  discard s.checkEntities
  return s.verdict starts allowed

end Story

end Gamebook
