import Gamebook.Schema.Reader
import Gamebook.Story.Warning

/-!
# Diagnostics

What is reported about a story: a code, a severity and a message, where it belongs, and the context
in which it arose. A diagnostic without a file belongs to the table of the entity that its context
names.
-/

namespace Gamebook

inductive Severity where
  | error
  | warning
deriving DecidableEq

def Severity.name : Severity → String
  | error => "error"
  | warning => "warning"

def EntityKind.file : EntityKind → String
  | node => "nodes.csv"
  | item => "items.csv"
  | enemy => "enemies.csv"
  | encounter => "encounters.csv"

/-- The key of a context that names an entity of a kind. -/
def EntityKind.contextKey : EntityKind → String
  | node => "nodeId"
  | item => "itemId"
  | enemy => "enemyId"
  | encounter => "encounterId"

/-- The kinds in the order of their tables. -/
def EntityKind.all : List EntityKind := [node, item, enemy, encounter]

structure Diagnostic where
  code : String
  severity : Severity
  file : Option String
  row : Option Int
  column : Option Int
  message : String
  hint : Option String
  context : Option (Entries Json)

namespace Diagnostic

/-- The value of a context key, unless it is `null`. -/
def contextValue? (d : Diagnostic) (key : String) : Option Json :=
  match (d.context.getD []).lookup key with
  | none => none
  | some .null => none
  | some j => some j

/-- The kind of the entity that the context names first. -/
def subject? (d : Diagnostic) : Option EntityKind :=
  EntityKind.all.find? fun kind => (d.contextValue? kind.contextKey).isSome

/-- The diagnostic with the file of its subject, unless it has a file already. -/
def attributed (d : Diagnostic) : Diagnostic :=
  if d.file.getD "" ≠ "" then d
  else
    match d.subject? with
    | some kind => { d with file := some kind.file }
    | none => d

open Reader in
def ofJson : Reader Diagnostic :=
  fields fun f =>
    (fun code severity file row column message hint context =>
        Diagnostic.mk code severity file row column message hint context)
      <$> required f (.word "code") string
      <*> required f (.word "severity") (oneOf [("error", .error), ("warning", .warning)])
      <*> optional f (.word "file") (nullable string) none
      <*> optional f (.word "row") (nullable int) none
      <*> optional f (.word "column") (nullable int) none
      <*> required f (.word "message") string
      <*> optional f (.word "hint") (nullable string) none
      <*> optional f (.word "context") (nullable (map .ok)) none
      <* noOthers f [.word "code", .word "severity", .word "file", .word "row", .word "column",
        .word "message", .word "hint", .word "context"]

/-- The diagnostic as JSON; a number of the context that is not finite is left open. -/
def toJson (d : Diagnostic) : Json :=
  .object ([("code", Json.string d.code), ("severity", .string d.severity.name)] ++
    (d.file.map fun s => ("file", Json.string s)).toList ++
    (d.row.map fun n => ("row", Json.int n)).toList ++
    (d.column.map fun n => ("column", Json.int n)).toList ++
    [("message", .string d.message)] ++
    (d.hint.map fun s => ("hint", Json.string s)).toList ++
    (d.context.map fun c => ("context", (Json.object c).finitePart)).toList)

end Diagnostic

end Gamebook
