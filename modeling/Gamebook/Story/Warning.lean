import Gamebook.Scalar

/-!
# Warnings of the table compilers

A malformed token, a row that is skipped and a choice that is dropped each give one warning. A
warning is a cause; `Warning.message` words it.
-/

namespace Gamebook

inductive TokenKind where
  | action
  | requirement
  | mechanic
deriving DecidableEq

inductive TokenFault where
  /-- Nothing stands before the first colon. -/
  | unnamed
  | unknown (name : String)
  /-- Arguments that the name needs are empty. -/
  | missing (name arguments : String)
  /-- The text for a field is no argument. -/
  | invalid (field : String)
deriving DecidableEq

inductive EntityKind where
  | node
  | item
  | enemy
  | encounter
deriving DecidableEq

def EntityKind.name : EntityKind → String
  | node => "node"
  | item => "item"
  | enemy => "enemy"
  | encounter => "encounter"

inductive Warning where
  | token (kind : TokenKind) (fault : TokenFault) (token : Scalar)
  | unidentified (kind : EntityKind) (preview : String)
  /-- A row whose id an earlier row has. -/
  | repeated (kind : EntityKind) (id : String)
  /-- A choice whose mechanic did not parse. -/
  | droppedChoice (node : String) (slot : Nat) (choice : String)

namespace Warning

/-- How the parser of a kind of tokens calls itself and its input. -/
def speaker : TokenKind → String × String
  | .action => ("parse_action: ", "Token: ")
  | .requirement => ("parse_visibility: ", "Token: ")
  | .mechanic => ("parse_mechanic: ", "Value: ")

def complaint : TokenKind → TokenFault → String
  | .action, .unnamed => "empty or invalid action token: "
  | .requirement, .unnamed => "missing type. "
  | .mechanic, .unnamed => "empty or missing mechanic type. "
  | .action, .unknown name => "unknown action type: " ++ name ++ " "
  | .requirement, .unknown name => "unknown type: " ++ name ++ " "
  | .mechanic, .unknown name => "unknown mechanic type: " ++ name ++ " "
  | _, .missing name arguments => name ++ " missing " ++ arguments ++ ". "
  | _, .invalid _ => "invalid mechanic argument (1 problems). "

def message : Warning → String
  | token kind fault t =>
    let (start, label) := speaker kind
    let label := if kind = .action ∧ fault = .unnamed then "" else label
    start ++ complaint kind fault ++ label ++ t.quoted
  | unidentified kind preview =>
    "Skipped " ++ kind.name ++ " row due to missing ID. Row data: " ++ preview
  | repeated kind id =>
    "Skipped duplicate " ++ kind.name ++ " ID " ++ Text.display id ++
      "; the first occurrence is kept."
  | droppedChoice node slot choice =>
    "Node " ++ Text.display node ++ ": dropped choice" ++ natText slot ++ " " ++
      Text.display choice ++ " because its mechanic did not parse."

end Warning

/-- A value with the warnings that were given on the way to it. -/
structure Noted (α : Type) where
  value : α
  warnings : List Warning

namespace Noted

def pure {α : Type} (a : α) : Noted α := ⟨a, []⟩

def bind {α β : Type} (n : Noted α) (f : α → Noted β) : Noted β :=
  let next := f n.value
  ⟨next.value, n.warnings ++ next.warnings⟩

instance : Monad Noted where
  pure := Noted.pure
  bind := Noted.bind

def warn (w : Warning) : Noted Unit := ⟨(), [w]⟩

end Noted

end Gamebook
