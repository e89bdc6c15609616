import Gamebook.Cell.Token

/-!
# Requirement tokens

The conditions of a choice as tokens of a cell, in both directions.
-/

namespace Gamebook.Requirement

def ofToken (t : Token) : Except TokenFault Requirement :=
  match t.name with
  | "" => .error .unnamed
  | "has_flag" =>
    if t.argument 0 = "" then .error (.missing t.name "key")
    else (Token.field "key" (t.argument 0)).map hasFlag
  | "not_has_flag" =>
    if t.argument 0 = "" then .error (.missing t.name "key")
    else (Token.field "key" (t.argument 0)).map notHasFlag
  | "has_item" =>
    if t.argument 0 = "" then .error (.missing t.name "itemId")
    else (Token.field "item_id" (t.argument 0)).map hasItem
  | "stat_check" =>
    if t.argument 0 = "" ∨ t.argument 1 = "" ∨ t.argument 2 = "" then
      .error (.missing t.name "stat/operator/value")
    else do
      let stat ← Token.field "stat" (t.argument 0)
      let operator ← Token.field "operator" (t.argument 1)
      return statCheck stat operator ((Scalar.text (t.argument 2)).numberOr 0)
  | name => .error (.unknown name)

def token : Requirement → String
  | hasFlag key => "has_flag:" ++ key.text
  | notHasFlag key => "not_has_flag:" ++ key.text
  | hasItem itemId => "has_item:" ++ itemId.text
  | statCheck stat operator n =>
    "stat_check:" ++ stat.text ++ ":" ++ operator.text ++ ":" ++ String.ofList n.cell

/-- The requirements of a cell; nothing when none reads, which means always visible. -/
def parseCell (cell : Scalar) : Noted (Option (List Requirement)) :=
  let read := noteSegments .requirement ofToken cell.segments
  ⟨nonempty? read.value, read.warnings⟩

def cell (requirements : List Requirement) : String := joinCell (requirements.map token)

end Gamebook.Requirement
