import Gamebook.Cell.Token

/-!
# Spawn tokens

The enemies of an encounter as tokens `enemy:count` of a cell, in both directions. A missing count
is one, and a token without an enemy is skipped.
-/

namespace Gamebook.Spawn

def ofToken? (t : Token) : Option Spawn :=
  (Arg.ofText? t.name).map fun enemyId => ⟨enemyId, (Scalar.text (t.argument 0)).numberOr 1⟩

def token (s : Spawn) : String := s.enemyId.text ++ ":" ++ String.ofList s.count.cell

def parseCell (cell : Scalar) : List Spawn :=
  cell.segments.filterMap fun s => ofToken? (.ofText s)

def cell (spawns : List Spawn) : String := joinCell (spawns.map token)

end Gamebook.Spawn
