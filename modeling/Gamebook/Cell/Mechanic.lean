import Gamebook.Cell.Token

/-!
# Mechanic tokens

How a choice leads on, as the one token of a cell, in both directions. The last two arguments of a
skill check, the encounter on failure and the ability, may be empty independently of each other.
-/

namespace Gamebook.Mechanic

/-- A text, or nothing in the place of the empty text. -/
def filled? (s : String) : Option String := if s = "" then none else some s

def ofToken (t : Token) : Except TokenFault Mechanic :=
  match t.name with
  | "" => .error .unnamed
  | "navigate" =>
    if t.argument 0 = "" then .error (.missing t.name "nextNodeId")
    else (Token.field "next_node_id" (t.argument 0)).map navigate
  | "combat_init" =>
    if t.argument 0 = "" then .error (.missing t.name "encounterId")
    else (Token.field "encounter_id" (t.argument 0)).map combat
  | "skill_check" =>
    if t.argument 0 = "" ∨ t.argument 1 = "" ∨ t.argument 2 = "" ∨ t.argument 3 = "" then
      .error (.missing t.name "dice/dc/successNodeId/failureNodeId")
    else
      (Token.field "dice" (t.argument 0)).map fun dice =>
        skillCheck
          { dice
            difficulty := (Scalar.text (t.argument 1)).numberOr 0
            ability := filled? (t.argument 5)
            onSuccess := t.argument 2
            onFailure := t.argument 3
            failureEncounter := filled? (t.argument 4) }
  | name => .error (.unknown name)

/-- The token of a skill check. The encounter keeps its place in front of the ability. -/
def checkToken (c : SkillCheck) : String :=
  let encounter := c.failureEncounter.getD ""
  let ability := c.ability.getD ""
  ":".intercalate
    (["skill_check", c.dice.text, String.ofList c.difficulty.cell, c.onSuccess, c.onFailure] ++
      (if encounter = "" ∧ ability = "" then [] else [encounter]) ++
      (if ability = "" then [] else [ability]))

def token : Mechanic → String
  | navigate nodeId => "navigate:" ++ nodeId.text
  | combat encounterId => "combat_init:" ++ encounterId.text
  | skillCheck c => checkToken c

def parse (cell : Scalar) : Noted (Option Mechanic) := noteFault .mechanic cell (ofToken cell.token)

end Gamebook.Mechanic
