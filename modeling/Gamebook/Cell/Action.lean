import Gamebook.Cell.Token

/-!
# Action tokens

Actions as tokens of a cell, in both directions. A missing quantity is one, a missing amount is
zero, and a flag is set to true unless the token says otherwise.
-/

namespace Gamebook.Action

/-- The name of the action in a token. -/
def name : Action → String
  | setFlag .. => "set_flag"
  | addItem .. => "add_item"
  | removeItem .. => "remove_item"
  | adjustHp _ => "adjust_hp"
  | adjustCurrency _ => "adjust_currency"
  | heal _ => "heal"

/-- The item that the action speaks of. -/
def itemId? : Action → Option Arg
  | addItem itemId _ => some itemId
  | removeItem itemId _ => some itemId
  | _ => none

def ofToken (t : Token) : Except TokenFault Action :=
  match t.name with
  | "" => .error .unnamed
  | "set_flag" =>
    if t.argument 0 = "" then .error (.missing t.name "key")
    else
      let value := if t.argument 1 = "" then true else (Scalar.text (t.argument 1)).truthOr true
      (Token.field "key" (t.argument 0)).map fun key => setFlag key value
  | "add_item" =>
    if t.argument 0 = "" then .error (.missing t.name "itemId")
    else (Token.field "item_id" (t.argument 0)).map fun itemId =>
      addItem itemId ((Scalar.text (t.argument 1)).numberOr 1)
  | "remove_item" =>
    if t.argument 0 = "" then .error (.missing t.name "itemId")
    else (Token.field "item_id" (t.argument 0)).map fun itemId =>
      removeItem itemId ((Scalar.text (t.argument 1)).numberOr 1)
  | "adjust_hp" => .ok (adjustHp ((Scalar.text (t.argument 0)).numberOr 0))
  | "adjust_currency" => .ok (adjustCurrency ((Scalar.text (t.argument 0)).numberOr 0))
  | "heal" =>
    if t.argument 0 = "" then .ok (heal .zero)
    else (Token.field "amount" (t.argument 0)).map heal
  | name => .error (.unknown name)

def token (a : Action) : String :=
  match a with
  | setFlag key value => "set_flag:" ++ key.text ++ (if value then "" else ":false")
  | addItem itemId n => "add_item:" ++ itemId.text ++ ":" ++ String.ofList n.cell
  | removeItem itemId n => "remove_item:" ++ itemId.text ++ ":" ++ String.ofList n.cell
  | adjustHp n => "adjust_hp:" ++ String.ofList n.cell
  | adjustCurrency n => "adjust_currency:" ++ String.ofList n.cell
  | heal amount => "heal:" ++ amount.text

/-- The action of a single token. An argument that the story cannot hold is a problem, any other
fault drops the action with a warning. -/
def parse (token : Scalar) : Checked (Noted (Option Action)) :=
  match ofToken token.token with
  | .error (.invalid field) => .refused [⟨[field], .malformed⟩]
  | r => .ok (noteFault .action token r)

def parseCell (cell : Scalar) : Noted (Option (List Action)) :=
  let read := noteSegments .action ofToken cell.segments
  ⟨nonempty? read.value, read.warnings⟩

def cell (actions : List Action) : String := joinCell (actions.map token)

end Gamebook.Action
