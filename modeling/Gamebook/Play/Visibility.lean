import Gamebook.Story.Basic
import Gamebook.Json.Basic

/-!
# Visible choices

A choice is visible when all its requirements hold in the state of the player. An unknown operator
never holds, and every stat other than the hit points means the currency.
-/

namespace Gamebook

/-- What visibility depends on. -/
structure PlayerState where
  flags : Entries Json
  items : Entries Number
  hp : Number
  currency : Number

def comparison? : String → Option (Number → Number → Bool)
  | ">=" => some fun a b => b.le a
  | "<=" => some Number.le
  | ">" => some fun a b => b.lt a
  | "<" => some Number.lt
  | "==" => some Number.eq
  | _ => none

namespace PlayerState

def flag (s : PlayerState) (key : String) : Bool :=
  ((Entries.get? key s.flags).map Json.truthy).getD false

def quantity (s : PlayerState) (itemId : String) : Number := (Entries.get? itemId s.items).getD 0

def stat (s : PlayerState) (name : String) : Number :=
  if name = "hpCurrent" then s.hp else s.currency

end PlayerState

def Requirement.holds (s : PlayerState) : Requirement → Bool
  | hasFlag key => s.flag key.text
  | notHasFlag key => !s.flag key.text
  | hasItem itemId => Number.lt 0 (s.quantity itemId.text)
  | statCheck stat operator value =>
    match comparison? operator.text with
    | some compare => compare (s.stat stat.text) value
    | none => false

def requirementsHold (s : PlayerState) (rs : Option (List Requirement)) : Bool :=
  (rs.getD []).all (Requirement.holds s)

/-- The choices whose requirements hold, in order. -/
def visibleChoices (s : PlayerState) (choices : List Choice) : List Choice :=
  choices.filter fun c => requirementsHold s c.requirements

end Gamebook
