import Gamebook.Number.Basic
import Gamebook.Story.Arg
import Gamebook.Story.Collection

/-!
# Stories

A story has nodes, items, enemies and encounters. A node offers choices; a choice may depend on
requirements and leads on by its mechanic. Actions happen on entering a node or on using an item.
References to other entities are plain keys: whether they lead anywhere is a matter of checking.
-/

namespace Gamebook

/-- What happens on entering a node or on using an item. -/
inductive Action where
  | setFlag (key : Arg) (value : Bool)
  | addItem (itemId : Arg) (quantity : Number)
  | removeItem (itemId : Arg) (quantity : Number)
  | adjustHp (amount : Number)
  | adjustCurrency (amount : Number)
  /-- Healing by dice, which are rolled when the action happens. -/
  | heal (amount : Arg)
deriving DecidableEq

inductive Requirement where
  | hasFlag (key : Arg)
  | notHasFlag (key : Arg)
  | hasItem (itemId : Arg)
  | statCheck (stat operator : Arg) (value : Number)
deriving DecidableEq

/-- A roll against a difficulty with a node for each result, and maybe an encounter on failure. -/
structure SkillCheck where
  dice : Arg
  difficulty : Number
  ability : Option String
  onSuccess : String
  onFailure : String
  failureEncounter : Option String
deriving DecidableEq

inductive Mechanic where
  | navigate (nodeId : Arg)
  | combat (encounterId : Arg)
  | skillCheck (check : SkillCheck)
deriving DecidableEq

structure Choice where
  id : Filled
  label : String
  /-- Nothing means always visible, and so does the empty list. -/
  requirements : Option (List Requirement)
  mechanic : Mechanic
deriving DecidableEq

structure Node where
  id : Filled
  /-- One of the known types in a sound story; any text can be checked. -/
  type : String
  text : String
  image : Option String
  onEnter : Option (List Action)
  choices : Option (List Choice)
deriving DecidableEq

structure Item where
  id : Filled
  name : String
  type : String
  damage : Option String
  attackBonus : Option Number
  armorBonus : Option Number
  effect : Option Action
  scalingAttribute : Option String
  areaOfEffect : Option Bool
deriving DecidableEq

structure Enemy where
  id : Filled
  name : String
  hp : Number
  armor : Number
  attackBonus : Number
  damage : Filled
  reward : Number
deriving DecidableEq

structure Spawn where
  enemyId : Arg
  count : Number
deriving DecidableEq

structure Encounter where
  id : Filled
  name : Option String
  spawns : List Spawn
  onVictory : String
  onDefeat : String
deriving DecidableEq

instance : Keyed Node := ⟨fun n => n.id.text⟩
instance : Keyed Item := ⟨fun i => i.id.text⟩
instance : Keyed Enemy := ⟨fun e => e.id.text⟩
instance : Keyed Encounter := ⟨fun e => e.id.text⟩

structure Story where
  nodes : Collection Node
  items : Collection Item
  enemies : Collection Enemy
  encounters : Collection Encounter

namespace Node

def choiceList (n : Node) : List Choice := n.choices.getD []

def actionList (n : Node) : List Action := n.onEnter.getD []

end Node

def Choice.requirementList (c : Choice) : List Requirement := c.requirements.getD []

end Gamebook
