import Gamebook.Story.Basic

/-!
# Equality by value

Stories are compared field by field, numbers by value: a whole number equals the double of its
value, and what is not a number equals nothing.
-/

namespace Gamebook

def sameList {α : Type} (same : α → α → Bool) : List α → List α → Bool
  | [], [] => true
  | a :: as, b :: bs => same a b && sameList same as bs
  | _, _ => false

def sameOption {α : Type} (same : α → α → Bool) : Option α → Option α → Bool
  | none, none => true
  | some a, some b => same a b
  | _, _ => false

def Action.same : Action → Action → Bool
  | addItem i m, addItem j n => i = j && m.eq n
  | removeItem i m, removeItem j n => i = j && m.eq n
  | adjustHp m, adjustHp n => m.eq n
  | adjustCurrency m, adjustCurrency n => m.eq n
  | a, b => a = b

def Requirement.same : Requirement → Requirement → Bool
  | statCheck s o m, statCheck t p n => s = t && o = p && m.eq n
  | a, b => a = b

def Mechanic.same : Mechanic → Mechanic → Bool
  | skillCheck c, skillCheck d =>
    { c with difficulty := 0 } = { d with difficulty := 0 } && c.difficulty.eq d.difficulty
  | a, b => a = b

def Choice.same (a b : Choice) : Bool :=
  a.id = b.id && a.label = b.label &&
    sameOption (sameList Requirement.same) a.requirements b.requirements &&
    a.mechanic.same b.mechanic

def Node.same (a b : Node) : Bool :=
  a.id = b.id && a.type = b.type && a.text = b.text && a.image = b.image &&
    sameOption (sameList Action.same) a.onEnter b.onEnter &&
    sameOption (sameList Choice.same) a.choices b.choices

def Item.same (a b : Item) : Bool :=
  a.id = b.id && a.name = b.name && a.type = b.type && a.damage = b.damage &&
    sameOption Number.eq a.attackBonus b.attackBonus &&
    sameOption Number.eq a.armorBonus b.armorBonus && sameOption Action.same a.effect b.effect &&
    a.scalingAttribute = b.scalingAttribute && a.areaOfEffect = b.areaOfEffect

def Enemy.same (a b : Enemy) : Bool :=
  a.id = b.id && a.name = b.name && a.hp.eq b.hp && a.armor.eq b.armor &&
    a.attackBonus.eq b.attackBonus && a.damage = b.damage && a.reward.eq b.reward

def Spawn.same (a b : Spawn) : Bool := a.enemyId = b.enemyId && a.count.eq b.count

def Encounter.same (a b : Encounter) : Bool :=
  a.id = b.id && a.name = b.name && sameList Spawn.same a.spawns b.spawns &&
    a.onVictory = b.onVictory && a.onDefeat = b.onDefeat

/-- Do two stories hold the same entities in the same order? -/
def Story.same (a b : Story) : Bool :=
  sameList Node.same a.nodes.toList b.nodes.toList &&
    sameList Item.same a.items.toList b.items.toList &&
    sameList Enemy.same a.enemies.toList b.enemies.toList &&
    sameList Encounter.same a.encounters.toList b.encounters.toList

end Gamebook
