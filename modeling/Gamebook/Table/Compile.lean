import Gamebook.Cell.Action
import Gamebook.Cell.Mechanic
import Gamebook.Cell.Requirement
import Gamebook.Cell.Spawn
import Gamebook.Schema.Entity
import Gamebook.Table.Duplicates

/-!
# Compiling tables

Rows become entities. A row without an id and a row with the id of an earlier one are skipped with a
warning; every other row is compiled by itself. A malformed token drops what it stands for, with a
warning. Only two things stop the whole compilation: the effect of an item, when an argument of it
holds what no token may hold, and the name of a choice column of a node, when its number is too long
to be read.
-/

namespace Gamebook

/-- What stops a compilation. -/
inductive Halt where
  | refused (problems : List Problem)
  /-- A column has too long a number in its name. -/
  | oversized

/-- A compilation: warnings on the way, and in the end a value or what stopped it. -/
abbrev Compiling := ExceptT Halt Noted

namespace Compiling

variable {α : Type}

def warn (w : Warning) : Compiling Unit := ExceptT.lift (Noted.warn w)

def ofNoted (n : Noted α) : Compiling α := ExceptT.lift n

def ofChecked : Checked (Noted α) → Compiling α
  | .ok n => ofNoted n
  | .refused problems => throw (.refused problems)

def ofRead : Except Text.Oversized α → Compiling α
  | .ok a => pure a
  | .error _ => throw .oversized

end Compiling

/-! ## Rows -/

/-- How a row counts: it has no id, the id of an earlier row, or an id of its own. -/
inductive Standing where
  | unidentified
  | repeated (id : Filled)
  | first (id : Filled)

def Row.id? (row : Row) : Option Filled := Filled.ofText? (row.cell "id")

/-- How the rows count after rows with the ids of `seen`. -/
def standings (seen : List String) : List Row → List (Standing × Row)
  | [] => []
  | row :: rows =>
    match row.id? with
    | none => (.unidentified, row) :: standings seen rows
    | some id =>
      if seen.contains id.text then (.repeated id, row) :: standings seen rows
      else (.first id, row) :: standings (id.text :: seen) rows

def compileStanding {α : Type} (kind : EntityKind) (compile : Filled → Row → Compiling α) :
    Standing × Row → Compiling (Option α)
  | (.unidentified, row) => do
    Compiling.warn (.unidentified kind row.preview)
    return none
  | (.repeated id, _) => do
    Compiling.warn (.repeated kind id.text)
    return none
  | (.first id, row) => some <$> compile id row

def compileRows {α : Type} (kind : EntityKind) (compile : Filled → Row → Compiling α)
    (rows : List Row) : Compiling (List α) := do
  let entities ← (standings [] rows).mapM (compileStanding kind compile)
  return entities.filterMap id

/-! ## Nodes -/

/-- The digits in the name of a column that holds choice ids. One line feed at the end of the name
does no harm. -/
def choiceDigits? (column : String) : Option (List Nat) :=
  match column.toList with
  | 'c' :: 'h' :: 'o' :: 'i' :: 'c' :: 'e' :: rest =>
    match takeDigits Text.digit? rest with
    | ([], _) => none
    | (digits, tail) =>
      if tail = ['_', 'i', 'd'] || tail = ['_', 'i', 'd', '\n'] then some digits else none
  | _ => none

/-- The slot of a column that holds choice ids, whatever the length of its number. -/
def choiceSlot? (column : String) : Option Nat := (choiceDigits? column).map Text.ofDigits

/-- The slots of a row, in increasing order. Each name of a choice column is read, whatever its cell
holds, and one with too long a number stops the reading. -/
def Row.choiceSlots (row : Row) : Except Text.Oversized (List Nat) := do
  let slots ← ((Entries.keys row).filterMap choiceDigits?).mapM Text.readDigits
  return slots.eraseDups.mergeSort

def choiceColumn (slot : Nat) (field : String) : String := "choice" ++ natText slot ++ "_" ++ field

/-- The choice in a slot. A slot without an id is free. -/
def Choice.ofSlot (nodeId : String) (row : Row) (slot : Nat) : Noted (Option Choice) :=
  match Filled.ofText? (row.cell (choiceColumn slot "id")) with
  | none => pure none
  | some id => do
    match ← Mechanic.parse (row.cell (choiceColumn slot "mechanic")) with
    | none =>
      Noted.warn (.droppedChoice nodeId slot id.text)
      return none
    | some mechanic =>
      let requirements ← Requirement.parseCell (row.cell (choiceColumn slot "visibility"))
      return some ⟨id, row.cell (choiceColumn slot "label"), requirements, mechanic⟩

/-- The node of a row with the choices of some slots. -/
def Node.ofSlots (id : Filled) (row : Row) (slots : List Nat) : Noted Node := do
  let choices ← slots.mapM (Choice.ofSlot id.text row)
  let onEnter ← Action.parseCell (row.cell "onEnter")
  return {
    id
    type := row.cell "type"
    text := row.cell "text"
    image := row.cell? "image"
    onEnter
    choices := nonempty? (choices.filterMap fun c => c) }

def Node.ofRow (id : Filled) (row : Row) : Compiling Node := do
  Compiling.ofNoted (Node.ofSlots id row (← Compiling.ofRead row.choiceSlots))

/-! ## The other entities -/

namespace Row

def numberOr (row : Row) (column : String) (fallback : Number) : Number :=
  (Scalar.text (row.cell column)).numberOr fallback

/-- The number in a cell that is not blank; what is no number counts as zero. -/
def number? (row : Row) (column : String) : Option Number :=
  (row.cell? column).map fun s => (Scalar.text s).numberOr 0

end Row

def Item.ofRow (id : Filled) (row : Row) : Compiling Item := do
  let effect ← match row.cell? "effect" with
    | none => pure none
    | some s => Compiling.ofChecked (Action.parse s)
  return {
    id
    name := (row.cell? "name").getD id.text
    type := row.cell "type"
    damage := row.cell? "damage"
    attackBonus := row.number? "attackBonus"
    armorBonus := row.number? "acBonus"
    effect
    scalingAttribute := row.cell? "scalingAttribute"
    areaOfEffect := (row.cell? "aoe").map fun s => (Scalar.text s).truthOr false }

def Enemy.ofRow (id : Filled) (row : Row) : Enemy where
  id := id
  name := (row.cell? "name").getD id.text
  hp := row.numberOr "hp" 1
  armor := row.numberOr "ac" 10
  attackBonus := row.numberOr "attackBonus" 0
  damage := Filled.orElse (row.cell "damage") Enemy.defaultDamage
  reward := row.numberOr "xpReward" 0

def Encounter.ofRow (id : Filled) (row : Row) : Encounter where
  id := id
  name := row.cell? "name"
  spawns := Spawn.parseCell (row.cell "enemies")
  onVictory := row.cell "onVictory"
  onDefeat := row.cell "onDefeat"

/-! ## Stories -/

structure Tables where
  nodes : List Row
  items : List Row
  enemies : List Row
  encounters : List Row

namespace Tables

def rows (t : Tables) : EntityKind → List Row
  | .node => t.nodes
  | .item => t.items
  | .enemy => t.enemies
  | .encounter => t.encounters

def ofKinds (rows : EntityKind → List Row) : Tables :=
  ⟨rows .node, rows .item, rows .enemy, rows .encounter⟩

def compile (t : Tables) : Compiling Story := do
  let nodes ← compileRows .node Node.ofRow t.nodes
  let items ← compileRows .item Item.ofRow t.items
  let enemies ← compileRows .enemy (fun id row => pure (Enemy.ofRow id row)) t.enemies
  let encounters ← compileRows .encounter (fun id row => pure (Encounter.ofRow id row)) t.encounters
  return ⟨.ofList nodes, .ofList items, .ofList enemies, .ofList encounters⟩

def duplicates (t : Tables) : List Diagnostic :=
  EntityKind.all.flatMap fun kind =>
    (RepeatedId.ofRows kind.file (t.rows kind) "id").map RepeatedId.diagnostic

end Tables

end Gamebook
