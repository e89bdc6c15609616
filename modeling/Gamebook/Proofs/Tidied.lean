import Gamebook.Proofs.CompiledStory

/-!
# White space around free texts

Texts that a player reads, names, images and damage lose the white space at their ends when they
are read from a table. So the tables of a story read as those of the story with such texts trimmed,
and compile to it.
-/

namespace Gamebook.Proofs

def tidiedChoice (c : Choice) : Choice := { c with label := Text.trim c.label }

def tidiedNode (n : Node) : Node :=
  { n with
    text := Text.trim n.text
    image := n.image.map Text.trim
    choices := n.choices.map (List.map tidiedChoice) }

def tidiedItem (i : Item) : Item :=
  { i with name := Text.trim i.name, damage := i.damage.map Text.trim }

/-- The damage of an enemy cannot be empty, so a blank one stays as it is. -/
def tidiedEnemy (e : Enemy) : Enemy :=
  { e with name := Text.trim e.name, damage := Filled.orElse (Text.trim e.damage.text) e.damage }

def tidiedEncounter (e : Encounter) : Encounter := { e with name := e.name.map Text.trim }

/-- The story without white space around its free texts. -/
def tidiedStory (s : Story) : Story where
  nodes := mapEntities tidiedNode (fun _ => rfl) s.nodes
  items := mapEntities tidiedItem (fun _ => rfl) s.items
  enemies := mapEntities tidiedEnemy (fun _ => rfl) s.enemies
  encounters := mapEntities tidiedEncounter (fun _ => rfl) s.encounters

@[simp] lemma id_tidiedEncounter (e : Encounter) : (tidiedEncounter e).id = e.id := rfl

/-! ## Cells -/

@[simp] lemma trim_trim (s : String) : Text.trim (Text.trim s) = Text.trim s := trimmed_trim s

@[simp] lemma trim_getD_map (o : Option String) :
    Text.trim ((o.map Text.trim).getD "") = Text.trim (o.getD "") := by
  cases o with
  | none => rfl
  | some s => exact trim_trim s

lemma trim_orElse (e : Filled) :
    Text.trim (Filled.orElse (Text.trim e.text) e).text = Text.trim e.text := by
  unfold Filled.orElse Filled.ofText?
  by_cases hblank : Text.trim e.text = ""
  · rw [dif_pos hblank]
    rfl
  · rw [dif_neg hblank]
    exact trim_trim e.text

lemma rowHolds_congr {row : Row} {columns cells cells' : List String}
    (h : cells.map Text.trim = cells'.map Text.trim) (hrow : RowHolds row columns cells) :
    RowHolds row columns cells' := by
  have hread : ∀ (cells : List String) (column : String),
      Text.trim (((columns.zip cells).lookup column).getD "") =
        ((columns.zip (cells.map Text.trim)).lookup column).getD "" := by
    intro cells column
    have hzip : columns.zip (cells.map Text.trim) =
        (columns.zip cells).map fun entry => (entry.1, Text.trim entry.2) := by
      rw [List.zip_map_right]
      rfl
    rw [hzip, lookup_map]
    cases (columns.zip cells).lookup column <;> rfl
  refine ⟨hrow.keys, fun column => ?_⟩
  rw [hrow.cell, hread, h, ← hread]

@[simp] lemma choiceList_tidiedNode (n : Node) :
    (tidiedNode n).choiceList = n.choiceList.map tidiedChoice := by
  unfold Node.choiceList tidiedNode
  cases n.choices <;> rfl

lemma trim_cells_choice (c : Choice) :
    (tidiedChoice c).cells.map Text.trim = c.cells.map Text.trim := by
  unfold Choice.cells tidiedChoice
  simp only [List.map_cons, List.map_nil, trim_trim]
  rfl

lemma trim_cells_node (slots : ℕ) (n : Node) :
    ((tidiedNode n).cells slots).map Text.trim = (n.cells slots).map Text.trim := by
  have hchoices : (((tidiedNode n).choiceList.take slots).flatMap Choice.cells).map Text.trim =
      ((n.choiceList.take slots).flatMap Choice.cells).map Text.trim := by
    rw [choiceList_tidiedNode, ← List.map_take, List.flatMap_map, List.map_flatMap,
      List.map_flatMap]
    simp only [trim_cells_choice]
  have hactions : (tidiedNode n).actionList = n.actionList := rfl
  have hplain : [(tidiedNode n).id.text, (tidiedNode n).type, (tidiedNode n).text,
      (tidiedNode n).image.getD "", Action.cell n.actionList].map Text.trim =
      [n.id.text, n.type, n.text, n.image.getD "", Action.cell n.actionList].map Text.trim := by
    unfold tidiedNode
    simp only [List.map_cons, List.map_nil, trim_trim, trim_getD_map]
  unfold Node.cells
  rw [List.map_append, List.map_append, List.map_append, List.map_append, hchoices, hactions,
    hplain, choiceList_tidiedNode, List.length_map]

lemma trim_cells_item (i : Item) : (tidiedItem i).cells.map Text.trim = i.cells.map Text.trim := by
  unfold Item.cells tidiedItem
  simp only [List.map_cons, List.map_nil, trim_trim, trim_getD_map]

lemma trim_cells_enemy (e : Enemy) :
    (tidiedEnemy e).cells.map Text.trim = e.cells.map Text.trim := by
  unfold Enemy.cells tidiedEnemy
  simp only [List.map_cons, List.map_nil, trim_trim, trim_orElse]

@[simp] lemma slots_tidiedStory (s : Story) : (tidiedStory s).slots = s.slots := by
  change (s.nodes.toList.map tidiedNode).foldl _ _ = s.nodes.toList.foldl _ _
  rw [List.foldl_map]
  simp only [choiceList_tidiedNode, List.length_map]

/-- The tables of a story read as those of the tidied story, but for the encounters. -/
lemma tablesHold_tidied {t : Tables} {s : Story} (ht : TablesHold t s) :
    TablesHold t { tidiedStory s with encounters := s.encounters } := by
  have hslots : Story.slots { tidiedStory s with encounters := s.encounters } = s.slots :=
    slots_tidiedStory s
  constructor
  · rw [hslots]
    refine List.forall₂_map_right_iff.mpr ?_
    exact ht.nodes.imp fun row n hrow => rowHolds_congr (trim_cells_node s.slots n).symm hrow
  · refine List.forall₂_map_right_iff.mpr ?_
    exact ht.items.imp fun row i hrow => rowHolds_congr (trim_cells_item i).symm hrow
  · refine List.forall₂_map_right_iff.mpr ?_
    exact ht.enemies.imp fun row e hrow => rowHolds_congr (trim_cells_enemy e).symm hrow
  · exact ht.encounters

/-! ## Compiling -/

/-- An encounter as it is read from its row. -/
def readEncounter (e : Encounter) : Encounter := { settledEncounter e with name := readName e }

lemma id_readEncounter (e : Encounter) : (readEncounter e).id = e.id := by
  unfold readEncounter settledEncounter
  dsimp only

/-- A story as it is read from its tables. -/
def readStory (s : Story) : Story :=
  { settledStory (normalStory (tidiedStory s)) with
    encounters := mapEntities readEncounter (fun _ => rfl) s.encounters }

/-- The tables of a story compile to it, if the tidied story is representable. -/
theorem compile_readStory {t : Tables} {s : Story} (ht : TablesHold t s)
    (hnumbered : s.slots < 10 ^ Text.maxDigits) (h : RepresentableStory (tidiedStory s)) :
    t.compile = pure (readStory s) := by
  have hencounters : List.Forall₂ (fun row e => row.id? = some e.id ∧ Encounter.ofRow e.id row = e)
      t.encounters (readStory s).encounters.toList := by
    refine List.forall₂_map_right_iff.mpr ?_
    refine forall₂_of_mem ht.encounters fun row _ e he hrow => ?_
    have hencounter : RepresentableEncounter (tidiedEncounter e) :=
      h.encounters _ (List.mem_map_of_mem he)
    have hread : Encounter.ofRow e.id row = readEncounter e :=
      encounter_ofRow hrow hencounter.spawns hencounter.onVictory hencounter.onDefeat
    have hid : Trimmed e.id.text := by
      have hid := hencounter.id
      rwa [id_tidiedEncounter] at hid
    rw [id_readEncounter]
    exact ⟨id?_of_cell (cell_eq hrow rfl hid), hread⟩
  have hslots : Story.slots { tidiedStory s with encounters := s.encounters } = s.slots :=
    slots_tidiedStory s
  rw [compile_of_rows (tablesHold_tidied ht) (hslots ▸ hnumbered) h.nodes h.items h.enemies
    hencounters]
  unfold readStory settledStory normalStory
  rfl

lemma readName_getD {e : Encounter} (hid : Trimmed e.id.text) :
    (readName e).getD e.id.text = nameOrId ((tidiedEncounter e).name.getD "") e.id := by
  have hname : (tidiedEncounter e).name.getD "" = Text.trim (e.name.getD "") := by
    unfold tidiedEncounter
    cases e.name <;> rfl
  have hself : Text.trim e.id.text = e.id.text := hid
  unfold readName nameOrId
  rw [hname, withoutEmpty_eq, Option.getD_some]
  unfold Mechanic.filled?
  by_cases hempty : e.name.getD "" = ""
  · rw [if_pos hempty, hself, if_neg e.id.filled, hempty]
    rfl
  · rw [if_neg hempty]
    by_cases hblank : Text.trim (e.name.getD "") = ""
    · rw [if_pos hblank, if_pos hblank]
      rfl
    · rw [if_neg hblank, if_neg hblank]
      rfl

lemma namedStory_readStory {s : Story} (h : RepresentableStory (tidiedStory s)) :
    namedStory (readStory s) = settledStory (normalStory (tidiedStory s)) := by
  have hencounter : ∀ e ∈ s.encounters.toList, namedEncounter (readEncounter e) =
      settledEncounter (normalEncounter (tidiedEncounter e)) := by
    intro e he
    have hid : Trimmed e.id.text := by
      have hid := (h.encounters _ (List.mem_map_of_mem he)).id
      rwa [id_tidiedEncounter] at hid
    have hname := readName_getD hid
    unfold namedEncounter readEncounter settledEncounter normalEncounter
    dsimp only
    rw [hname]
    rfl
  unfold namedStory readStory settledStory normalStory tidiedStory
  dsimp only
  congr 1
  unfold mapEntities
  congr 1
  simp only [List.map_map]
  exact List.map_congr_left hencounter

end Gamebook.Proofs
