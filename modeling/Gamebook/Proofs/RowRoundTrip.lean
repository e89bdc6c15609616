import Gamebook.Story.Same
import Gamebook.Proofs.Columns

/-!
# Compiling what was written

The rows of a representable story compile to the story in its normal form, without a warning
and in the same order. The normal form has no empty lists and no empty options, and an entity
without a name goes by its id.
-/

namespace Gamebook.Proofs

/-! ## Representable stories -/

@[mk_iff]
structure RepresentableChoice (c : Choice) : Prop where
  id : Trimmed c.id.text
  label : Trimmed c.label
  requirements : ∀ r ∈ c.requirementList, RepresentableRequirement r
  mechanic : RepresentableMechanic c.mechanic

instance (c : Choice) : Decidable (RepresentableChoice c) :=
  decidable_of_iff' _ (representableChoice_iff c)

@[mk_iff]
structure RepresentableNode (n : Node) : Prop where
  id : Trimmed n.id.text
  type : Trimmed n.type
  text : Trimmed n.text
  image : ∀ s ∈ n.image, Trimmed s
  onEnter : ∀ a ∈ n.actionList, RepresentableAction a
  choices : ∀ c ∈ n.choiceList, RepresentableChoice c

instance (n : Node) : Decidable (RepresentableNode n) :=
  decidable_of_iff' _ (representableNode_iff n)

@[mk_iff]
structure RepresentableItem (i : Item) : Prop where
  id : Trimmed i.id.text
  name : Trimmed i.name
  type : Trimmed i.type
  damage : ∀ s ∈ i.damage, Trimmed s
  attackBonus : ∀ n ∈ i.attackBonus, ExactNumber n
  armorBonus : ∀ n ∈ i.armorBonus, ExactNumber n
  effect : ∀ a ∈ i.effect, RepresentableAction a
  scalingAttribute : ∀ s ∈ i.scalingAttribute, Trimmed s

instance (i : Item) : Decidable (RepresentableItem i) :=
  decidable_of_iff' _ (representableItem_iff i)

@[mk_iff]
structure RepresentableEnemy (e : Enemy) : Prop where
  id : Trimmed e.id.text
  name : Trimmed e.name
  hp : ExactNumber e.hp
  armor : ExactNumber e.armor
  attackBonus : ExactNumber e.attackBonus
  damage : Trimmed e.damage.text
  reward : ExactNumber e.reward

instance (e : Enemy) : Decidable (RepresentableEnemy e) :=
  decidable_of_iff' _ (representableEnemy_iff e)

@[mk_iff]
structure RepresentableEncounter (e : Encounter) : Prop where
  id : Trimmed e.id.text
  name : ∀ s ∈ e.name, Trimmed s
  spawns : ∀ s ∈ e.spawns, RepresentableSpawn s
  onVictory : Trimmed e.onVictory
  onDefeat : Trimmed e.onDefeat

instance (e : Encounter) : Decidable (RepresentableEncounter e) :=
  decidable_of_iff' _ (representableEncounter_iff e)

/-- Every text of the story is trimmed, every number is exactly a finite double, and every
skill check leads to nodes and speaks of an encounter and an ability without colons. -/
@[mk_iff]
structure RepresentableStory (s : Story) : Prop where
  nodes : ∀ n ∈ s.nodes.toList, RepresentableNode n
  items : ∀ i ∈ s.items.toList, RepresentableItem i
  enemies : ∀ e ∈ s.enemies.toList, RepresentableEnemy e
  encounters : ∀ e ∈ s.encounters.toList, RepresentableEncounter e

instance (s : Story) : Decidable (RepresentableStory s) :=
  decidable_of_iff' _ (representableStory_iff s)

/-! ## Normal forms -/

/-- An optional list that is not empty. -/
def withoutEmptyList {α : Type} (l : Option (List α)) : Option (List α) :=
  l.filter fun l => !l.isEmpty

/-- A name, or the id in the place of an empty name. -/
def nameOrId (name : String) (id : Filled) : String := if name = "" then id.text else name

def normalChoice (c : Choice) : Choice :=
  { c with
    requirements := withoutEmptyList c.requirements
    mechanic := normalMechanic c.mechanic }

def normalNode (n : Node) : Node :=
  { n with
    image := withoutEmpty n.image
    onEnter := withoutEmptyList n.onEnter
    choices := (withoutEmptyList n.choices).map (List.map normalChoice) }

def normalItem (i : Item) : Item :=
  { i with
    name := nameOrId i.name i.id
    damage := withoutEmpty i.damage
    scalingAttribute := withoutEmpty i.scalingAttribute }

def normalEnemy (e : Enemy) : Enemy := { e with name := nameOrId e.name e.id }

def normalEncounter (e : Encounter) : Encounter :=
  { e with name := some (nameOrId (e.name.getD "") e.id) }

/-- Changes the entities of a collection but not their keys. -/
def mapEntities {α : Type} [Keyed α] (f : α → α) (hf : ∀ x, Keyed.key (f x) = Keyed.key x)
    (c : Collection α) : Collection α :=
  ⟨c.toList.map f, by
    have hkeys : (c.toList.map f).map Keyed.key = c.toList.map Keyed.key := by
      rw [List.map_map]
      exact List.map_congr_left fun x _ => hf x
    rw [hkeys]
    exact c.distinct⟩

/-- The story without empty lists and options, its entities going by their ids where they have
no name. -/
def normalStory (s : Story) : Story where
  nodes := mapEntities normalNode (fun _ => rfl) s.nodes
  items := mapEntities normalItem (fun _ => rfl) s.items
  enemies := mapEntities normalEnemy (fun _ => rfl) s.enemies
  encounters := mapEntities normalEncounter (fun _ => rfl) s.encounters

/-! ## Settled numbers -/

def settledChoice (c : Choice) : Choice :=
  { c with
    requirements := c.requirements.map (List.map settledRequirement)
    mechanic := settledMechanic c.mechanic }

def settledNode (n : Node) : Node :=
  { n with
    onEnter := n.onEnter.map (List.map settledAction)
    choices := n.choices.map (List.map settledChoice) }

def settledItem (i : Item) : Item :=
  { i with
    attackBonus := i.attackBonus.map settledNumber
    armorBonus := i.armorBonus.map settledNumber
    effect := i.effect.map settledAction }

def settledEnemy (e : Enemy) : Enemy :=
  { e with
    hp := settledNumber e.hp
    armor := settledNumber e.armor
    attackBonus := settledNumber e.attackBonus
    reward := settledNumber e.reward }

def settledEncounter (e : Encounter) : Encounter := { e with spawns := e.spawns.map settledSpawn }

/-- The story with every number in the kind in which it is read. -/
def settledStory (s : Story) : Story where
  nodes := mapEntities settledNode (fun _ => rfl) s.nodes
  items := mapEntities settledItem (fun _ => rfl) s.items
  enemies := mapEntities settledEnemy (fun _ => rfl) s.enemies
  encounters := mapEntities settledEncounter (fun _ => rfl) s.encounters

/-! ## Reading cells -/

lemma cell?_of_cell {row : Row} {column : String} {s : Option String}
    (h : row.cell column = s.getD "") : row.cell? column = withoutEmpty s := by
  unfold Row.cell?
  rw [h, withoutEmpty_eq]
  rfl

lemma trimmed_getD {s : Option String} (h : ∀ t ∈ s, Trimmed t) : Trimmed (s.getD "") := by
  cases s with
  | none => exact trimmed_empty
  | some t => exact h t rfl

@[simp] lemma ofText?_filled (s : Filled) : Filled.ofText? s.text = some s := dif_neg s.filled

lemma nonempty?_getD_map {α β : Type} (l : Option (List α)) (f : α → β) :
    nonempty? ((l.getD []).map f) = (withoutEmptyList l).map (List.map f) := by
  unfold withoutEmptyList nonempty?
  cases l with
  | none => rfl
  | some l => cases l <;> rfl

lemma filterMap_getElem? {α : Type} (l : List α) {n : ℕ} (h : l.length ≤ n) :
    (List.range n).filterMap (fun i => l[i]?) = l := by
  induction l generalizing n with
  | nil => simp
  | cons a l ih =>
    cases n with
    | zero => exact absurd h (by simp)
    | succ n =>
      have hrest := ih (n := n) (by simpa using h)
      have hfirst : (a :: l)[0]? = some a := rfl
      rw [List.range_succ_eq_map, List.filterMap_cons_some hfirst, List.filterMap_map]
      exact congrArg (a :: ·) hrest

lemma mapM_eq_pure {m : Type → Type} [Monad m] [LawfulMonad m] {α β : Type} {l : List α}
    {f : α → m β} {g : α → β} (h : ∀ x ∈ l, f x = pure (g x)) : l.mapM f = pure (l.map g) := by
  induction l with
  | nil => rfl
  | cons x l ih =>
    rw [List.mapM_cons, h x List.mem_cons_self, ih fun y hy => h y (List.mem_cons_of_mem x hy)]
    simp

instance : LawfulMonad Noted := LawfulMonad.mk' Noted
  (by intro α n; simp [Functor.map, Noted.bind, Noted.pure])
  (by intro α β a f; simp [bind, pure, Noted.bind, Noted.pure])
  (by intro α β γ n f g; simp [bind, Noted.bind, List.append_assoc])

/-! ## Nodes -/

section

variable {row : Row} {slots : ℕ} {n : Node}

lemma node_cell (hrow : RowHolds row (Node.columns slots) (n.cells slots)) :
    row.cell "id" = Text.trim n.id.text ∧ row.cell "type" = Text.trim n.type ∧
      row.cell "text" = Text.trim n.text ∧ row.cell "image" = Text.trim (n.image.getD "") ∧
      row.cell "onEnter" = Text.trim (Action.cell n.actionList) := by
  have hplain : ∀ column ∈ plainColumns,
      ((Node.columns slots).zip (n.cells slots)).lookup column =
        (plainColumns.zip [n.id.text, n.type, n.text, n.image.getD "",
          Action.cell n.actionList]).lookup column := by
    intro column hcolumn
    rw [nodeColumns_eq, nodeCells_eq, List.zip_append (by simp [plainColumns]), List.lookup_append]
    simp only [plainColumns, List.mem_cons, List.not_mem_nil, or_false] at hcolumn
    obtain rfl | rfl | rfl | rfl | rfl := hcolumn <;> simp [plainColumns, List.lookup_cons]
  refine ⟨?_, ?_, ?_, ?_, ?_⟩ <;>
    rw [hrow.cell, hplain _ (by simp [plainColumns])] <;>
    simp [plainColumns, List.lookup_cons]

lemma slot_cell (hrow : RowHolds row (Node.columns slots) (n.cells slots)) {i : ℕ}
    (hi : i < slots) (field : String) (hfield : field ∈ slotFields) :
    row.cell (choiceColumn (i + 1) field) =
      Text.trim ((n.choiceList[i]?.map fun c => choiceCell c field).getD "") := by
  have hslot := lookup_slot 0 slots i n.choiceList hfield hi
  have hplain : (plainColumns.zip [n.id.text, n.type, n.text, n.image.getD "",
      Action.cell n.actionList]).lookup (choiceColumn (i + 1) field) = none := by
    rw [List.lookup_eq_none_iff]
    intro entry hentry
    rw [bne_iff_ne]
    exact choiceColumn_ne_plain _ _ (List.of_mem_zip hentry).1
  rw [zero_add] at hslot
  rw [hrow.cell, nodeColumns_eq, nodeCells_eq, List.zip_append (by simp [plainColumns]),
    List.lookup_append, hplain, hslot]
  rfl

/-- A slot holds the choice of its position, or nothing behind the last choice. -/
lemma choice_ofSlot (hrow : RowHolds row (Node.columns slots) (n.cells slots))
    (h : RepresentableNode n) {i : ℕ} (hi : i < slots) :
    Choice.ofSlot n.id.text row (i + 1) =
      pure (n.choiceList[i]?.map fun c => settledChoice (normalChoice c)) := by
  have hid := slot_cell hrow hi "id" (by simp [slotFields])
  have hlabel := slot_cell hrow hi "label" (by simp [slotFields])
  have hvisibility := slot_cell hrow hi "visibility" (by simp [slotFields])
  have hmechanic := slot_cell hrow hi "mechanic" (by simp [slotFields])
  unfold Choice.ofSlot
  cases hc : n.choiceList[i]? with
  | none =>
    have hempty : Filled.ofText? (Text.trim "") = none := by decide
    rw [hc, Option.map_none, Option.getD_none] at hid
    rw [hid, hempty]
    rfl
  | some c =>
    have hchoice : RepresentableChoice c := h.choices c (List.mem_of_getElem? hc)
    have hsegments : ∀ t ∈ c.requirementList.map Requirement.token, Segment t := by
      intro t ht
      obtain ⟨r, hr, rfl⟩ := List.mem_map.mp ht
      exact segment_requirement (hchoice.requirements r hr)
    rw [hc, Option.map_some, Option.getD_some] at hid hlabel hvisibility hmechanic
    have hid' : row.cell (choiceColumn (i + 1) "id") = c.id.text := hid.trans hchoice.id
    have hlabel' : row.cell (choiceColumn (i + 1) "label") = c.label := hlabel.trans hchoice.label
    have hvisibility' : row.cell (choiceColumn (i + 1) "visibility") =
        Requirement.cell c.requirementList := hvisibility.trans (trimmed_joinCell hsegments)
    have hmechanic' : row.cell (choiceColumn (i + 1) "mechanic") = c.mechanic.token :=
      hmechanic.trans (trimmed_mechanic hchoice.mechanic)
    rw [hid', hlabel', hvisibility', hmechanic', ofText?_filled]
    simp only [mechanic_parse hchoice.mechanic, requirement_parseCell hchoice.requirements]
    unfold Choice.requirementList
    rw [nonempty?_getD_map]
    rfl

/-- A node is compiled from its row. -/
theorem node_ofRow (hrow : RowHolds row (Node.columns slots) (n.cells slots))
    (h : RepresentableNode n) (hslots : n.choiceList.length ≤ slots)
    (hnumbered : slots < 10 ^ Text.maxDigits) :
    Node.ofRow n.id row = pure (settledNode (normalNode n)) := by
  obtain ⟨-, htype, htext, himage, honEnter⟩ := node_cell hrow
  have hsegments : ∀ t ∈ n.actionList.map Action.token, Segment t := by
    intro t ht
    obtain ⟨a, ha, rfl⟩ := List.mem_map.mp ht
    exact segment_action (h.onEnter a ha)
  have hchoices : ((List.range slots).map (· + 1)).mapM (Choice.ofSlot n.id.text row) =
      pure (((List.range slots).map (· + 1)).map fun slot =>
        n.choiceList[slot - 1]?.map fun c => settledChoice (normalChoice c)) := by
    apply mapM_eq_pure
    intro slot hslot
    obtain ⟨i, hi, rfl⟩ := List.mem_map.mp hslot
    exact choice_ofSlot hrow h (List.mem_range.mp hi)
  have hkept : (((List.range slots).map (· + 1)).map fun slot => n.choiceList[slot - 1]?.map
      fun c => settledChoice (normalChoice c)).filterMap (fun c => c) =
        n.choiceList.map fun c => settledChoice (normalChoice c) := by
    rw [List.map_map, List.filterMap_map]
    calc (List.range slots).filterMap _
        = (List.range slots).filterMap fun i =>
            (n.choiceList.map fun c => settledChoice (normalChoice c))[i]? := by
          apply List.filterMap_congr
          intro i _
          simp
      _ = n.choiceList.map fun c => settledChoice (normalChoice c) :=
          filterMap_getElem? _ (by simpa using hslots)
  have htrimmed : Trimmed (Action.cell n.actionList) := trimmed_joinCell hsegments
  unfold Node.ofRow
  rw [choiceSlots_of_keys hrow.keys hnumbered]
  change Compiling.ofNoted (Node.ofSlots n.id row _) = pure _
  unfold Node.ofSlots
  rw [hchoices, htype, h.type, htext, h.text, honEnter, htrimmed,
    cell?_of_cell (himage.trans (trimmed_getD h.image))]
  simp only [action_parseCell h.onEnter, pure_bind, hkept]
  unfold Node.actionList Node.choiceList
  rw [nonempty?_getD_map, nonempty?_getD_map]
  have hcompose :
      (withoutEmptyList n.choices).map (List.map fun c => settledChoice (normalChoice c)) =
      ((withoutEmptyList n.choices).map (List.map normalChoice)).map (List.map settledChoice) := by
    rw [Option.map_map]
    congr 1
    funext l
    rw [Function.comp_apply, List.map_map]
    rfl
  rw [hcompose]
  rfl

end

/-! ## The other entities -/

section

variable {row : Row}

lemma name_of_cell {column name : String} {id : Filled} (h : row.cell column = name) :
    (row.cell? column).getD id.text = nameOrId name id := by
  unfold Row.cell? nameOrId
  rw [h]
  by_cases hname : name = "" <;> simp [hname]

lemma trimmed_number {n : Number} (h : ExactNumber n) : Trimmed (String.ofList n.cell) :=
  (tokenPart_number h).1

lemma trimmed_optionalCell {n : Option Number} (h : ∀ k ∈ n, ExactNumber k) :
    Trimmed (optionalCell n) := by
  cases n with
  | none => exact trimmed_empty
  | some k => exact trimmed_number (h k rfl)

lemma number?_of_cell {column : String} {n : Option Number} (h : row.cell column = optionalCell n)
    (hn : ∀ k ∈ n, ExactNumber k) : row.number? column = n.map settledNumber := by
  unfold Row.number? Row.cell?
  rw [h]
  cases n with
  | none => rfl
  | some k =>
    have hk : ExactNumber k := hn k rfl
    have hcell : optionalCell (some k) = String.ofList k.cell := rfl
    rw [hcell, if_neg (cell_ne_empty hk), Option.map_some, Option.map_some, numberOr_cell hk]

lemma flag_of_cell {column : String} {b : Option Bool}
    (h : row.cell column = (b.map fun b => (Scalar.flag b).cell).getD "") :
    ((row.cell? column).map fun s => (Scalar.text s).truthOr false) = b := by
  unfold Row.cell?
  rw [h]
  cases b with
  | none => rfl
  | some b =>
    cases b
    · have hfalse := toLower_trim (s := "false") (by decide) (by decide)
      simp [Scalar.cell, Scalar.truthOr, Scalar.truthy, Scalar.plain, hfalse]
    · have htrue := toLower_trim (s := "true") (by decide) (by decide)
      simp [Scalar.cell, Scalar.truthOr, Scalar.truthy, Scalar.plain, htrue]

lemma cell_eq {columns cells : List String} {column s : String}
    (hrow : RowHolds row columns cells) (hlookup : (columns.zip cells).lookup column = some s)
    (hs : Trimmed s) : row.cell column = s := by
  rw [hrow.cell, hlookup]
  exact hs

lemma trimmed_flag (b : Option Bool) :
    Trimmed ((b.map fun b => (Scalar.flag b).cell).getD "") := by
  match b with
  | none => decide
  | some false => decide
  | some true => decide

lemma trimmed_effect {a : Option Action} (h : ∀ b ∈ a, RepresentableAction b) :
    Trimmed ((a.map Action.token).getD "") := by
  cases a with
  | none => exact trimmed_empty
  | some b => exact (segment_action (h b rfl)).1

/-- An item is compiled from its row. -/
theorem item_ofRow {i : Item} (hrow : RowHolds row Item.columns i.cells)
    (h : RepresentableItem i) : Item.ofRow i.id row = pure (settledItem (normalItem i)) := by
  have hname : row.cell "name" = i.name := cell_eq hrow rfl h.name
  have htype : row.cell "type" = i.type := cell_eq hrow rfl h.type
  have hdamage : row.cell "damage" = i.damage.getD "" :=
    cell_eq hrow rfl (trimmed_getD h.damage)
  have hattack : row.cell "attackBonus" = optionalCell i.attackBonus :=
    cell_eq hrow rfl (trimmed_optionalCell h.attackBonus)
  have harmor : row.cell "acBonus" = optionalCell i.armorBonus :=
    cell_eq hrow rfl (trimmed_optionalCell h.armorBonus)
  have heffect : row.cell "effect" = (i.effect.map Action.token).getD "" :=
    cell_eq hrow rfl (trimmed_effect h.effect)
  have hscaling : row.cell "scalingAttribute" = i.scalingAttribute.getD "" :=
    cell_eq hrow rfl (trimmed_getD h.scalingAttribute)
  have haoe : row.cell "aoe" = (i.areaOfEffect.map fun b => (Scalar.flag b).cell).getD "" :=
    cell_eq hrow rfl (trimmed_flag i.areaOfEffect)
  unfold Item.ofRow
  rw [name_of_cell hname, htype, cell?_of_cell hdamage, number?_of_cell hattack h.attackBonus,
    number?_of_cell harmor h.armorBonus, cell?_of_cell hscaling, flag_of_cell haoe]
  unfold Row.cell?
  rw [heffect]
  cases hi : i.effect with
  | none => simp [settledItem, normalItem, hi]
  | some a =>
    have hparse := action_parse (h.effect a hi)
    have hne : a.token ≠ "" := (segment_action (h.effect a hi)).2.1
    simp only [Option.map_some, Option.getD_some, hne, if_false, hparse]
    simp only [settledItem, normalItem, hi, Option.map_some]
    rfl

/-- An enemy is compiled from its row. -/
theorem enemy_ofRow {e : Enemy} (hrow : RowHolds row Enemy.columns e.cells)
    (h : RepresentableEnemy e) : Enemy.ofRow e.id row = settledEnemy (normalEnemy e) := by
  have hname : row.cell "name" = e.name := cell_eq hrow rfl h.name
  have hhp : row.cell "hp" = String.ofList e.hp.cell := cell_eq hrow rfl (trimmed_number h.hp)
  have harmor : row.cell "ac" = String.ofList e.armor.cell :=
    cell_eq hrow rfl (trimmed_number h.armor)
  have hattack : row.cell "attackBonus" = String.ofList e.attackBonus.cell :=
    cell_eq hrow rfl (trimmed_number h.attackBonus)
  have hdamage : row.cell "damage" = e.damage.text := cell_eq hrow rfl h.damage
  have hreward : row.cell "xpReward" = String.ofList e.reward.cell :=
    cell_eq hrow rfl (trimmed_number h.reward)
  unfold Enemy.ofRow Row.numberOr Filled.orElse
  rw [name_of_cell hname, hhp, harmor, hattack, hdamage, hreward, ofText?_filled,
    numberOr_cell h.hp, numberOr_cell h.armor, numberOr_cell h.attackBonus,
    numberOr_cell h.reward]
  rfl

lemma trimmed_nameOrId {name : String} {id : Filled} (hname : Trimmed name)
    (hid : Trimmed id.text) : Trimmed (nameOrId name id) := by
  unfold nameOrId
  split
  · exact hid
  · exact hname

lemma nameOrId_ne_empty (name : String) (id : Filled) : nameOrId name id ≠ "" := by
  unfold nameOrId
  split
  · exact id.filled
  · assumption

/-- The name that is read for an encounter: a blank one is read as none. -/
def readName (e : Encounter) : Option String :=
  withoutEmpty (some (Text.trim (nameOrId (e.name.getD "") e.id)))

lemma readName_eq {e : Encounter} (h : RepresentableEncounter e) :
    readName e = some (nameOrId (e.name.getD "") e.id) := by
  have htrim : Text.trim (nameOrId (e.name.getD "") e.id) = nameOrId (e.name.getD "") e.id :=
    trimmed_nameOrId (trimmed_getD h.name) h.id
  unfold readName
  rw [htrim]
  simp [withoutEmpty, nameOrId_ne_empty]

/-- An encounter is compiled from its row. -/
theorem encounter_ofRow {e : Encounter} (hrow : RowHolds row Encounter.columns e.cells)
    (hspawns : ∀ s ∈ e.spawns, RepresentableSpawn s) (hvictory : Trimmed e.onVictory)
    (hdefeat : Trimmed e.onDefeat) :
    Encounter.ofRow e.id row = { settledEncounter e with name := readName e } := by
  have hsegments : ∀ t ∈ e.spawns.map Spawn.token, Segment t := by
    intro t ht
    obtain ⟨s, hs, rfl⟩ := List.mem_map.mp ht
    exact segment_spawn (hspawns s hs)
  have hname : row.cell "name" = Text.trim (nameOrId (e.name.getD "") e.id) := by
    rw [hrow.cell]
    rfl
  have hread : row.cell? "name" = readName e := cell?_of_cell hname
  have hspawnsCell : row.cell "enemies" = Spawn.cell e.spawns :=
    cell_eq hrow rfl (trimmed_joinCell hsegments)
  have hvictoryCell : row.cell "onVictory" = e.onVictory := cell_eq hrow rfl hvictory
  have hdefeatCell : row.cell "onDefeat" = e.onDefeat := cell_eq hrow rfl hdefeat
  unfold Encounter.ofRow
  rw [hread, hspawnsCell, hvictoryCell, hdefeatCell, spawn_parseCell hspawns]
  rfl

end

/-! ## Tables -/

section

variable {α β : Type} (kind : EntityKind) (compile : Filled → Row → Compiling α)
  (idOf : β → Filled) {f : β → α} {rows : List Row} {l : List β}

lemma mapM_standings (hrows : List.Forall₂ (fun row x => row.id? = some (idOf x) ∧
      compile (idOf x) row = pure (f x)) rows l)
    (hdistinct : (l.map fun x => (idOf x).text).Nodup) {seen : List String}
    (hseen : ∀ x ∈ l, (idOf x).text ∉ seen) :
    (standings seen rows).mapM (compileStanding kind compile) =
      pure (l.map fun x => some (f x)) := by
  induction hrows generalizing seen with
  | nil => rfl
  | @cons row x rows l hrow _ ih =>
    rw [List.map_cons, List.nodup_cons] at hdistinct
    obtain ⟨hnew, hrest⟩ := hdistinct
    have hnot : seen.contains (idOf x).text = false := by
      simpa using hseen x List.mem_cons_self
    have hlater : ∀ y ∈ l, (idOf y).text ∉ (idOf x).text :: seen := by
      intro y hy hmem
      obtain heq | hmem := List.mem_cons.mp hmem
      · exact hnew (List.mem_map.mpr ⟨y, hy, heq⟩)
      · exact hseen y (List.mem_cons_of_mem x hy) hmem
    have hstandings : standings seen (row :: rows) =
        (.first (idOf x), row) :: standings ((idOf x).text :: seen) rows := by
      rw [standings, hrow.1]
      dsimp only
      rw [hnot]
      rfl
    have hfirst : compileStanding kind compile (.first (idOf x), row) = pure (some (f x)) := by
      change some <$> compile (idOf x) row = pure (some (f x))
      rw [hrow.2, map_pure]
    rw [hstandings, List.mapM_cons, hfirst, ih hrest hlater]
    simp

lemma compileRows_of_distinct (hrows : List.Forall₂ (fun row x => row.id? = some (idOf x) ∧
      compile (idOf x) row = pure (f x)) rows l)
    (hdistinct : (l.map fun x => (idOf x).text).Nodup) :
    compileRows kind compile rows = pure (l.map f) := by
  unfold compileRows
  rw [mapM_standings kind compile idOf hrows hdistinct (by simp), pure_bind, List.filterMap_map]
  have hkept : l.filterMap (id ∘ fun x => some (f x)) = l.map f :=
    congrFun List.filterMap_eq_map' l
  rw [hkept]

end

lemma ofList_append {α : Type} [Keyed α] (c : Collection α) {l : List α}
    (h : ((c.toList ++ l).map Keyed.key).Nodup) :
    (l.foldl Collection.add c).toList = c.toList ++ l := by
  induction l generalizing c with
  | nil => simp
  | cons x l ih =>
    have hnew : Keyed.key x ∉ c.keys := by
      rw [List.map_append, List.map_cons] at h
      have hdisjoint := (List.nodup_append.mp h).2.2
      intro hmem
      exact hdisjoint _ hmem _ List.mem_cons_self rfl
    have hadd : (c.add x).toList = c.toList ++ [x] := by
      unfold Collection.add
      rw [dif_neg hnew]
    rw [List.foldl_cons, ih (c.add x) (by rw [hadd]; simpa using h), hadd]
    simp

@[simp] lemma ofList_toList {α : Type} [Keyed α] (c : Collection α) :
    Collection.ofList c.toList = c := by
  have hlist : (Collection.ofList c.toList).toList = c.toList := by
    exact ofList_append (Collection.empty : Collection α) (l := c.toList) (by
      simpa [Collection.empty] using c.distinct)
  generalize Collection.ofList c.toList = d at hlist
  cases c
  cases d
  simp only at hlist
  subst hlist
  rfl

lemma ofList_map_map {α : Type} [Keyed α] {f g : α → α}
    (hf : ∀ x, Keyed.key (f x) = Keyed.key x) (hg : ∀ x, Keyed.key (g x) = Keyed.key x)
    (c : Collection α) :
    Collection.ofList (c.toList.map fun x => g (f x)) = mapEntities g hg (mapEntities f hf c) := by
  rw [← ofList_toList (mapEntities g hg (mapEntities f hf c))]
  congr 1
  exact (List.map_map ..).symm

/-- The rows in which a story is written. -/
def storyRows (s : Story) : Tables where
  nodes := s.nodes.toList.map fun n => filledRow (n.row s.slots)
  items := s.items.toList.map fun i => filledRow i.row
  enemies := s.enemies.toList.map fun e => filledRow e.row
  encounters := s.encounters.toList.map fun e => filledRow e.row

/-- Rows that read as the cells of a story. -/
structure TablesHold (t : Tables) (s : Story) : Prop where
  nodes : List.Forall₂ (fun row n => RowHolds row (Node.columns s.slots) (Node.cells s.slots n))
    t.nodes s.nodes.toList
  items : List.Forall₂ (fun row i => RowHolds row Item.columns (Item.cells i))
    t.items s.items.toList
  enemies : List.Forall₂ (fun row e => RowHolds row Enemy.columns (Enemy.cells e))
    t.enemies s.enemies.toList
  encounters : List.Forall₂ (fun row e => RowHolds row Encounter.columns (Encounter.cells e))
    t.encounters s.encounters.toList

lemma tablesHold_storyRows (s : Story) : TablesHold (storyRows s) s := by
  have hmap : ∀ {β : Type} (l : List β) (rowOf : β → Row) (R : Row → β → Prop),
      (∀ x ∈ l, R (rowOf x) x) → List.Forall₂ R (l.map rowOf) l := by
    intro β l rowOf R h
    rw [List.forall₂_map_left_iff, List.forall₂_same]
    exact h
  constructor
  · exact hmap _ _ _ fun n _ => rowHolds_filledRow (nodeColumns_length s.slots n)
  · exact hmap _ _ _ fun i _ => rowHolds_filledRow rfl
  · exact hmap _ _ _ fun e _ => rowHolds_filledRow rfl
  · exact hmap _ _ _ fun e _ => rowHolds_filledRow rfl

lemma forall₂_of_mem {α β : Type} {R S : α → β → Prop} {as : List α} {bs : List β}
    (h : List.Forall₂ R as bs) (himp : ∀ a ∈ as, ∀ b ∈ bs, R a b → S a b) :
    List.Forall₂ S as bs := by
  induction h with
  | nil => exact .nil
  | cons hab _ ih =>
    refine .cons (himp _ List.mem_cons_self _ List.mem_cons_self hab) (ih fun a ha b hb => ?_)
    exact himp a (List.mem_cons_of_mem _ ha) b (List.mem_cons_of_mem _ hb)

lemma id?_of_cell {row : Row} {id : Filled} (h : row.cell "id" = id.text) : row.id? = some id := by
  unfold Row.id?
  rw [h, ofText?_filled]

lemma length_le_slots (s : Story) {n : Node} (hn : n ∈ s.nodes.toList) :
    n.choiceList.length ≤ s.slots := by
  have hfold : ∀ (l : List Node) (k : ℕ),
      k ≤ l.foldl (fun k node => max k node.choiceList.length) k ∧
        ∀ m ∈ l, m.choiceList.length ≤ l.foldl (fun k node => max k node.choiceList.length) k := by
    intro l
    induction l with
    | nil => simp
    | cons m l ih =>
      intro k
      obtain ⟨hk, hl⟩ := ih (max k m.choiceList.length)
      rw [List.foldl_cons]
      refine ⟨by omega, ?_⟩
      intro m' hm'
      obtain rfl | hm' := List.mem_cons.mp hm'
      · omega
      · exact hl m' hm'
  exact (hfold s.nodes.toList leastSlots).2 n hn

/-- Rows that read as the cells of a story compile to its normal form with settled numbers, if all
but the encounters is representable, and to the encounters that are read from their rows. -/
theorem compile_of_rows {t : Tables} {s : Story} {c : Collection Encounter} (ht : TablesHold t s)
    (hnumbered : s.slots < 10 ^ Text.maxDigits)
    (hnode : ∀ n ∈ s.nodes.toList, RepresentableNode n)
    (hitem : ∀ i ∈ s.items.toList, RepresentableItem i)
    (henemy : ∀ e ∈ s.enemies.toList, RepresentableEnemy e)
    (hencounter : List.Forall₂ (fun row e => row.id? = some e.id ∧ Encounter.ofRow e.id row = e)
      t.encounters c.toList) :
    t.compile = pure { settledStory (normalStory s) with encounters := c } := by
  have hnodes := compileRows_of_distinct .node Node.ofRow Node.id
    (f := fun n => settledNode (normalNode n)) (forall₂_of_mem ht.nodes fun row _ n hn hrow =>
      ⟨id?_of_cell ((node_cell hrow).1.trans (hnode n hn).id),
        node_ofRow hrow (hnode n hn) (length_le_slots s hn) hnumbered⟩) s.nodes.distinct
  have hitems := compileRows_of_distinct .item Item.ofRow Item.id
    (forall₂_of_mem ht.items fun row _ i hi hrow =>
      ⟨id?_of_cell (cell_eq hrow rfl (hitem i hi).id), item_ofRow hrow (hitem i hi)⟩)
    s.items.distinct
  have henemies := compileRows_of_distinct .enemy (fun id row => pure (Enemy.ofRow id row))
    Enemy.id (forall₂_of_mem ht.enemies fun row _ e he hrow =>
      ⟨id?_of_cell (cell_eq hrow rfl (henemy e he).id),
        congrArg pure (enemy_ofRow hrow (henemy e he))⟩) s.enemies.distinct
  have hencounters := compileRows_of_distinct .encounter
    (fun id row => pure (Encounter.ofRow id row)) Encounter.id
    (f := fun e => e) (forall₂_of_mem hencounter fun row _ e _ hrow =>
      ⟨hrow.1, congrArg pure hrow.2⟩) c.distinct
  unfold Tables.compile
  rw [hnodes, hitems, henemies, hencounters]
  simp only [pure_bind]
  rw [ofList_map_map (f := normalNode) (g := settledNode) (fun _ => rfl) (fun _ => rfl),
    ofList_map_map (f := normalItem) (g := settledItem) (fun _ => rfl) (fun _ => rfl),
    ofList_map_map (f := normalEnemy) (g := settledEnemy) (fun _ => rfl) (fun _ => rfl),
    List.map_id', ofList_toList]
  rfl

/-- Rows that read as the cells of a representable story compile to its normal form with settled
numbers. -/
theorem compile_of_hold {t : Tables} {s : Story} (ht : TablesHold t s)
    (hnumbered : s.slots < 10 ^ Text.maxDigits) (h : RepresentableStory s) :
    t.compile = pure (settledStory (normalStory s)) := by
  refine compile_of_rows (c := (settledStory (normalStory s)).encounters) ht hnumbered h.nodes
    h.items h.enemies ?_
  change List.Forall₂ _ t.encounters
    ((s.encounters.toList.map normalEncounter).map settledEncounter)
  rw [List.map_map, List.forall₂_map_right_iff]
  refine forall₂_of_mem ht.encounters fun row _ e he hrow => ?_
  have hencounter := h.encounters e he
  refine ⟨id?_of_cell (cell_eq hrow rfl hencounter.id), ?_⟩
  have hread := encounter_ofRow hrow hencounter.spawns hencounter.onVictory hencounter.onDefeat
  rw [readName_eq hencounter] at hread
  exact hread

/-! ## Normal forms are representable -/

lemma mem_withoutEmpty {s : Option String} {t : String} (h : t ∈ withoutEmpty s) : t ∈ s :=
  (Option.filter_eq_some_iff.mp h).1

@[simp] lemma getD_withoutEmptyList {α : Type} (l : Option (List α)) :
    (withoutEmptyList l).getD [] = l.getD [] := by
  unfold withoutEmptyList
  cases l with
  | none => rfl
  | some l => cases l <;> rfl

lemma representable_normalMechanic {m : Mechanic} (h : RepresentableMechanic m) :
    RepresentableMechanic (normalMechanic m) := by
  cases m with
  | navigate nodeId => exact h
  | combat encounterId => exact h
  | skillCheck c =>
    exact { h with
      failureEncounter := fun s hs => h.failureEncounter s (mem_withoutEmpty hs)
      ability := fun s hs => h.ability s (mem_withoutEmpty hs) }

lemma representable_normalChoice {c : Choice} (h : RepresentableChoice c) :
    RepresentableChoice (normalChoice c) where
  id := h.id
  label := h.label
  requirements := by
    unfold Choice.requirementList normalChoice
    rw [getD_withoutEmptyList]
    exact h.requirements
  mechanic := representable_normalMechanic h.mechanic

@[simp] lemma choiceList_normalNode (n : Node) :
    (normalNode n).choiceList = n.choiceList.map normalChoice := by
  unfold Node.choiceList normalNode
  cases hchoices : n.choices with
  | none => rfl
  | some l => cases l <;> rfl

lemma representable_normalNode {n : Node} (h : RepresentableNode n) :
    RepresentableNode (normalNode n) where
  id := h.id
  type := h.type
  text := h.text
  image := fun s hs => h.image s (mem_withoutEmpty hs)
  onEnter := by
    unfold Node.actionList normalNode
    rw [getD_withoutEmptyList]
    exact h.onEnter
  choices := by
    rw [choiceList_normalNode]
    intro c hc
    obtain ⟨d, hd, rfl⟩ := List.mem_map.mp hc
    exact representable_normalChoice (h.choices d hd)

lemma representable_normalItem {i : Item} (h : RepresentableItem i) :
    RepresentableItem (normalItem i) :=
  { h with
    name := trimmed_nameOrId h.name h.id
    damage := fun s hs => h.damage s (mem_withoutEmpty hs)
    scalingAttribute := fun s hs => h.scalingAttribute s (mem_withoutEmpty hs) }

lemma representable_normalEnemy {e : Enemy} (h : RepresentableEnemy e) :
    RepresentableEnemy (normalEnemy e) := { h with name := trimmed_nameOrId h.name h.id }

lemma representable_normalEncounter {e : Encounter} (h : RepresentableEncounter e) :
    RepresentableEncounter (normalEncounter e) :=
  { h with
    name := by
      intro s hs
      rw [← Option.some.inj hs]
      exact trimmed_nameOrId (trimmed_getD h.name) h.id }

lemma representable_normalStory {s : Story} (h : RepresentableStory s) :
    RepresentableStory (normalStory s) := by
  have hmap : ∀ {α : Type} {f : α → α} {l : List α} {P : α → Prop},
      (∀ x ∈ l, P (f x)) → ∀ y ∈ l.map f, P y := by
    intro α f l P hf y hy
    obtain ⟨x, hx, rfl⟩ := List.mem_map.mp hy
    exact hf x hx
  constructor
  · exact hmap fun n hn => representable_normalNode (h.nodes n hn)
  · exact hmap fun i hi => representable_normalItem (h.items i hi)
  · exact hmap fun e he => representable_normalEnemy (h.enemies e he)
  · exact hmap fun e he => representable_normalEncounter (h.encounters e he)

/-! ## Equality by value -/

lemma sameList_map {α : Type} {same : α → α → Bool} {f : α → α} {l : List α}
    (h : ∀ x ∈ l, same (f x) x = true) : sameList same (l.map f) l = true := by
  induction l with
  | nil => rfl
  | cons x l ih =>
    rw [List.map_cons, sameList, h x List.mem_cons_self,
      ih fun y hy => h y (List.mem_cons_of_mem x hy)]
    rfl

lemma sameOption_map {α : Type} {same : α → α → Bool} {f : α → α} {o : Option α}
    (h : ∀ x ∈ o, same (f x) x = true) : sameOption same (o.map f) o = true := by
  cases o with
  | none => rfl
  | some x => exact h x rfl

lemma settledAction_same {a : Action} (h : RepresentableAction a) :
    (settledAction a).same a = true := by
  cases a with
  | setFlag key value => simp [settledAction, Action.same]
  | addItem itemId n => simp [settledAction, Action.same, settledNumber_eq h.2]
  | removeItem itemId n => simp [settledAction, Action.same, settledNumber_eq h.2]
  | adjustHp n => exact settledNumber_eq h
  | adjustCurrency n => exact settledNumber_eq h
  | heal amount => simp [settledAction, Action.same]

lemma settledRequirement_same {r : Requirement} (h : RepresentableRequirement r) :
    (settledRequirement r).same r = true := by
  cases r with
  | hasFlag key => simp [settledRequirement, Requirement.same]
  | notHasFlag key => simp [settledRequirement, Requirement.same]
  | hasItem itemId => simp [settledRequirement, Requirement.same]
  | statCheck stat operator n =>
    simp [settledRequirement, Requirement.same, settledNumber_eq h.2.2]

lemma settledMechanic_same {m : Mechanic} (h : RepresentableMechanic m) :
    (settledMechanic m).same m = true := by
  cases m with
  | navigate nodeId => simp [settledMechanic, Mechanic.same]
  | combat encounterId => simp [settledMechanic, Mechanic.same]
  | skillCheck c => simp [settledMechanic, Mechanic.same, settledNumber_eq h.difficulty]

lemma settledSpawn_same {s : Spawn} (h : RepresentableSpawn s) :
    (settledSpawn s).same s = true := by
  simp [settledSpawn, Spawn.same, settledNumber_eq h.2]

lemma mem_getD {α : Type} {o : Option (List α)} {l : List α} (h : l ∈ o) {x : α} (hx : x ∈ l) :
    x ∈ o.getD [] := by
  rw [Option.mem_def.mp h]
  exact hx

lemma settledChoice_same {c : Choice} (h : RepresentableChoice c) :
    (settledChoice c).same c = true := by
  have hrequirements : sameOption (sameList Requirement.same)
      (c.requirements.map (List.map settledRequirement)) c.requirements = true :=
    sameOption_map fun l hl => sameList_map fun r hr =>
      settledRequirement_same (h.requirements r (mem_getD hl hr))
  simp [settledChoice, Choice.same, hrequirements, settledMechanic_same h.mechanic]

lemma settledNode_same {n : Node} (h : RepresentableNode n) :
    (settledNode n).same n = true := by
  have hactions : sameOption (sameList Action.same)
      (n.onEnter.map (List.map settledAction)) n.onEnter = true :=
    sameOption_map fun l hl => sameList_map fun a ha =>
      settledAction_same (h.onEnter a (mem_getD hl ha))
  have hchoices : sameOption (sameList Choice.same)
      (n.choices.map (List.map settledChoice)) n.choices = true :=
    sameOption_map fun l hl => sameList_map fun c hc =>
      settledChoice_same (h.choices c (mem_getD hl hc))
  simp [settledNode, Node.same, hactions, hchoices]

lemma settledItem_same {i : Item} (h : RepresentableItem i) :
    (settledItem i).same i = true := by
  have hattack : sameOption Number.eq (i.attackBonus.map settledNumber) i.attackBonus = true :=
    sameOption_map fun n hn => settledNumber_eq (h.attackBonus n hn)
  have harmor : sameOption Number.eq (i.armorBonus.map settledNumber) i.armorBonus = true :=
    sameOption_map fun n hn => settledNumber_eq (h.armorBonus n hn)
  have heffect : sameOption Action.same (i.effect.map settledAction) i.effect = true :=
    sameOption_map fun a ha => settledAction_same (h.effect a ha)
  simp [settledItem, Item.same, hattack, harmor, heffect]

lemma settledEnemy_same {e : Enemy} (h : RepresentableEnemy e) :
    (settledEnemy e).same e = true := by
  simp [settledEnemy, Enemy.same, settledNumber_eq h.hp, settledNumber_eq h.armor,
    settledNumber_eq h.attackBonus, settledNumber_eq h.reward]

lemma settledEncounter_same {e : Encounter} (h : RepresentableEncounter e) :
    (settledEncounter e).same e = true := by
  have hspawns : sameList Spawn.same (e.spawns.map settledSpawn) e.spawns = true :=
    sameList_map fun s hs => settledSpawn_same (h.spawns s hs)
  simp [settledEncounter, Encounter.same, hspawns]

/-- Settling the numbers of a representable story changes no value. -/
theorem settledStory_same {s : Story} (h : RepresentableStory s) :
    (settledStory s).same s = true := by
  have hnodes : sameList Node.same (s.nodes.toList.map settledNode) s.nodes.toList = true :=
    sameList_map fun n hn => settledNode_same (h.nodes n hn)
  have hitems : sameList Item.same (s.items.toList.map settledItem) s.items.toList = true :=
    sameList_map fun i hi => settledItem_same (h.items i hi)
  have henemies : sameList Enemy.same (s.enemies.toList.map settledEnemy) s.enemies.toList = true :=
    sameList_map fun e he => settledEnemy_same (h.enemies e he)
  have hencounters : sameList Encounter.same (s.encounters.toList.map settledEncounter)
      s.encounters.toList = true :=
    sameList_map fun e he => settledEncounter_same (h.encounters e he)
  unfold Story.same
  simp only [settledStory, mapEntities, hnodes, hitems, henemies, hencounters, Bool.and_self]

/-- The rows that are made of a story. There are none if it has so many choices that their columns
cannot be numbered. -/
def storyRows? (s : Story) : Option Tables :=
  if s.hasNumberedSlots then some (storyRows s) else none

/-- Compiling undoes writing. The rows of a representable story compile, without a warning, to the
story in its normal form, with numbers of the same value. All stories have rows but those with too
many choices. -/
theorem compile_storyRows (s : Story) (h : RepresentableStory s) :
    (∀ rows, storyRows? s = some rows →
      ∃ t, rows.compile.run = ⟨.ok t, []⟩ ∧ t.same (normalStory s) = true) ∧
    (storyRows? s = none → 10 ^ Text.maxDigits ≤ s.slots) := by
  refine ⟨fun rows hrows => ?_, fun hnone => ?_⟩
  · obtain ⟨hnumbered, hmade⟩ := Option.ite_none_right_eq_some.mp hrows
    obtain rfl := Option.some.inj hmade
    refine ⟨settledStory (normalStory s), ?_, ?_⟩
    · rw [compile_of_hold (tablesHold_storyRows s) (hasNumberedSlots_iff.mp hnumbered) h]
      rfl
    · exact settledStory_same (representable_normalStory h)
  · refine Nat.not_lt.mp fun hslots => ?_
    unfold storyRows? at hnone
    rw [if_pos (hasNumberedSlots_iff.mpr hslots)] at hnone
    cases hnone

/-- A short story with entities of all kinds. -/
def cellarStory : Story where
  nodes := ⟨[
    { id := ⟨"n_start", by decide⟩
      type := "narrative"
      text := "A cellar, \"dark\"\nand damp"
      image := some ""
      onEnter := some [.addItem ⟨"lamp", by decide⟩ 1, .setFlag ⟨"woken", by decide⟩ true]
      choices := some [
        { id := ⟨"climb", by decide⟩
          label := "Climb, quickly"
          requirements := some []
          mechanic :=
            .skillCheck ⟨⟨"1d20+1", by decide⟩, 10, some "", "out", "n_start", some "rats"⟩ },
        { id := ⟨"look", by decide⟩
          label := ""
          requirements := some [.hasItem ⟨"lamp", by decide⟩,
            .statCheck ⟨"hpCurrent", by decide⟩ ⟨">=", by decide⟩ 10]
          mechanic := .navigate ⟨"out", by decide⟩ }] },
    { id := ⟨"out", by decide⟩
      type := "ending"
      text := "Out"
      image := some "out.png"
      onEnter := none
      choices := some [] }], by decide⟩
  items := ⟨[
    { id := ⟨"lamp", by decide⟩
      name := ""
      type := "tool"
      damage := none
      attackBonus := some 1
      armorBonus := none
      effect := some (.heal ⟨"1d4", by decide⟩)
      scalingAttribute := none
      areaOfEffect := some false }], by decide⟩
  enemies := ⟨[⟨⟨"rat", by decide⟩, "Rat", 1, 10, 0, ⟨"1d3", by decide⟩, 1⟩], by decide⟩
  encounters :=
    ⟨[⟨⟨"rats", by decide⟩, none, [⟨⟨"rat", by decide⟩, 10⟩], "out", "n_start"⟩], by decide⟩

lemma representable_cellarStory : RepresentableStory cellarStory := by
  decide +kernel

theorem compile_cellarStory :
    RepresentableStory cellarStory ∧
      ∃ rows, storyRows? cellarStory = some rows ∧
        ∃ t, rows.compile.run = ⟨.ok t, []⟩ ∧ t.same (normalStory cellarStory) = true := by
  have hrows : storyRows? cellarStory = some (storyRows cellarStory) := if_pos (by decide +kernel)
  exact ⟨representable_cellarStory, _, hrows,
    (compile_storyRows cellarStory representable_cellarStory).1 _ hrows⟩

end Gamebook.Proofs
