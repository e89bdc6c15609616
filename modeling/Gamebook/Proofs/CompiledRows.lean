import Gamebook.Proofs.Compilation
import Gamebook.Proofs.TokenFaults

/-!
# Compiling row by row

Every row that is the first with its id gives an entity, and each part of the entity is read from
a cell of its own. What is malformed there is left out or gives way to a default. Only an effect
with a bar in its argument and a choice column with too long a number stop the compilation.
-/

namespace Gamebook.Proofs

/-! ## What the cells of a row say -/

/-- The tokens of a cell that read, in order. -/
def readable {α : Type} (read : Token → Except TokenFault α) (cell : String) : List α :=
  (Text.barSegments cell).filterMap fun s => (read (.ofText s)).toOption

/-- The number in a cell, or a default if there is none. -/
def numberIn (cell : String) (fallback : Number) : Number :=
  (Number.ofText? cell.toList).getD fallback

/-- The choice in a slot that has an id and a mechanic that reads. -/
def choiceIn (row : Row) (slot : ℕ) : Option Choice := do
  let id ← Filled.ofText? (row.cell (choiceColumn slot "id"))
  let mechanic ← (Mechanic.ofToken (.ofText (row.cell (choiceColumn slot "mechanic")))).toOption
  return {
    id
    label := row.cell (choiceColumn slot "label")
    requirements := nonempty?
      (readable Requirement.ofToken (row.cell (choiceColumn slot "visibility")))
    mechanic }

structure NodeOfRow (row : Row) (n : Node) : Prop where
  id : n.id.text = row.cell "id"
  type : n.type = row.cell "type"
  text : n.text = row.cell "text"
  image : n.image = row.cell? "image"
  onEnter : n.onEnter = nonempty? (readable Action.ofToken (row.cell "onEnter"))
  choices : n.choices = nonempty? ((rowSlots row).filterMap (choiceIn row))

structure ItemOfRow (row : Row) (i : Item) : Prop where
  id : i.id.text = row.cell "id"
  name : i.name = (row.cell? "name").getD (row.cell "id")
  type : i.type = row.cell "type"
  damage : i.damage = row.cell? "damage"
  attackBonus : i.attackBonus = (row.cell? "attackBonus").map fun s => numberIn s 0
  armorBonus : i.armorBonus = (row.cell? "acBonus").map fun s => numberIn s 0
  effect : i.effect =
    (row.cell? "effect").bind fun s => (Action.ofToken (.ofText s)).toOption
  scalingAttribute : i.scalingAttribute = row.cell? "scalingAttribute"
  areaOfEffect : i.areaOfEffect = (row.cell? "aoe").map fun s => decide (s.toLower = "true")

structure EnemyOfRow (row : Row) (e : Enemy) : Prop where
  id : e.id.text = row.cell "id"
  name : e.name = (row.cell? "name").getD (row.cell "id")
  hp : e.hp = numberIn (row.cell "hp") 1
  armor : e.armor = numberIn (row.cell "ac") 10
  attackBonus : e.attackBonus = numberIn (row.cell "attackBonus") 0
  damage : e.damage.text = (row.cell? "damage").getD Enemy.defaultDamage.text
  reward : e.reward = numberIn (row.cell "xpReward") 0

/-- The spawn that a token with an enemy stands for. -/
structure SpawnOfToken (t : Token) (spawn : Spawn) : Prop where
  enemyId : spawn.enemyId.text = t.name
  count : spawn.count = numberIn (t.argument 0) 1

structure EncounterOfRow (row : Row) (e : Encounter) : Prop where
  id : e.id.text = row.cell "id"
  name : e.name = row.cell? "name"
  spawns : List.Forall₂ SpawnOfToken
    (((Text.barSegments (row.cell "enemies")).map Token.ofText).filter fun t => t.name ≠ "")
    e.spawns
  onVictory : e.onVictory = row.cell "onVictory"
  onDefeat : e.onDefeat = row.cell "onDefeat"

structure StoryOfTables (t : Tables) (s : Story) : Prop where
  nodes : RowByRow t.nodes s.nodes NodeOfRow
  items : RowByRow t.items s.items ItemOfRow
  enemies : RowByRow t.enemies s.enemies EnemyOfRow
  encounters : RowByRow t.encounters s.encounters EncounterOfRow

/-- The effect of the row is an action with a bar in its argument. -/
def BarInEffect (row : Row) : Prop :=
  (Token.ofText (row.cell "effect")).name ∈ textActions ∧
    '|' ∈ ((Token.ofText (row.cell "effect")).argument 0).toList

/-- The column holds choice ids, and its number has too many digits to be read. -/
def OversizedColumn (column : String) : Prop :=
  ∃ digits : List Char, 4300 < digits.length ∧ (∀ c ∈ digits, (Text.digit? c).isSome = true) ∧
    (column = "choice" ++ String.ofList digits ++ "_id" ∨
      column = "choice" ++ String.ofList digits ++ "_id\n")

/-- No row of a node that counts has such a column. -/
def ShortColumns (rows : List Row) : Prop :=
  ∀ row, FirstRow rows row → ∀ column ∈ Entries.keys row, ¬OversizedColumn column

/-- Nothing that a story cannot hold was read, except in the cell of a mechanic. -/
def NoInvalidPart (w : Warning) : Prop :=
  ∀ kind field token, w = .token kind (.invalid field) token → kind = .mechanic

/-! ## Cells of a row -/

section

variable {id : Filled} {row : Row}

lemma trimmed_rowCell (row : Row) (column : String) : Trimmed (row.cell column) := by
  unfold Row.cell
  split
  · exact trimmed_trim _
  · exact trimmed_empty

lemma mem_cell? {row : Row} {column s : String} (h : s ∈ row.cell? column) :
    Trimmed s ∧ s ≠ "" := by
  unfold Row.cell? at h
  rw [Option.mem_def, Option.ite_none_left_eq_some, Option.some.injEq] at h
  obtain ⟨hne, rfl⟩ := h
  exact ⟨trimmed_rowCell row column, hne⟩

lemma cell?_of_empty {column : String} (h : row.cell column = "") : row.cell? column = none :=
  if_pos h

lemma cell?_of_ne {column : String} (h : row.cell column ≠ "") :
    row.cell? column = some (row.cell column) :=
  if_neg h

lemma numberOr_text {s : String} (h : Trimmed s) (fallback : Number) :
    (Scalar.text s).numberOr fallback = numberIn s fallback := by
  have htrim : Text.trimBy Text.isBlank s.toList = s.toList := trimmed_iff.mp h
  unfold Scalar.numberOr Scalar.plain numberIn
  simp only [htrim]

lemma number?_eq (row : Row) (column : String) :
    row.number? column = (row.cell? column).map fun s => numberIn s 0 :=
  Option.map_congr fun _ hs => numberOr_text (mem_cell? hs).1 0

lemma numberOr_eq (row : Row) (column : String) (fallback : Number) :
    row.numberOr column fallback = numberIn (row.cell column) fallback :=
  numberOr_text (trimmed_rowCell row column) fallback

lemma truthOr_text {s : String} (h : Trimmed s) (hne : s ≠ "") :
    (Scalar.text s).truthOr false = decide (s.toLower = "true") := by
  have htrim : Text.trim s = s := h
  unfold Scalar.truthOr Scalar.truthy Scalar.plain
  simp only [htrim, hne, ne_eq, not_false_eq_true, decide_true, if_true]
  by_cases htrue : s.toLower = "true"
  · simp [htrue]
  · simp [htrue]

@[simp] lemma value_noteFault {α : Type} (kind : TokenKind) (token : Scalar)
    (r : Except TokenFault α) : (noteFault kind token r).value = r.toOption := by
  cases r <;> rfl

lemma value_noteSegments {α : Type} (kind : TokenKind) (read : Token → Except TokenFault α)
    (cell : String) :
    (noteSegments kind read (Scalar.text cell).segments).value = readable read cell := by
  unfold noteSegments readable
  dsimp only
  rw [segments_text, List.filterMap_map]
  exact List.filterMap_congr fun s _ => value_noteFault kind _ _

/-! ## Nodes -/

@[simp] lemma value_ofSlot (nodeId : String) (row : Row) (slot : ℕ) :
    (Choice.ofSlot nodeId row slot).value = choiceIn row slot := by
  unfold Choice.ofSlot choiceIn
  cases Filled.ofText? (row.cell (choiceColumn slot "id")) with
  | none => rfl
  | some id =>
    have hmechanic : (Mechanic.parse (row.cell (choiceColumn slot "mechanic"))).value =
        (Mechanic.ofToken (.ofText (row.cell (choiceColumn slot "mechanic")))).toOption :=
      value_noteFault ..
    simp only [bind, Noted.bind, hmechanic]
    cases (Mechanic.ofToken (.ofText (row.cell (choiceColumn slot "mechanic")))).toOption with
    | none => rfl
    | some mechanic =>
      have hrequirements :
          (Requirement.parseCell (row.cell (choiceColumn slot "visibility"))).value =
            nonempty? (readable Requirement.ofToken (row.cell (choiceColumn slot "visibility"))) :=
        congrArg nonempty? (value_noteSegments ..)
      simp only [pure, Noted.pure, hrequirements, Option.bind_some]

lemma node_ofSlots_reads (hid : row.cell "id" = id.text) :
    NodeOfRow row (Node.ofSlots id row (rowSlots row)).value := by
  refine ⟨hid.symm, rfl, rfl, rfl, congrArg nonempty? (value_noteSegments ..), ?_⟩
  change nonempty? (((rowSlots row).mapM (Choice.ofSlot id.text row)).value.filterMap
    fun c => c) = _
  rw [value_mapM, List.filterMap_map]
  exact congrArg nonempty? (List.filterMap_congr fun slot _ => value_ofSlot id.text row slot)

lemma choiceName_iff {column : String} (digits tail : List Char) :
    column = "choice" ++ String.ofList digits ++ String.ofList tail ↔
      column.toList = 'c' :: 'h' :: 'o' :: 'i' :: 'c' :: 'e' :: (digits ++ tail) := by
  rw [← String.toList_inj]
  simp

lemma choiceDigits?_iff {column : String} {ds : List ℕ} : choiceDigits? column = some ds ↔
    ∃ digits : List Char, digits ≠ [] ∧ digits.map Text.digit? = ds.map some ∧
      (column = "choice" ++ String.ofList digits ++ "_id" ∨
        column = "choice" ++ String.ofList digits ++ "_id\n") := by
  constructor
  · intro h
    unfold choiceDigits? at h
    split at h
    · rename_i rest hrest
      generalize htake : takeDigits Text.digit? rest = taken at h
      obtain ⟨_ | ⟨d, ds'⟩, tail⟩ := taken
      · cases h
      · obtain ⟨digits, rfl, hdigits, -⟩ := takeDigits_iff.mp htake
        dsimp only at h
        rw [Option.ite_none_right_eq_some, Option.some.injEq] at h
        obtain ⟨htail, rfl⟩ := h
        refine ⟨digits, ?_, hdigits, ?_⟩
        · rintro rfl
          cases hdigits
        · rw [Bool.or_eq_true, decide_eq_true_eq, decide_eq_true_eq] at htail
          rcases htail with rfl | rfl
          · exact .inl ((choiceName_iff digits _).mpr hrest)
          · exact .inr ((choiceName_iff digits _).mpr hrest)
    · cases h
  · rintro ⟨digits, hne, hdigits, hend⟩
    obtain ⟨tail, htail, hlist⟩ : ∃ tail : List Char,
        (tail = ['_', 'i', 'd'] ∨ tail = ['_', 'i', 'd', '\n']) ∧
          column.toList = 'c' :: 'h' :: 'o' :: 'i' :: 'c' :: 'e' :: (digits ++ tail) :=
      hend.elim (fun h => ⟨_, .inl rfl, (choiceName_iff digits _).mp h⟩)
        fun h => ⟨_, .inr rfl, (choiceName_iff digits _).mp h⟩
    have hhead : ∀ c ∈ tail.head?, Text.digit? c = none := by
      have hbar : Text.digit? '_' = none := by decide
      rcases htail with rfl | rfl <;> simpa using hbar
    have htake := takeDigits_iff.mpr ⟨digits, rfl, hdigits, hhead⟩
    obtain ⟨d, ds', rfl⟩ : ∃ d ds', ds = d :: ds' :=
      List.exists_cons_of_ne_nil fun hnil => hne (by simpa [hnil] using hdigits)
    unfold choiceDigits?
    rw [hlist]
    simp only [htake]
    rcases htail with rfl | rfl <;> rfl

lemma shortSlots_iff : ShortSlots row ↔ ∀ column ∈ Entries.keys row, ¬OversizedColumn column := by
  refine forall₂_congr fun column _ => ?_
  constructor
  · rintro hshort ⟨digits, hlong, hdigits, hcolumn⟩
    have hne : digits ≠ [] := by
      rintro rfl
      exact Nat.not_lt_zero _ hlong
    have hvalues := map_digits_eq hdigits
    have hlength := congrArg List.length hvalues
    rw [List.length_map, List.length_map] at hlength
    have hle := hshort _ (choiceDigits?_iff.mpr ⟨digits, hne, hvalues, hcolumn⟩)
    exact absurd (hlength ▸ hle) (Nat.not_le.mpr hlong)
  · intro hshort ds hds
    obtain ⟨digits, -, hdigits, hcolumn⟩ := choiceDigits?_iff.mp hds
    have hlength := congrArg List.length hdigits
    rw [List.length_map, List.length_map] at hlength
    rw [← hlength]
    refine Nat.not_lt.mp fun hlong => hshort ⟨digits, hlong, ?_, hcolumn⟩
    exact fun c hc => isSome_of_map_digits hdigits hc

/-- A node compiles unless a choice column of its row has too long a number. -/
lemma gives_node_iff {n : Node} : Gives (Node.ofRow id row) n ↔
    ShortSlots row ∧ (Node.ofSlots id row (rowSlots row)).value = n := by
  unfold Node.ofRow
  rw [choiceSlots_eq]
  by_cases hshort : ShortSlots row
  · rw [if_pos hshort, and_iff_right hshort]
    exact gives_ofNoted_iff
  · rw [if_neg hshort]
    exact iff_of_false nofun fun h => hshort h.1

lemma exists_gives_node : (∃ n, Gives (Node.ofRow id row) n) ↔ ShortSlots row := by
  simp only [gives_node_iff, exists_and_left, exists_eq', and_true]

/-! ## Items -/

lemma gives_parse_iff {s : String} {effect : Option Action} :
    Gives (Compiling.ofChecked (Action.parse s)) effect ↔
      (¬∃ field, Action.ofToken (.ofText s) = .error (.invalid field)) ∧
        (Action.ofToken (.ofText s)).toOption = effect := by
  unfold Action.parse
  split
  · rename_i field hfield
    constructor
    · intro h
      have hstop : (Except.error (.refused [⟨[field], .malformed⟩]) :
        Except Halt (Option Action)) = .ok effect := h
      simp at hstop
    · rintro ⟨hvalid, -⟩
      exact absurd ⟨field, hfield⟩ hvalid
  · rename_i hvalid
    change Gives (Compiling.ofNoted _) effect ↔ _
    rw [gives_ofNoted_iff, value_noteFault]
    exact (and_iff_right fun ⟨field, hfield⟩ => hvalid field hfield).symm

lemma not_barInEffect_of_empty (h : row.cell "effect" = "") : ¬BarInEffect row := by
  unfold BarInEffect
  rw [h]
  decide

/-- An item compiles unless its effect holds a bar; an effect that does not read is left out. -/
lemma gives_item_iff {i : Item} : Gives (Item.ofRow id row) i ↔ ¬BarInEffect row ∧
    { id := id
      name := (row.cell? "name").getD id.text
      type := row.cell "type"
      damage := row.cell? "damage"
      attackBonus := row.number? "attackBonus"
      armorBonus := row.number? "acBonus"
      effect := (row.cell? "effect").bind fun s => (Action.ofToken (.ofText s)).toOption
      scalingAttribute := row.cell? "scalingAttribute"
      areaOfEffect := (row.cell? "aoe").map fun s => (Scalar.text s).truthOr false } = i := by
  unfold Item.ofRow
  by_cases hempty : row.cell "effect" = ""
  · simp only [cell?_of_empty hempty, Option.bind_none]
    rw [and_iff_right (not_barInEffect_of_empty hempty), gives_bind_iff]
    constructor
    · rintro ⟨effect, heffect, h⟩
      rw [← gives_pure heffect] at h
      exact gives_pure h
    · rintro rfl
      exact ⟨none, rfl, rfl⟩
  · simp only [cell?_of_ne hempty, Option.bind_some]
    rw [gives_bind_iff, BarInEffect, ← action_invalid_iff_bar]
    constructor
    · rintro ⟨effect, heffect, h⟩
      obtain ⟨hvalid, rfl⟩ := gives_parse_iff.mp heffect
      exact ⟨hvalid, gives_pure h⟩
    · rintro ⟨hvalid, rfl⟩
      exact ⟨_, gives_parse_iff.mpr ⟨hvalid, rfl⟩, rfl⟩

lemma exists_gives_item : (∃ i, Gives (Item.ofRow id row) i) ↔ ¬BarInEffect row := by
  simp only [gives_item_iff, exists_and_left, exists_eq', and_true]

lemma item_of_gives {i : Item} (hid : row.cell "id" = id.text)
    (h : Gives (Item.ofRow id row) i) : ItemOfRow row i := by
  obtain ⟨-, rfl⟩ := gives_item_iff.mp h
  refine ⟨hid.symm, by rw [hid], rfl, rfl, number?_eq row _, number?_eq row _, rfl, rfl, ?_⟩
  exact Option.map_congr fun s hs => truthOr_text (mem_cell? hs).1 (mem_cell? hs).2

/-! ## Enemies and encounters -/

lemma enemy_ofRow_reads (hid : row.cell "id" = id.text) : EnemyOfRow row (Enemy.ofRow id row) := by
  constructor <;> dsimp only [Enemy.ofRow]
  case id => exact hid.symm
  case name => rw [hid]
  case hp => exact numberOr_eq row "hp" 1
  case armor => exact numberOr_eq row "ac" 10
  case attackBonus => exact numberOr_eq row "attackBonus" 0
  case reward => exact numberOr_eq row "xpReward" 0
  case damage =>
    unfold Filled.orElse Filled.ofText?
    by_cases h : row.cell "damage" = ""
    · simp only [dif_pos h, cell?_of_empty h, Option.getD_none]
    · simp only [dif_neg h, cell?_of_ne h, Option.getD_some]

lemma spawns_of_segments {cell : String} {l : List String}
    (h : ∀ s ∈ l, s ∈ Text.barSegments cell) :
    List.Forall₂ SpawnOfToken ((l.map Token.ofText).filter fun t => t.name ≠ "")
      (l.filterMap fun s => Spawn.ofToken? (.ofText s)) := by
  induction l with
  | nil => exact .nil
  | cons s l ih =>
    have htail := ih fun s' hs' => h s' (List.mem_cons_of_mem _ hs')
    rw [List.map_cons]
    by_cases hname : (Token.ofText s).name = ""
    · rw [List.filter_cons_of_neg (by simp [hname])]
      simp only [List.filterMap_cons, spawn_of_unnamed hname]
      exact htail
    · obtain ⟨enemyId, henemy, hspawn⟩ := spawn_of_named (h s List.mem_cons_self) hname
      rw [List.filter_cons_of_pos (by simp [hname])]
      simp only [List.filterMap_cons, hspawn]
      refine .cons ⟨henemy, ?_⟩ htail
      dsimp only
      exact numberOr_text (tokenPart_argument s 0).1 1

lemma encounter_ofRow_reads (hid : row.cell "id" = id.text) :
    EncounterOfRow row (Encounter.ofRow id row) := by
  refine ⟨hid.symm, rfl, ?_, rfl, rfl⟩
  change List.Forall₂ SpawnOfToken _ (Spawn.parseCell (row.cell "enemies"))
  unfold Spawn.parseCell
  rw [segments_text]
  exact spawns_of_segments fun _ hs => hs

end

/-! ## Warnings -/

/-- The property holds of whatever the cells of a row are warned of. -/
structure AllowsCells (P : Warning → Prop) : Prop where
  token : ∀ kind fault token, (kind = .mechanic ∨ ∀ field, fault ≠ .invalid field) →
    P (.token kind fault token)
  droppedChoice : ∀ node slot choice, P (.droppedChoice node slot choice)

lemma allows_noInvalidPart : AllowsCells NoInvalidPart where
  token kind fault token h kind' field token' heq := by
    simp only [Warning.token.injEq] at heq
    obtain ⟨rfl, rfl, -⟩ := heq
    rcases h with h | h
    · exact h
    · exact absurd rfl (h field)
  droppedChoice _ _ _ _ _ _ h := Warning.noConfusion h

section

variable {α : Type} {P : Warning → Prop}

lemma notes_noteFault (hP : AllowsCells P) {kind : TokenKind} {token : Scalar}
    {r : Except TokenFault α} (h : kind = .mechanic ∨ ∀ field, r ≠ .error (.invalid field)) :
    Notes P (noteFault kind token r) := by
  intro w hw
  cases r with
  | ok a => exact absurd hw List.not_mem_nil
  | error fault =>
    rw [List.mem_singleton.mp hw]
    refine hP.token kind fault token ?_
    rcases h with h | h
    · exact .inl h
    · exact .inr fun field hfault => h field (congrArg Except.error hfault)

lemma notes_noteSegments (hP : AllowsCells P) {kind : TokenKind}
    {read : Token → Except TokenFault α} {cell : String}
    (h : ∀ s ∈ Text.barSegments cell, ∀ field, read (.ofText s) ≠ .error (.invalid field)) :
    Notes P (noteSegments kind read (Scalar.text cell).segments) := by
  unfold noteSegments
  rw [segments_text]
  intro w hw
  obtain ⟨note, hnote, hw⟩ := List.mem_flatMap.mp hw
  obtain ⟨s, hs, rfl⟩ := List.mem_map.mp hnote
  exact notes_noteFault hP (.inr (h s hs)) w hw

lemma notes_ofSlot (hP : AllowsCells P) (nodeId : String) (row : Row) (slot : ℕ) :
    Notes P (Choice.ofSlot nodeId row slot) := by
  unfold Choice.ofSlot
  split
  · exact notes_pure _
  · refine notes_bind (notes_noteFault hP (.inl rfl)) ?_
    split
    · exact notes_bind (notes_warn (hP.droppedChoice _ _ _)) (notes_pure _)
    · refine notes_bind ?_ (notes_pure _)
      exact notes_noteSegments hP fun s hs field => requirement_ne_invalid hs field

lemma notes_nodeOfSlots (hP : AllowsCells P) (id : Filled) (row : Row) (slots : List ℕ) :
    Notes P (Node.ofSlots id row slots) := by
  refine notes_bind (notes_mapM (fun slot => notes_ofSlot hP id.text row slot) _) ?_
  refine notes_bind ?_ (notes_pure _)
  exact notes_noteSegments hP fun s hs field => action_ne_invalid hs field

lemma warns_nodeOfRow (hP : AllowsCells P) (id : Filled) (row : Row) :
    Warns P (Node.ofRow id row) := by
  unfold Node.ofRow
  cases row.choiceSlots with
  | ok slots => exact warns_ofNoted (notes_nodeOfSlots hP id row slots)
  | error _ => exact notes_pure _

lemma warns_itemOfRow (hP : AllowsCells P) (id : Filled) (row : Row) :
    Warns P (Item.ofRow id row) := by
  have heffect : ∀ s : String,
      Warns P (Compiling.ofChecked (Action.parse (Scalar.text s))) := by
    intro s
    unfold Action.parse
    split
    · exact notes_pure _
    · rename_i hvalid
      exact warns_ofNoted (notes_noteFault hP (.inr hvalid))
  unfold Item.ofRow
  dsimp only
  split
  · exact warns_bind (warns_pure _) fun effect => warns_pure _
  · exact warns_bind (heffect _) fun effect => warns_pure _

lemma warns_compileRows {kind : EntityKind} {compile : Filled → Row → Compiling α}
    (h : ∀ id row, Warns NoInvalidPart (compile id row)) (rows : List Row) :
    Warns NoInvalidPart (compileRows kind compile rows) := by
  refine warns_bind (warns_mapM ?_ _) fun entities => warns_pure _
  rintro ⟨standing, row⟩
  cases standing with
  | unidentified =>
    exact warns_bind (warns_ofNoted (notes_warn fun _ _ _ h => Warning.noConfusion h))
      fun _ => warns_pure _
  | repeated id =>
    exact warns_bind (warns_ofNoted (notes_warn fun _ _ _ h => Warning.noConfusion h))
      fun _ => warns_pure _
  | first id =>
    change Warns NoInvalidPart (some <$> compile id row)
    rw [← bind_pure_comp]
    exact warns_bind (h id row) fun x => warns_pure _

lemma warns_compile (t : Tables) : Warns NoInvalidPart t.compile := by
  refine warns_bind (warns_compileRows (warns_nodeOfRow allows_noInvalidPart) _) fun nodes => ?_
  refine warns_bind (warns_compileRows (warns_itemOfRow allows_noInvalidPart) _) fun items => ?_
  refine warns_bind (warns_compileRows (fun _ _ => warns_pure _) _) fun enemies => ?_
  exact warns_bind (warns_compileRows (fun _ _ => warns_pure _) _) fun encounters => warns_pure _

end

/-! ## Tables -/

lemma gives_compile_iff {t : Tables} {s : Story} : Gives t.compile s ↔
    ∃ nodes items enemies encounters,
      Gives (compileRows .node Node.ofRow t.nodes) nodes ∧
      Gives (compileRows .item Item.ofRow t.items) items ∧
      Gives (compileRows .enemy (fun id row => pure (Enemy.ofRow id row)) t.enemies) enemies ∧
      Gives (compileRows .encounter (fun id row => pure (Encounter.ofRow id row)) t.encounters)
        encounters ∧
      ⟨.ofList nodes, .ofList items, .ofList enemies, .ofList encounters⟩ = s := by
  unfold Tables.compile
  simp only [gives_bind_iff, gives_pure_iff, exists_and_left]

lemma exists_gives_rows {α : Type} {kind : EntityKind} {compile : Filled → Row → Compiling α}
    {rows : List Row} {P : Row → Prop} (h : ∀ id row, (∃ x, Gives (compile id row) x) ↔ P row) :
    (∃ xs, Gives (compileRows kind compile rows) xs) ↔ ∀ row, FirstRow rows row → P row := by
  rw [exists_gives_compileRows]
  constructor
  · intro hrows row hrow
    obtain ⟨id, hmem⟩ := mem_firstRows_of_firstRow hrow
    exact (h id row).mp (hrows _ hmem)
  · rintro hrows ⟨id, row⟩ hmem
    exact (h id row).mpr (hrows row (firstRow_of_mem hmem).2)

lemma shortColumns_iff {rows : List Row} :
    ShortColumns rows ↔ ∀ row, FirstRow rows row → ShortSlots row :=
  forall₂_congr fun _ _ => shortSlots_iff.symm

lemma exists_gives_nodes {rows : List Row} :
    (∃ nodes, Gives (compileRows .node Node.ofRow rows) nodes) ↔ ShortColumns rows := by
  rw [shortColumns_iff]
  exact exists_gives_rows fun _ _ => exists_gives_node

lemma exists_gives_compile {t : Tables} : (∃ s, Gives t.compile s) ↔
    ShortColumns t.nodes ∧ ∀ row, FirstRow t.items row → ¬BarInEffect row := by
  have hitems : (∃ items, Gives (compileRows .item Item.ofRow t.items) items) ↔
      ∀ row, FirstRow t.items row → ¬BarInEffect row :=
    exists_gives_rows fun _ _ => exists_gives_item
  rw [← exists_gives_nodes, ← hitems]
  constructor
  · rintro ⟨s, hs⟩
    obtain ⟨nodes, items, _, _, hnodes, hitems, _⟩ := gives_compile_iff.mp hs
    exact ⟨⟨nodes, hnodes⟩, items, hitems⟩
  · rintro ⟨⟨nodes, hnodes⟩, items, hitems⟩
    have henemies : ∃ enemies, Gives (compileRows .enemy
        (fun id row => pure (Enemy.ofRow id row)) t.enemies) enemies :=
      exists_gives_compileRows.mpr fun r _ => ⟨_, gives_pure_iff.mpr rfl⟩
    have hencounters : ∃ encounters, Gives (compileRows .encounter
        (fun id row => pure (Encounter.ofRow id row)) t.encounters) encounters :=
      exists_gives_compileRows.mpr fun r _ => ⟨_, gives_pure_iff.mpr rfl⟩
    obtain ⟨enemies, henemies⟩ := henemies
    obtain ⟨encounters, hencounters⟩ := hencounters
    exact ⟨_, gives_compile_iff.mpr
      ⟨nodes, items, enemies, encounters, hnodes, hitems, henemies, hencounters, rfl⟩⟩

section

variable {id : Filled} {row : Row}

lemma key_node {n : Node} (h : Gives (Node.ofRow id row) n) : Keyed.key n = id.text := by
  rw [← (gives_node_iff.mp h).2]
  rfl

lemma key_item {i : Item} (h : Gives (Item.ofRow id row) i) : Keyed.key i = id.text := by
  rw [← (gives_item_iff.mp h).2]
  rfl

lemma key_enemy {e : Enemy} (h : Gives (pure (Enemy.ofRow id row)) e) : Keyed.key e = id.text := by
  rw [← gives_pure h]
  rfl

lemma key_encounter {e : Encounter} (h : Gives (pure (Encounter.ofRow id row)) e) :
    Keyed.key e = id.text := by
  rw [← gives_pure h]
  rfl

end

lemma storyOfTables_of_gives {t : Tables} {s : Story} (h : Gives t.compile s) :
    StoryOfTables t s := by
  obtain ⟨nodes, items, enemies, encounters, hnodes, hitems, henemies, hencounters, rfl⟩ :=
    gives_compile_iff.mp h
  constructor
  · refine rowByRow_of_compileRows hnodes (fun _ _ _ => key_node) fun id row n hid hn => ?_
    rw [← (gives_node_iff.mp hn).2]
    exact node_ofSlots_reads hid
  · exact rowByRow_of_compileRows hitems (fun _ _ _ => key_item) fun _ _ _ => item_of_gives
  · refine rowByRow_of_compileRows henemies (fun _ _ _ => key_enemy) fun id row e hid he => ?_
    rw [← gives_pure he]
    exact enemy_ofRow_reads hid
  · refine rowByRow_of_compileRows hencounters (fun _ _ _ => key_encounter) ?_
    intro id row e hid he
    rw [← gives_pure he]
    exact encounter_ofRow_reads hid

/-- Compilation takes the tables row by row. It stops exactly if the first row of a node has a
choice column with too long a number, or the first row of an item an effect with a bar in its
argument. Otherwise each id gets the entity of its first row, whatever else is wrong in this or
another row. -/
theorem compile_rowByRow (t : Tables) :
    ((∃ s, Gives t.compile s) ↔
      ShortColumns t.nodes ∧ ∀ row, FirstRow t.items row → ¬BarInEffect row) ∧
    (∀ s, Gives t.compile s → StoryOfTables t s) ∧
    ∀ w ∈ t.compile.run.warnings, NoInvalidPart w :=
  ⟨exists_gives_compile, fun _ h => storyOfTables_of_gives h, warns_compile t⟩

/-- A wick whose effect holds a bar, in a table with a rope. -/
def wickTables : Tables :=
  ⟨[], [[("id", some "wick"), ("type", some "tool"), ("effect", some "set_flag:lit|on")],
    [("id", some "rope"), ("type", some "tool")]], [], []⟩

/-- A choice column whose number has 4301 digits. -/
def longColumn : String := "choice" ++ String.ofList (List.replicate 4301 '1') ++ "_id"

/-- A door with blank cells in further columns. -/
def doorRow (columns : List String) : Row :=
  [("id", some "door"), ("type", some "ending")] ++ columns.map fun column => (column, some "")

lemma oversized_longColumn : OversizedColumn longColumn := by
  refine ⟨List.replicate 4301 '1', ?_, fun c hc => ?_, .inl rfl⟩
  · rw [List.length_replicate]
    decide
  · rw [List.eq_of_mem_replicate hc]
    decide

lemma not_shortColumns_doorRow : ¬ShortColumns [doorRow [longColumn]] := by
  intro h
  have hid : (doorRow [longColumn]).cell "id" = "door" := by decide
  have hfirst : FirstRow [doorRow [longColumn]] (doorRow [longColumn]) :=
    ⟨by rw [hid]; decide, List.find?_cons_of_pos (by simp)⟩
  exact h _ hfirst longColumn (.tail _ (.tail _ (.head _))) oversized_longColumn

/-- One effect with a bar takes the whole story down, and so does one such column. -/
theorem wickTables_stop :
    (¬∃ s, Gives wickTables.compile s) ∧
      ¬∃ s, Gives (Tables.mk [doorRow [longColumn]] [] [] []).compile s := by
  rw [exists_gives_compile, exists_gives_compile]
  constructor
  · rintro ⟨-, h⟩
    refine h _ ⟨?_, List.find?_cons_of_pos ?_⟩ ⟨?_, ?_⟩
    all_goals decide
  · exact fun h => not_shortColumns_doorRow h.1

end Gamebook.Proofs
