import Gamebook.Proofs.CellRoundTrip
import Gamebook.Proofs.RowAccount

/-!
# Choice groups

The choices of a node are made from groups of columns that are numbered. A group is looked for under
the numeral of its number, and no group that is written so is lost: it gives one choice, or a
warning tells that its choice was dropped. A number can be spelled otherwise; a group with such a
number is found by its id column and then looked for elsewhere.
-/

namespace Gamebook.Proofs

/-! ## Groups -/

/-- A column of the group whose number is spelled with some digits. -/
def groupColumn (digits field : String) : String := "choice" ++ digits ++ "_" ++ field

/-- The mechanic of a group, if its cell parses. -/
def groupMechanic? (row : Row) (digits : String) : Option Mechanic :=
  (Mechanic.parse (row.cell (groupColumn digits "mechanic"))).value

/-- The choice is made from a group. -/
structure MadeFrom (row : Row) (digits : String) (c : Choice) : Prop where
  id : c.id.text = row.cell (groupColumn digits "id")
  label : c.label = row.cell (groupColumn digits "label")
  requirements : c.requirements =
    (Requirement.parseCell (row.cell (groupColumn digits "visibility"))).value
  mechanic : groupMechanic? row digits = some c.mechanic

/-- The group has an id and a mechanic. -/
def Complete (row : Row) (digits : String) : Prop :=
  row.cell (groupColumn digits "id") ≠ "" ∧ (groupMechanic? row digits).isSome = true

/-- A group with an id is kept: the node has a choice from it if its mechanic parses, or else a
warning tells that the choice was dropped. -/
def GroupKept (row : Row) (n : Node) (warnings : List Warning) (digits : String) (slot : ℕ) :
    Prop :=
  row.cell (groupColumn digits "id") ≠ "" →
    if (groupMechanic? row digits).isSome then ∃ c ∈ n.choiceList, MadeFrom row digits c
    else .droppedChoice n.id.text slot (row.cell (groupColumn digits "id")) ∈ warnings

/-- The node has the choices of the groups of a row in the order of their numbers and no others, and
every group is kept. -/
structure ChoicesOf (row : Row) (n : Node) (warnings : List Warning) : Prop where
  choices : ∃ slots : List ℕ, slots.Pairwise (· < ·) ∧
    List.Forall₂ (fun slot c => MadeFrom row (natText slot) c) slots n.choiceList ∧
    ∀ slot, slot ∈ slots ↔ Complete row (natText slot)
  kept : ∀ digits slot, choiceSlot? (groupColumn digits "id") = some slot →
    digits = natText slot → GroupKept row n warnings digits slot

/-! ## Slots -/

section

variable {row : Row} {slot : ℕ}

lemma mem_keys_of_cell {column : String} (h : row.cell column ≠ "") :
    column ∈ Entries.keys row := by
  by_contra hmem
  have hnone : Entries.get? column row = none := by
    refine List.lookup_eq_none_iff.mpr fun entry hentry => ?_
    have hne : column ≠ entry.1 := fun heq => hmem (heq ▸ List.mem_map_of_mem hentry)
    simpa using hne
  exact h (by rw [Row.cell, hnone])

lemma mem_rowSlots : slot ∈ rowSlots row ↔
    ∃ column ∈ Entries.keys row, choiceSlot? column = some slot := by
  unfold rowSlots
  rw [(List.mergeSort_perm _ _).mem_iff, List.mem_eraseDups, List.mem_filterMap]

lemma mem_rowSlots_of_cell (h : row.cell (groupColumn (natText slot) "id") ≠ "") :
    slot ∈ rowSlots row :=
  mem_rowSlots.mpr ⟨_, mem_keys_of_cell h, choiceSlot?_choiceColumn slot (by decide)⟩

lemma nodup_eraseDups (slots : List ℕ) : slots.eraseDups.Nodup := by
  -- On the length: what follows the first number is filtered before it goes on.
  induction hn : slots.length using Nat.strong_induction_on generalizing slots with
  | _ n ih =>
    cases slots with
    | nil => exact List.nodup_nil
    | cons slot slots =>
      have hlt : (slots.filter fun other => !other == slot).length < n :=
        hn ▸ Nat.lt_succ_of_le (List.length_filter_le _ _)
      rw [List.eraseDups_cons, List.nodup_cons]
      refine ⟨fun hmem => ?_, ih _ hlt _ rfl⟩
      simp [List.mem_eraseDups] at hmem

lemma pairwise_rowSlots (row : Row) : (rowSlots row).Pairwise (· < ·) := by
  have hsorted : (rowSlots row).Pairwise fun a b => decide (a ≤ b) = true := by
    apply List.pairwise_mergeSort
    · intro a b c hab hbc
      exact decide_eq_true (Nat.le_trans (of_decide_eq_true hab) (of_decide_eq_true hbc))
    · intro a b
      simpa using Nat.le_total a b
  have hnodup : (rowSlots row).Nodup :=
    (List.mergeSort_perm _ _).nodup_iff.mpr (nodup_eraseDups _)
  exact (hsorted.and hnodup).imp fun h => Nat.lt_of_le_of_ne (of_decide_eq_true h.1) h.2

lemma groupMechanic?_eq (row : Row) (digits : String) : groupMechanic? row digits =
    (Mechanic.ofToken (.ofText (row.cell (groupColumn digits "mechanic")))).toOption :=
  value_noteFault ..

lemma requirements_eq (row : Row) (digits : String) :
    (Requirement.parseCell (row.cell (groupColumn digits "visibility"))).value =
      nonempty? (readable Requirement.ofToken (row.cell (groupColumn digits "visibility"))) :=
  congrArg nonempty? (value_noteSegments ..)

lemma choiceIn_iff {c : Choice} : choiceIn row slot = some c ↔ MadeFrom row (natText slot) c := by
  unfold choiceIn
  simp only [Option.bind_eq_bind, Option.bind_eq_some_iff]
  constructor
  · rintro ⟨id, hid, mechanic, hmechanic, hc⟩
    obtain rfl := Option.some.inj hc
    exact ⟨text_of_ofText? hid, rfl, (requirements_eq row _).symm,
      (groupMechanic?_eq row _).trans hmechanic⟩
  · intro h
    refine ⟨c.id, ?_, c.mechanic, (groupMechanic?_eq row _).symm.trans h.mechanic, ?_⟩
    · exact (congrArg Filled.ofText? h.id.symm).trans (ofText?_filled c.id)
    · refine congrArg some ?_
      obtain ⟨id, label, requirements, mechanic⟩ := c
      have hlabel := h.label
      have hrequirements := h.requirements.trans (requirements_eq row _)
      subst hlabel hrequirements
      rfl

lemma isSome_choiceIn : (choiceIn row slot).isSome = true ↔ Complete row (natText slot) := by
  rw [Option.isSome_iff_exists]
  constructor
  · rintro ⟨c, hc⟩
    have hmade := choiceIn_iff.mp hc
    exact ⟨hmade.id ▸ c.id.filled, Option.isSome_iff_exists.mpr ⟨_, hmade.mechanic⟩⟩
  · rintro ⟨hid, hmechanic⟩
    obtain ⟨mechanic, hmechanic⟩ := Option.isSome_iff_exists.mp hmechanic
    have hmade : MadeFrom row (natText slot) ⟨⟨_, hid⟩, _, _, mechanic⟩ :=
      ⟨rfl, rfl, rfl, hmechanic⟩
    exact ⟨_, choiceIn_iff.mpr hmade⟩

end

/-! ## Choices of a node -/

lemma forall₂_filterMap {α β : Type} {R : α → β → Prop} {f : α → Option β}
    (h : ∀ a b, f a = some b → R a b) (l : List α) :
    List.Forall₂ R (l.filter fun a => (f a).isSome) (l.filterMap f) := by
  induction l with
  | nil => exact .nil
  | cons a l ih =>
    cases ha : f a with
    | none => simpa [ha] using ih
    | some b => simpa [ha] using And.intro (h a b ha) ih

section

variable {row : Row} {n : Node} {warnings : List Warning}

lemma choiceList_of_reads (h : NodeOfRow row n) :
    n.choiceList = (rowSlots row).filterMap (choiceIn row) := by
  unfold Node.choiceList
  rw [h.choices]
  exact getD_nonempty? _

lemma choices_of_reads (h : NodeOfRow row n) : ∃ slots : List ℕ, slots.Pairwise (· < ·) ∧
    List.Forall₂ (fun slot c => MadeFrom row (natText slot) c) slots n.choiceList ∧
    ∀ slot, slot ∈ slots ↔ Complete row (natText slot) := by
  refine ⟨(rowSlots row).filter fun slot => (choiceIn row slot).isSome,
    (pairwise_rowSlots row).filter _, ?_, fun slot => ?_⟩
  · rw [choiceList_of_reads h]
    exact forall₂_filterMap (fun slot c => choiceIn_iff.mp) _
  · rw [List.mem_filter, isSome_choiceIn]
    exact and_iff_right_of_imp fun hcomplete => mem_rowSlots_of_cell hcomplete.1

end

/-! ## Warnings -/

section

variable {α β : Type}

lemma warnings_noted_mapM (f : α → Noted β) (l : List α) :
    (l.mapM f).warnings = l.flatMap fun a => (f a).warnings := by
  induction l with
  | nil => rfl
  | cons a l ih =>
    rw [List.mapM_cons, List.flatMap_cons, ← ih]
    exact congrArg ((f a).warnings ++ ·) (List.append_nil _)

lemma warnings_row {kind : EntityKind} {compile : Filled → Row → Compiling α} {rows : List Row}
    {xs : List α} (h : Gives (compileRows kind compile rows) xs) {id : Filled} {row : Row}
    (hrow : (id, row) ∈ firstRows [] rows) :
    (compile id row).run.warnings ⊆ (compileRows kind compile rows).run.warnings := by
  obtain ⟨⟨standing, r⟩, hmem, hfirst⟩ := List.mem_filterMap.mp hrow
  obtain ⟨rfl, rfl⟩ : standing = .first id ∧ r = row := by
    cases standing <;> simp_all [firstRow?]
  unfold compileRows at h ⊢
  obtain ⟨os, hos, -⟩ := gives_bind h
  have hstanding : (compileStanding kind compile (.first id, r)).run.warnings =
      (compile id r).run.warnings := warnings_map _ _
  intro w hw
  rw [warnings_bind hos, warnings_mapM hos]
  exact List.mem_append_left _ (List.mem_flatMap.mpr ⟨_, hmem, hstanding ▸ hw⟩)

end

section

variable {row : Row} {id : Filled} {slot : ℕ}

lemma dropped_of_row (hid : row.cell (groupColumn (natText slot) "id") ≠ "")
    (hmechanic : groupMechanic? row (natText slot) = none) :
    .droppedChoice id.text slot (row.cell (groupColumn (natText slot) "id")) ∈
      (Node.ofSlots id row (rowSlots row)).warnings := by
  have hwarned : .droppedChoice id.text slot (row.cell (groupColumn (natText slot) "id")) ∈
      (Choice.ofSlot id.text row slot).warnings := by
    have hfilled : Filled.ofText? (row.cell (choiceColumn slot "id")) =
        some ⟨row.cell (groupColumn (natText slot) "id"), hid⟩ := dif_neg hid
    unfold Choice.ofSlot
    rw [hfilled]
    dsimp only
    have hparse : (Mechanic.parse (row.cell (choiceColumn slot "mechanic"))).value = none :=
      hmechanic
    refine List.mem_append_right _ ?_
    rw [hparse]
    exact List.mem_cons_self
  refine List.mem_append_left _ ?_
  rw [warnings_noted_mapM]
  exact List.mem_flatMap.mpr ⟨slot, mem_rowSlots_of_cell hid, hwarned⟩

end

lemma warnings_nodeOfRow {row : Row} (h : ShortSlots row) (id : Filled) :
    (Node.ofRow id row).run.warnings = (Node.ofSlots id row (rowSlots row)).warnings := by
  unfold Node.ofRow
  rw [choiceSlots_eq, if_pos h]
  exact List.append_nil _

def nodeTable (rows : List Row) : Compiling (List Node) := compileRows .node Node.ofRow rows

/-- The node of a row that compiles has the choices of its groups. -/
lemma choicesOf_row {rows : List Row} {nodes : List Node} (h : Gives (nodeTable rows) nodes)
    {id : Filled} {row : Row} {n : Node} (hrow : (id, row) ∈ firstRows [] rows)
    (hn : Gives (Node.ofRow id row) n) : ChoicesOf row n (nodeTable rows).run.warnings := by
  obtain ⟨hshort, rfl⟩ := gives_node_iff.mp hn
  have hreads := node_ofSlots_reads (firstRow_of_mem hrow).1
  refine ⟨choices_of_reads hreads, ?_⟩
  rintro _ slot - rfl hid
  split
  · rename_i hmechanic
    obtain ⟨c, hc⟩ := Option.isSome_iff_exists.mp (isSome_choiceIn.mpr ⟨hid, hmechanic⟩)
    refine ⟨c, ?_, choiceIn_iff.mp hc⟩
    rw [choiceList_of_reads hreads]
    exact List.mem_filterMap.mpr ⟨slot, mem_rowSlots_of_cell hid, hc⟩
  · rename_i hmechanic
    refine warnings_row h hrow ?_
    rw [warnings_nodeOfRow hshort]
    exact dropped_of_row hid (by simpa using hmechanic)

/-- Rows compile if no column of a row that counts has too long a number. Every such row then gives
a node with the choices of its groups. A group is not lost as long as its number is spelled as a
numeral usually is. -/
theorem choiceGroups_kept (rows : List Row) :
    ((∃ nodes, Gives (nodeTable rows) nodes) ↔ ShortColumns rows) ∧
    ∀ nodes, Gives (nodeTable rows) nodes →
      List.Forall₂ (fun r n => n.id = r.1 ∧ ChoicesOf r.2 n (nodeTable rows).run.warnings)
        (firstRows [] rows) nodes := by
  refine ⟨exists_gives_nodes, fun nodes h => ?_⟩
  refine forall₂_of_mem (gives_compileRows_iff.mp h) fun r hr n _ hn => ?_
  refine ⟨?_, choicesOf_row h hr hn⟩
  rw [← (gives_node_iff.mp hn).2]
  rfl

/-- A row with one group, whose number has a leading zero. -/
def paddedRow : Row :=
  [("id", some "gate"), ("type", some "narrative"), ("text", some "A gate"),
    ("choice01_id", some "go"), ("choice01_label", some "Go on"),
    ("choice01_mechanic", some "navigate:gate")]

/-- The node of the row, without a choice. -/
def gateNode : Node where
  id := ⟨"gate", by decide⟩
  type := "narrative"
  text := "A gate"
  image := none
  onEnter := none
  choices := none

lemma nodeTable_paddedRow : (nodeTable [paddedRow]).run = ⟨.ok [gateNode], []⟩ := by
  have hslots : paddedRow.choiceSlots = .ok [1] := by
    have hfound : (Entries.keys paddedRow).filterMap choiceSlot? = [1] := by decide
    have hshort : ShortSlots paddedRow := by decide
    rw [choiceSlots_eq, if_pos hshort, rowSlots, hfound]
    exact congrArg Except.ok (List.mergeSort_singleton 1)
  have hnode : Node.ofRow gateNode.id paddedRow = pure gateNode := by
    unfold Node.ofRow
    rw [hslots]
    rfl
  have hstandings : standings [] [paddedRow] = [(.first gateNode.id, paddedRow)] := rfl
  unfold nodeTable compileRows
  rw [hstandings, List.mapM_cons, compileStanding, hnode]
  rfl

/-- A group whose number is spelled with a leading zero is found, but neither is there a choice from
it, nor is there a warning. -/
theorem paddedGroup_lost :
    Gives (nodeTable [paddedRow]) [gateNode] ∧ (nodeTable [paddedRow]).run.warnings = [] ∧
    groupColumn "01" "id" ∈ Entries.keys paddedRow ∧
    choiceSlot? (groupColumn "01" "id") = some 1 ∧
    (groupMechanic? paddedRow "01").isSome = true ∧
    ¬GroupKept paddedRow gateNode (nodeTable [paddedRow]).run.warnings "01" 1 := by
  have hmechanic : (groupMechanic? paddedRow "01").isSome = true := by decide
  refine ⟨congrArg Noted.value nodeTable_paddedRow, congrArg Noted.warnings nodeTable_paddedRow,
    by decide, by decide, hmechanic, fun h => ?_⟩
  have hmade := h (by decide)
  rw [if_pos hmechanic] at hmade
  obtain ⟨c, hc, -⟩ := hmade
  exact absurd hc List.not_mem_nil

end Gamebook.Proofs
