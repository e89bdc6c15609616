import Gamebook.Table.Compile
import Gamebook.Table.Rows
import Gamebook.Proofs.TokenRoundTrip
import Mathlib.Data.List.Sort

/-!
# Columns of tables

The columns of every table are distinct, the slots of the node table are found again in the
names of its columns, and a cell is found under its column.
-/

namespace Gamebook.Proofs

/-- The fields of a choice slot. -/
def slotFields : List String := ["id", "label", "visibility", "mechanic"]

lemma slotColumns_eq (n count : ℕ) :
    slotColumns n count =
      (List.range count).flatMap fun i => slotFields.map (choiceColumn (n + i + 1)) := rfl

lemma slotColumns_succ (n count : ℕ) :
    slotColumns n (count + 1) =
      slotFields.map (choiceColumn (n + 1)) ++ slotColumns (n + 1) count := by
  rw [slotColumns_eq, slotColumns_eq, List.range_succ_eq_map, List.flatMap_cons, List.flatMap_map]
  congr 2
  funext i
  congr 2
  omega

lemma choiceColumn_toList (slot : ℕ) (field : String) :
    (choiceColumn slot field).toList =
      ['c', 'h', 'o', 'i', 'c', 'e'] ++ (decimalDigits slot ++ '_' :: field.toList) := by
  simp [choiceColumn, natText]

lemma takeDigits_slot (slot : ℕ) (cs : List Char) :
    takeDigits Text.digit? (decimalDigits slot ++ '_' :: cs) =
      ((decimalDigits slot).map fun c => c.toNat - 48, '_' :: cs) :=
  takeDigits_append (digitChars_decimalDigits slot) (by
    intro c hc
    rw [List.head?_cons, Option.mem_some_iff] at hc
    subst hc
    decide)

lemma ofDigits_slot (slot : ℕ) :
    Text.ofDigits ((decimalDigits slot).map fun c => c.toNat - 48) = slot := by
  rw [ofDigits_map, digitsValue_decimalDigits]

lemma choiceColumn_injective {a b : ℕ} {f g : String} (h : choiceColumn a f = choiceColumn b g) :
    a = b ∧ f = g := by
  have hlist := congrArg String.toList h
  rw [choiceColumn_toList, choiceColumn_toList, List.append_cancel_left_eq] at hlist
  have htake := congrArg (takeDigits Text.digit?) hlist
  rw [takeDigits_slot, takeDigits_slot, Prod.mk.injEq] at htake
  obtain ⟨hdigits, htail⟩ := htake
  refine ⟨?_, ?_⟩
  · rw [← ofDigits_slot a, hdigits, ofDigits_slot]
  · rw [← String.toList_inj]
    simpa using htail

lemma choiceDigits?_choiceColumn (slot : ℕ) {field : String} (h : field ∈ slotFields) :
    choiceDigits? (choiceColumn slot field) =
      if field = "id" then some ((decimalDigits slot).map fun c => c.toNat - 48) else none := by
  have hne : decimalDigits slot ≠ [] := Nat.toDigits_ne_nil
  simp only [choiceDigits?, choiceColumn_toList, List.cons_append, List.nil_append, takeDigits_slot]
  split
  · rename_i heq
    simp [hne] at heq
  · rename_i digits tail _ heq
    rw [Prod.mk.injEq] at heq
    obtain ⟨rfl, rfl⟩ := heq
    simp only [slotFields, List.mem_cons, List.not_mem_nil, or_false] at h
    obtain rfl | rfl | rfl | rfl := h <;> simp

lemma choiceSlot?_choiceColumn (slot : ℕ) {field : String} (h : field ∈ slotFields) :
    choiceSlot? (choiceColumn slot field) = if field = "id" then some slot else none := by
  unfold choiceSlot?
  rw [choiceDigits?_choiceColumn slot h]
  split
  · rw [Option.map_some, ofDigits_slot]
  · rfl

/-! ## Slots of rows -/

/-- The slots of a row, whatever the length of their numbers. -/
def rowSlots (row : Row) : List ℕ :=
  ((Entries.keys row).filterMap choiceSlot?).eraseDups.mergeSort

/-- No choice column of the row has too long a number in its name. -/
def ShortSlots (row : Row) : Prop :=
  ∀ column ∈ Entries.keys row, ∀ digits ∈ choiceDigits? column, digits.length ≤ Text.maxDigits

instance (row : Row) : Decidable (ShortSlots row) := by
  unfold ShortSlots
  infer_instance

lemma mapM_readDigits (runs : List (List ℕ)) :
    runs.mapM Text.readDigits =
      if ∀ digits ∈ runs, digits.length ≤ Text.maxDigits then .ok (runs.map Text.ofDigits)
      else .error ⟨⟩ := by
  induction runs with
  | nil => rfl
  | cons digits runs ih =>
    rw [List.mapM_cons, ih]
    unfold Text.readDigits
    simp only [List.forall_mem_cons]
    by_cases hdigits : digits.length ≤ Text.maxDigits
    · rw [if_pos hdigits]
      simp only [hdigits, true_and]
      split <;> rfl
    · rw [if_neg hdigits]
      simp only [hdigits, false_and, if_false]
      rfl

lemma choiceSlots_eq (row : Row) :
    row.choiceSlots = if ShortSlots row then .ok (rowSlots row) else .error ⟨⟩ := by
  have hshort : (∀ digits ∈ (Entries.keys row).filterMap choiceDigits?,
      digits.length ≤ Text.maxDigits) ↔ ShortSlots row := by
    simp only [List.mem_filterMap, ShortSlots, Option.mem_def]
    exact ⟨fun h column hcolumn digits hdigits => h digits ⟨column, hcolumn, hdigits⟩,
      fun h digits ⟨column, hcolumn, hdigits⟩ => h column hcolumn digits hdigits⟩
  have hslots : ((Entries.keys row).filterMap choiceDigits?).map Text.ofDigits =
      (Entries.keys row).filterMap choiceSlot? := by
    rw [List.map_filterMap]
    rfl
  unfold Row.choiceSlots
  rw [mapM_readDigits]
  simp only [hshort, hslots]
  split <;> rfl

/-! ## The node table -/

/-- The columns in front of the choice slots. -/
def plainColumns : List String := ["id", "type", "text", "image", "onEnter"]

lemma nodeColumns_eq (slots : ℕ) : Node.columns slots = plainColumns ++ slotColumns 0 slots := rfl

lemma mem_slotColumns {n count : ℕ} {column : String} (h : column ∈ slotColumns n count) :
    ∃ i field, i < count ∧ field ∈ slotFields ∧ column = choiceColumn (n + i + 1) field := by
  rw [slotColumns_eq] at h
  obtain ⟨i, hi, hmem⟩ := List.mem_flatMap.mp h
  obtain ⟨field, hfield, rfl⟩ := List.mem_map.mp hmem
  exact ⟨i, field, List.mem_range.mp hi, hfield, rfl⟩

lemma choiceColumn_ne_plain (slot : ℕ) (field : String) {column : String}
    (h : column ∈ plainColumns) : choiceColumn slot field ≠ column := by
  intro heq
  have hhead := congrArg (fun s => s.toList.head?) heq
  rw [choiceColumn_toList] at hhead
  simp only [plainColumns, List.mem_cons, List.not_mem_nil, or_false] at h
  obtain rfl | rfl | rfl | rfl | rfl := h <;> simp at hhead

lemma slotColumns_nodup (n count : ℕ) : (slotColumns n count).Nodup := by
  have hfields : slotFields.Nodup := by decide
  induction count generalizing n with
  | zero => exact List.nodup_nil
  | succ count ih =>
    rw [slotColumns_succ, List.nodup_append]
    refine ⟨?_, ih (n + 1), ?_⟩
    · exact hfields.map fun f g hfg => (choiceColumn_injective hfg).2
    · intro a ha b hb
      obtain ⟨f, -, rfl⟩ := List.mem_map.mp ha
      obtain ⟨i, g, -, -, rfl⟩ := mem_slotColumns hb
      intro heq
      have hslot := (choiceColumn_injective heq).1
      omega

lemma nodeColumns_nodup (slots : ℕ) : (Node.columns slots).Nodup := by
  rw [nodeColumns_eq, List.nodup_append]
  refine ⟨by decide, slotColumns_nodup 0 slots, ?_⟩
  intro a ha b hb
  obtain ⟨i, field, -, -, rfl⟩ := mem_slotColumns hb
  exact (choiceColumn_ne_plain _ field ha).symm

lemma filterMap_slotColumns (n count : ℕ) :
    (slotColumns n count).filterMap choiceSlot? = (List.range count).map fun i => n + i + 1 := by
  have hslot : ∀ slot, (slotFields.map (choiceColumn slot)).filterMap choiceSlot? = [slot] := by
    intro slot
    have hfield : ∀ f ∈ slotFields, choiceSlot? (choiceColumn slot f) = if f = "id" then some slot
        else none := fun f hf => choiceSlot?_choiceColumn slot hf
    rw [List.filterMap_map]
    calc slotFields.filterMap _
        = slotFields.filterMap fun f => if f = "id" then some slot else none :=
          List.filterMap_congr hfield
      _ = [slot] := by simp [slotFields]
  rw [slotColumns_eq, List.filterMap_flatMap]
  simp only [hslot]
  rw [List.map_eq_flatMap]

lemma eraseDups_of_nodup {l : List ℕ} (h : l.Nodup) : l.eraseDups = l := by
  induction l with
  | nil => rfl
  | cons a l ih =>
    obtain ⟨ha, hl⟩ := List.nodup_cons.mp h
    have hfilter : l.filter (fun b => !b == a) = l := by
      rw [List.filter_eq_self]
      intro b hb
      have hne : b ≠ a := fun heq => ha (heq ▸ hb)
      simpa using hne
    rw [List.eraseDups_cons, hfilter, ih hl]

lemma rowSlots_of_keys {row : Row} {slots : ℕ} (h : Entries.keys row = Node.columns slots) :
    rowSlots row = (List.range slots).map (· + 1) := by
  have hplain : plainColumns.filterMap choiceSlot? = [] := by decide
  have hslots : (Node.columns slots).filterMap choiceSlot? = (List.range slots).map (· + 1) := by
    rw [nodeColumns_eq, List.filterMap_append, hplain, List.nil_append, filterMap_slotColumns]
    simp
  have hincreasing : ((List.range slots).map (· + 1)).Pairwise (· < ·) := by
    rw [List.pairwise_map]
    exact List.pairwise_lt_range.imp fun hlt => by omega
  unfold rowSlots
  rw [h, hslots, eraseDups_of_nodup (hincreasing.imp fun hlt => by omega)]
  refine List.mergeSort_of_pairwise (hincreasing.imp fun hlt => ?_)
  rw [decide_eq_true_eq]
  omega

lemma length_decimalDigits_le_iff (n : ℕ) :
    (decimalDigits n).length ≤ Text.maxDigits ↔ n < 10 ^ Text.maxDigits :=
  Nat.length_toDigits_le_iff (by decide) (by decide)

/-- The last slot has the longest number. -/
lemma shortSlots_of_keys {row : Row} {slots : ℕ} (h : Entries.keys row = Node.columns slots) :
    ShortSlots row ↔ slots < 10 ^ Text.maxDigits := by
  have hplain : ∀ column ∈ plainColumns, choiceDigits? column = none := by decide
  have hlength : ∀ slot, ((decimalDigits slot).map fun c => c.toNat - 48).length ≤ Text.maxDigits ↔
      slot < 10 ^ Text.maxDigits := fun slot => by
    rw [List.length_map, length_decimalDigits_le_iff]
  unfold ShortSlots
  rw [h, nodeColumns_eq]
  constructor
  · intro hshort
    cases slots with
    | zero => exact Nat.pow_pos (by decide)
    | succ slots =>
      have hlast : choiceColumn (slots + 1) "id" ∈ slotColumns 0 (slots + 1) := by
        rw [slotColumns_eq]
        refine List.mem_flatMap.mpr ⟨slots, List.mem_range.mpr (by omega), ?_⟩
        rw [Nat.zero_add]
        exact List.mem_map_of_mem (by decide)
      refine (hlength (slots + 1)).mp (hshort _ (List.mem_append_right _ hlast) _ ?_)
      rw [choiceDigits?_choiceColumn (slots + 1) (by decide), if_pos rfl, Option.mem_some_iff]
  · intro hslots column hcolumn digits hdigits
    obtain hcolumn | hcolumn := List.mem_append.mp hcolumn
    · rw [hplain column hcolumn] at hdigits
      exact absurd hdigits (Option.not_mem_none digits)
    · obtain ⟨i, field, hi, hfield, rfl⟩ := mem_slotColumns hcolumn
      rw [choiceDigits?_choiceColumn _ hfield] at hdigits
      split at hdigits
      · rw [Option.mem_some_iff] at hdigits
        subst hdigits
        exact (hlength (0 + i + 1)).mpr (by omega)
      · exact absurd hdigits (Option.not_mem_none digits)

lemma choiceSlots_of_keys {row : Row} {slots : ℕ} (h : Entries.keys row = Node.columns slots)
    (hslots : slots < 10 ^ Text.maxDigits) :
    row.choiceSlots = .ok ((List.range slots).map (· + 1)) := by
  rw [choiceSlots_eq, if_pos ((shortSlots_of_keys h).mpr hslots), rowSlots_of_keys h]

lemma hasNumberedSlots_iff {s : Story} :
    s.hasNumberedSlots = true ↔ s.slots < 10 ^ Text.maxDigits := by
  unfold Story.hasNumberedSlots
  rw [decide_eq_true_eq, length_decimalDigits_le_iff]

/-! ## Cells under columns -/

/-- A row that reads as these cells under these columns. -/
structure RowHolds (row : Row) (columns cells : List String) : Prop where
  keys : Entries.keys row = columns
  cell : ∀ column, row.cell column = Text.trim (((columns.zip cells).lookup column).getD "")

/-- The row of given cells. -/
def filledRow (entries : Entries String) : Row :=
  entries.map fun entry => (entry.1, some entry.2)

lemma lookup_map {α β : Type} (f : α → β) (entries : Entries α) (column : String) :
    (entries.map fun entry => (entry.1, f entry.2)).lookup column =
      (entries.lookup column).map f := by
  induction entries with
  | nil => rfl
  | cons entry entries ih =>
    obtain ⟨key, value⟩ := entry
    rw [List.map_cons]
    by_cases hkey : column = key
    · subst hkey
      rw [List.lookup_cons_self, List.lookup_cons_self, Option.map_some]
    · have hbeq : (column == key) = false := beq_eq_false_iff_ne.mpr hkey
      simp only [List.lookup_cons, hbeq, ih]

lemma rowHolds_filledRow {columns cells : List String} (h : columns.length = cells.length) :
    RowHolds (filledRow (columns.zip cells)) columns cells := by
  refine ⟨?_, ?_⟩
  · unfold Entries.keys filledRow
    rw [List.map_map]
    exact List.map_fst_zip h.le
  · intro column
    unfold Row.cell Entries.get? filledRow
    rw [lookup_map]
    cases (columns.zip cells).lookup column with
    | none => rfl
    | some s => rfl

/-- The cells of the choice slots. -/
def slotCells (slots : ℕ) (choices : List Choice) : List String :=
  (choices.take slots).flatMap Choice.cells ++ List.replicate (4 * (slots - choices.length)) ""

lemma nodeCells_eq (slots : ℕ) (n : Node) :
    n.cells slots =
      [n.id.text, n.type, n.text, n.image.getD "", Action.cell n.actionList] ++
        slotCells slots n.choiceList := by
  unfold Node.cells slotCells
  rw [List.append_assoc]

lemma slotCells_cons (slots : ℕ) (c : Choice) (cs : List Choice) :
    slotCells (slots + 1) (c :: cs) = c.cells ++ slotCells slots cs := by
  unfold slotCells
  rw [List.take_succ_cons, List.flatMap_cons, List.append_assoc, List.length_cons,
    Nat.add_sub_add_right]

lemma slotCells_nil_succ (slots : ℕ) :
    slotCells (slots + 1) [] = ["", "", "", ""] ++ slotCells slots [] := by
  have hcount : 4 * (slots + 1) = 4 + 4 * slots := by omega
  unfold slotCells
  simp only [List.take_nil, List.flatMap_nil, List.nil_append, List.length_nil, Nat.sub_zero]
  rw [hcount, List.replicate_add]
  rfl

lemma slotCells_length (slots : ℕ) (choices : List Choice) :
    (slotCells slots choices).length = (slotColumns 0 slots).length := by
  have hcolumns : ∀ n count, (slotColumns n count).length = 4 * count := by
    intro n count
    rw [slotColumns_eq, List.length_flatMap]
    simp [slotFields, mul_comm]
  rw [hcolumns]
  induction slots generalizing choices with
  | zero => simp [slotCells]
  | succ slots ih =>
    cases choices with
    | nil =>
      rw [slotCells_nil_succ, List.length_append, ih]
      simp only [List.length_cons, List.length_nil]
      omega
    | cons c cs =>
      rw [slotCells_cons, List.length_append, ih]
      simp only [Choice.cells, List.length_cons, List.length_nil]
      omega

lemma nodeColumns_length (slots : ℕ) (n : Node) :
    (Node.columns slots).length = (n.cells slots).length := by
  rw [nodeColumns_eq, nodeCells_eq, List.length_append, List.length_append, slotCells_length]
  rfl

/-- The text of a choice under a field of its slot. -/
def choiceCell (c : Choice) (field : String) : String :=
  ((slotFields.zip c.cells).lookup field).getD ""

lemma lookup_block (slot : ℕ) {field : String} (h : field ∈ slotFields) (a b c d : String) :
    ((slotFields.map (choiceColumn slot)).zip [a, b, c, d]).lookup (choiceColumn slot field) =
      some (((slotFields.zip [a, b, c, d]).lookup field).getD "") := by
  have hne : ∀ {f g : String}, f ≠ g → (choiceColumn slot f == choiceColumn slot g) = false := by
    intro f g hfg
    rw [beq_eq_false_iff_ne]
    exact fun heq => hfg (choiceColumn_injective heq).2
  simp only [slotFields, List.mem_cons, List.not_mem_nil, or_false] at h
  obtain rfl | rfl | rfl | rfl := h <;>
    simp [slotFields, List.lookup_cons, hne]

lemma lookup_block_ne {slot other : ℕ} (h : slot ≠ other) (field : String) (cells : List String) :
    ((slotFields.map (choiceColumn slot)).zip cells).lookup (choiceColumn other field) = none := by
  rw [List.lookup_eq_none_iff]
  intro entry hentry
  obtain ⟨f, -, hf⟩ := List.mem_map.mp (List.of_mem_zip hentry).1
  rw [bne_iff_ne, ← hf]
  exact fun heq => h (choiceColumn_injective heq).1.symm

lemma lookup_slot (n count i : ℕ) (choices : List Choice) {field : String}
    (hfield : field ∈ slotFields) (hi : i < count) :
    ((slotColumns n count).zip (slotCells count choices)).lookup (choiceColumn (n + i + 1) field) =
      some ((choices[i]?.map fun c => choiceCell c field).getD "") := by
  induction count generalizing n i choices with
  | zero => exact absurd hi (Nat.not_lt_zero i)
  | succ count ih =>
    have hempty : ((slotFields.zip ["", "", "", ""]).lookup field).getD "" = "" := by
      simp only [slotFields, List.mem_cons, List.not_mem_nil, or_false] at hfield
      obtain rfl | rfl | rfl | rfl := hfield <;> decide
    cases choices with
    | nil =>
      rw [slotColumns_succ, slotCells_nil_succ, List.zip_append (by simp [slotFields]),
        List.lookup_append]
      cases i with
      | zero =>
        rw [Nat.add_zero, lookup_block (n + 1) hfield, hempty]
        simp
      | succ i =>
        have hrest := ih (n + 1) i [] (by omega)
        have hslot : n + 1 + i + 1 = n + (i + 1) + 1 := by omega
        rw [hslot] at hrest
        rw [lookup_block_ne (by omega), hrest]
        simp
    | cons c cs =>
      rw [slotColumns_succ, slotCells_cons, List.zip_append (by simp [slotFields, Choice.cells]),
        List.lookup_append]
      cases i with
      | zero =>
        unfold Choice.cells
        rw [Nat.add_zero, lookup_block (n + 1) hfield]
        simp [choiceCell, Choice.cells]
      | succ i =>
        have hrest := ih (n + 1) i cs (by omega)
        have hslot : n + 1 + i + 1 = n + (i + 1) + 1 := by omega
        rw [hslot] at hrest
        rw [lookup_block_ne (by omega), hrest]
        simp

end Gamebook.Proofs
