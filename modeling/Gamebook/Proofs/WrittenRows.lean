import Gamebook.Proofs.FileChanges

/-!
# Written rows

Rows that are written under a header are read back with their cells trimmed, whatever the cells
hold. Only the rows in which every cell is blank are left out.
-/

namespace Gamebook.Proofs

open Csv

variable {columns : List String} {rows : List (Entries String)} {w w' : Workspace} {p : Path}

/-! ## Shown records -/

/-- Is there a cell that is not blank? -/
def isShown (cells : List String) : Bool := cells.any fun cell => !Text.isBlankText cell

/-- The records that an empty line is read as are not shown, and neither is the line. -/
lemma filter_readBack (lines : List (List String)) :
    (readBack lines).filter isShown = lines.filter isShown := by
  induction lines with
  | nil => rfl
  | cons l lines ih =>
    rw [readBack]
    by_cases hl : l = [""]
    · have hline : isShown l = false := by
        rw [hl]
        decide
      rw [if_pos hl, List.filter_cons_of_neg (by simp [hline])]
      split
      · rename_i hlines
        rw [hlines]
      · rw [List.filter_cons_of_neg (by decide), ih]
    · rw [if_neg hl, List.filter_cons, List.filter_cons, ih]

/-! ## Written lines -/

/-- The cell of a row in a column; a cell that the row does not give is empty. -/
def cellAt (row : Entries String) (column : String) : String := (Entries.get? column row).getD ""

/-- The header and the cells of the rows. -/
def writtenLines (columns : List String) (rows : List (Entries String)) : List (List String) :=
  columns :: rows.map fun row => columns.map (cellAt row)

lemma toList_write (columns : List String) (rows : List (Entries String)) :
    (Csv.write columns rows).toList = linesText (writtenLines columns rows) := by
  unfold Csv.write linesText writtenLines
  rw [List.map_cons, List.map_map]
  rfl

/-- Names of columns under which rows are found again: at least one, all different, trimmed, none of
them empty or too long, and no byte order mark in front of the first. -/
structure Header (columns : List String) : Prop where
  nonempty : columns ≠ []
  distinct : columns.Nodup
  named : "" ∉ columns
  trimmed : ∀ c ∈ columns, Trimmed c
  unmarked : ∀ c ∈ columns.head?, c.toList.head? ≠ some Text.byteOrderMark
  fits : ∀ c ∈ columns, FitsField c

/-- A field is written with its own first character or with a quote in front. -/
lemma head_escape {field : String} (h : field ≠ "") :
    (escape field).toList.head? = some '"' ∨
      (escape field).toList.head? = field.toList.head? ∧ field.toList.head? ≠ none := by
  unfold escape
  dsimp only
  split
  · left
    rw [String.toList_ofList]
    rfl
  · exact .inr ⟨rfl, by simpa using h⟩

lemma exists_linesText_escape (c : String) (rest : List String) (lines : List (List String)) :
    ∃ more, linesText ((c :: rest) :: lines) = (escape c).toList ++ more := by
  obtain ⟨more, hline⟩ : ∃ more, (line (c :: rest)).toList = (escape c).toList ++ more := by
    cases rest with
    | nil =>
      refine ⟨[], ?_⟩
      rw [List.append_nil]
      exact congrArg _ String.intercalate_singleton
    | cons d rest => exact ⟨_, line_cons c d rest⟩
  cases lines with
  | nil => exact ⟨more, by rw [linesText_singleton, hline]⟩
  | cons l lines => exact ⟨_, by rw [linesText_cons, hline, List.append_assoc]⟩

lemma head_write (h : Header columns) (rows : List (Entries String)) :
    (Csv.write columns rows).toList.head? ≠ some Text.byteOrderMark := by
  obtain ⟨c, rest, rfl⟩ := List.exists_cons_of_ne_nil h.nonempty
  have hc : c ≠ "" := fun heq => h.named (heq ▸ List.mem_cons_self)
  obtain ⟨more, hmore⟩ := exists_linesText_escape c rest (rows.map fun row =>
    (c :: rest).map (cellAt row))
  have htext : (Csv.write (c :: rest) rows).toList = (escape c).toList ++ more :=
    (toList_write _ _).trans hmore
  rw [htext, List.head?_append]
  obtain hquote | ⟨hhead, hsome⟩ := head_escape hc
  · rw [hquote, Option.some_or]
    decide
  · obtain ⟨d, hd⟩ := Option.ne_none_iff_exists'.mp hsome
    have hmark := h.unmarked c rfl
    rw [hd] at hhead hmark
    rw [hhead]
    exact hmark

lemma dropMark_of_head {cs : List Char} (h : cs.head? ≠ some Text.byteOrderMark) :
    Text.dropMark cs = cs := by
  cases cs with
  | nil => rfl
  | cons c cs =>
    rw [Text.dropMark, if_neg]
    rintro rfl
    exact h rfl

/-! ## Reading back -/

lemma nil_notMem_writtenLines (h : Header columns) : [] ∉ writtenLines columns rows := by
  intro hmem
  obtain hmem | hmem := List.mem_cons.mp hmem
  · exact h.nonempty hmem.symm
  · obtain ⟨row, -, heq⟩ := List.mem_map.mp hmem
    exact h.nonempty (List.map_eq_nil_iff.mp heq)

lemma fitsField_writtenLines (h : Header columns)
    (hfits : ∀ row ∈ rows, ∀ c ∈ columns, FitsField (cellAt row c)) :
    ∀ l ∈ writtenLines columns rows, ∀ f ∈ l, FitsField f := by
  intro l hl f hf
  obtain rfl | hl := List.mem_cons.mp hl
  · exact h.fits f hf
  · obtain ⟨row, hrow, rfl⟩ := List.mem_map.mp hl
    obtain ⟨c, hc, rfl⟩ := List.mem_map.mp hf
    exact hfits row hrow c hc

lemma csvRow_cellAt (h : Header columns) (row : Entries String) :
    Csv.row columns (columns.map (cellAt row)) =
      columns.map fun c => (c, some (Text.trim (cellAt row c))) := by
  have hzip : columns.zip (columns.map (Text.trim ∘ cellAt row)) =
      columns.map fun c => (c, Text.trim (cellAt row c)) := by
    nth_rewrite 1 [← List.map_id columns]
    exact List.zip_map'
  rw [csvRow_eq (List.length_map _) h.distinct h.named, List.map_map, hzip]
  unfold filledRow
  rw [List.map_map]
  rfl

lemma read_write (h : Header columns)
    (hfits : ∀ row ∈ rows, ∀ c ∈ columns, FitsField (cellAt row c)) :
    Csv.read (Csv.write columns rows).toList =
      .ok ((rows.filter fun row => isShown (columns.map (cellAt row))).map fun row =>
        columns.map fun c => (c, some (Text.trim (cellAt row c)))) := by
  have hheader : columns ≠ [""] := by
    rintro rfl
    exact h.named List.mem_cons_self
  have hnames : columns.map Text.trim = columns :=
    (List.map_congr_left fun c hc => h.trimmed c hc).trans (List.map_id columns)
  have hne : writtenLines columns rows ≠ [] := List.cons_ne_nil _ _
  unfold Csv.read
  rw [toList_write,
    records_readBack hne (nil_notMem_writtenLines h) (fitsField_writtenLines h hfits)]
  unfold writtenLines
  rw [readBack, if_neg hheader]
  refine congrArg Except.ok ?_
  unfold Csv.rows
  dsimp only
  change ((readBack _).filter isShown).map _ = _
  rw [filter_readBack, hnames, List.filter_map, List.map_map]
  exact List.map_congr_left fun row _ => csvRow_cellAt h row

/-- Rows that are written to a file are read back from it, all but the blank ones, in order and with
trimmed cells. -/
theorem readTable_of_write (h : Header columns)
    (hfits : ∀ row ∈ rows, ∀ c ∈ columns, FitsField (cellAt row c))
    (hwrite : w.writeText p (Csv.write columns rows) = .ok w') :
    w'.readTable p =
      .ok ((rows.filter fun row => columns.any fun c => !Text.isBlankText (cellAt row c)).map
        fun row => columns.map fun c => (c, some (Text.trim (cellAt row c)))) := by
  have hshown : ∀ row, isShown (columns.map (cellAt row)) =
      columns.any fun c => !Text.isBlankText (cellAt row c) := fun row => List.any_map
  unfold Workspace.readTable
  rw [read_of_writeText hwrite]
  dsimp only
  rw [decodeMarked?_encode, dropMark_of_head (head_write h rows)]
  dsimp only
  rw [read_write h hfits]
  simp only [hshown]

/-- Rows of one column: an empty line, a quoted field with white space around it, a blank field. -/
def slips : List (Entries String) :=
  [[("note", "")], [("note", " \"lamp\",\r")], [("note", "\n")]]

theorem readTable_of_write_slips :
    Header ["note"] ∧ (∀ row ∈ slips, ∀ c ∈ ["note"], FitsField (cellAt row c)) ∧
      ∃ w, Workspace.empty.writeText ⟨["slips.csv"]⟩ (Csv.write ["note"] slips) = .ok w ∧
        w.readTable ⟨["slips.csv"]⟩ = .ok [[("note", some "\"lamp\",")]] := by
  have hheader : Header ["note"] :=
    ⟨by decide, by decide, by decide, by decide, by decide, by decide⟩
  have hfits : ∀ row ∈ slips, ∀ c ∈ ["note"], FitsField (cellAt row c) := by decide
  obtain ⟨w, hwrite⟩ : ∃ w, Workspace.empty.writeText ⟨["slips.csv"]⟩ (Csv.write ["note"] slips) =
      .ok w := ⟨_, rfl⟩
  refine ⟨hheader, hfits, w, hwrite, ?_⟩
  rw [readTable_of_write hheader hfits hwrite]
  exact congrArg Except.ok (by decide)

end Gamebook.Proofs
