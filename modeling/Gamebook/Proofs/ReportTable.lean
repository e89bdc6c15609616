import Gamebook.Check.Report
import Mathlib.Data.List.Basic
import Mathlib.Data.List.Induction
import Mathlib.Data.List.Nodup
import Mathlib.Tactic.Lemma

/-!
# The table form of a report

The table lists the diagnostics of each severity in blocks, one for each file in order of first
appearance, and ends with a line that counts them. What is asked of the blocks determines them:
every diagnostic stands once, under the header of its own file, in the order that it had.
-/

namespace Gamebook.Proofs

/-! ## Blocks -/

/-- A header and the diagnostics that are listed under it. -/
structure Block where
  file : String
  items : List Diagnostic

/-- The lines of a block in the table. -/
def Block.lines (severity : Severity) (b : Block) : List String :=
  "" :: (b.file ++ " [" ++ severity.name ++ "]") :: b.items.map LintReport.row

/-- The diagnostic is to stand under this header: that of its own file, or the label of what belongs
to no file. -/
def BelongsTo (d : Diagnostic) (file : String) : Prop :=
  (d.file = some file ∧ file ≠ "") ∨
    ((d.file = none ∨ d.file = some "") ∧ file = LintReport.globalLabel)

lemma belongsTo_iff {d : Diagnostic} {file : String} :
    BelongsTo d file ↔ LintReport.label d = file := by
  unfold BelongsTo LintReport.label
  cases d.file with
  | none => simp [eq_comm]
  | some name =>
    by_cases h : name = ""
    · subst h
      simp [eq_comm]
    · rw [Option.getD_some, if_neg h, Option.some.injEq]
      constructor
      · rintro (⟨rfl, -⟩ | ⟨hnone | hempty, -⟩)
        · rfl
        · cases hnone
        · exact absurd (Option.some.inj hempty) h
      · rintro rfl
        exact .inl ⟨rfl, h⟩

/-- The first diagnostic under one header stands before the first one under another. -/
def AppearsBefore (ds : List Diagnostic) (file other : String) : Prop :=
  (ds.map LintReport.label).idxOf file < (ds.map LintReport.label).idxOf other

/-- The diagnostics are listed in blocks. -/
structure ListedIn (ds : List Diagnostic) (blocks : List Block) : Prop where
  once : (blocks.flatMap Block.items).Perm ds
  own : ∀ b ∈ blocks, ∀ d ∈ b.items, BelongsTo d b.file
  kept : ∀ b ∈ blocks, b.items.Sublist ds
  used : ∀ b ∈ blocks, b.items ≠ []
  headers : blocks.Pairwise fun a b => AppearsBefore ds a.file b.file

/-! ## The blocks of the table -/

variable {ds : List Diagnostic} {blocks : List Block} {b : Block}

/-- The diagnostics that belong to a file. -/
def underFile (ds : List Diagnostic) (file : String) : List Diagnostic :=
  ds.filter fun d => LintReport.label d = file

def blocksOf (ds : List Diagnostic) : List Block :=
  (ds.map LintReport.label).eraseDups.map fun file => ⟨file, underFile ds file⟩

lemma groups_eq (severity : Severity) (ds : List Diagnostic) :
    LintReport.groups severity ds = (blocksOf ds).flatMap (Block.lines severity) := by
  unfold LintReport.groups blocksOf
  rw [List.flatMap_map]
  rfl

lemma pairwise_eraseDups (files : List String) :
    files.eraseDups.Pairwise fun a b => files.idxOf a < files.idxOf b := by
  induction files using List.reverseRecOn with
  | nil => exact List.Pairwise.nil
  | append_singleton files file ih =>
    have hold : ∀ a ∈ files.eraseDups, (files ++ [file]).idxOf a = files.idxOf a := fun a ha =>
      List.idxOf_append_of_mem (List.mem_eraseDups.mp ha)
    have hkept : files.eraseDups.Pairwise fun a b =>
        (files ++ [file]).idxOf a < (files ++ [file]).idxOf b := by
      refine ih.imp_of_mem fun ha hb hlt => ?_
      rwa [hold _ ha, hold _ hb]
    by_cases hmem : file ∈ files
    · have hnone : [file].removeAll files = [] := by simp [List.removeAll, hmem]
      rw [List.eraseDups_append, hnone, List.eraseDups_nil, List.append_nil]
      exact hkept
    · have hnew : ([file].removeAll files).eraseDups = [file] := by
        simp [List.removeAll, hmem, List.eraseDups_cons]
      rw [List.eraseDups_append, hnew, List.pairwise_append]
      refine ⟨hkept, List.pairwise_singleton _ _, fun a ha other hother => ?_⟩
      obtain rfl := List.mem_singleton.mp hother
      rw [hold a ha, List.idxOf_append_of_notMem hmem]
      exact Nat.lt_add_right _ (List.idxOf_lt_length_iff.mpr (List.mem_eraseDups.mp ha))

/-- Sorted out by file, no diagnostic is lost and none is doubled. -/
lemma flatMap_underFile_perm {files : List String} (hnodup : files.Nodup)
    (hall : ∀ d ∈ ds, LintReport.label d ∈ files) : (files.flatMap (underFile ds)).Perm ds := by
  induction files generalizing ds with
  | nil =>
    have hnil : ds = [] := List.eq_nil_iff_forall_not_mem.mpr fun d hd => by simpa using hall d hd
    rw [hnil]
    exact List.Perm.nil
  | cons file files ih =>
    rw [List.nodup_cons] at hnodup
    have hrest : files.flatMap (underFile ds) =
        files.flatMap (underFile (ds.filter fun d => !decide (LintReport.label d = file))) := by
      refine List.flatMap_congr fun other hother => ?_
      have hne : other ≠ file := fun heq => hnodup.1 (heq ▸ hother)
      unfold underFile
      rw [List.filter_filter]
      refine List.filter_congr fun d _ => ?_
      by_cases h : LintReport.label d = other <;> simp [h, hne]
    have hothers : ∀ d ∈ ds.filter fun d => !decide (LintReport.label d = file),
        LintReport.label d ∈ files := by
      intro d hd
      obtain ⟨hd, hne⟩ := List.mem_filter.mp hd
      exact (List.mem_cons.mp (hall d hd)).resolve_left (by simpa using hne)
    rw [List.flatMap_cons, hrest]
    exact ((ih hnodup.2 hothers).append_left _).trans (List.filter_append_perm _ ds)

lemma nodup_of_appearsBefore {files : List String}
    (h : files.Pairwise (AppearsBefore ds)) : files.Nodup :=
  h.imp fun hlt heq => by
    subst heq
    exact Nat.lt_irrefl _ hlt

lemma appearsBefore_files (ds : List Diagnostic) :
    (ds.map LintReport.label).eraseDups.Pairwise (AppearsBefore ds) := pairwise_eraseDups _

lemma listedIn_blocksOf (ds : List Diagnostic) : ListedIn ds (blocksOf ds) := by
  have hfiles := appearsBefore_files ds
  have hmem : ∀ b ∈ blocksOf ds,
      b.file ∈ ds.map LintReport.label ∧ b.items = underFile ds b.file := by
    intro b hb
    obtain ⟨file, hfile, rfl⟩ := List.mem_map.mp hb
    exact ⟨List.mem_eraseDups.mp hfile, rfl⟩
  constructor
  case once =>
    unfold blocksOf
    rw [List.flatMap_map]
    exact flatMap_underFile_perm (nodup_of_appearsBefore hfiles) fun d hd =>
      List.mem_eraseDups.mpr (List.mem_map_of_mem hd)
  case own =>
    intro b hb d hd
    rw [(hmem b hb).2] at hd
    exact belongsTo_iff.mpr (of_decide_eq_true (List.mem_filter.mp hd).2)
  case kept =>
    intro b hb
    rw [(hmem b hb).2]
    exact List.filter_sublist
  case used =>
    intro b hb
    obtain ⟨hfile, hitems⟩ := hmem b hb
    obtain ⟨d, hd, hlabel⟩ := List.mem_map.mp hfile
    rw [hitems]
    exact List.ne_nil_of_mem (List.mem_filter.mpr ⟨hd, decide_eq_true hlabel⟩)
  case headers =>
    exact List.pairwise_map.mpr hfiles

/-! ## No other blocks -/

lemma ListedIn.nodup (h : ListedIn ds blocks) : (blocks.map Block.file).Nodup :=
  nodup_of_appearsBefore (List.pairwise_map.mpr h.headers)

lemma ListedIn.mem_files (h : ListedIn ds blocks) {file : String} :
    file ∈ blocks.map Block.file ↔ file ∈ ds.map LintReport.label := by
  constructor
  · intro hfile
    obtain ⟨b, hb, rfl⟩ := List.mem_map.mp hfile
    obtain ⟨d, hd⟩ := List.exists_mem_of_ne_nil _ (h.used b hb)
    exact List.mem_map.mpr ⟨d, (h.kept b hb).subset hd, belongsTo_iff.mp (h.own b hb d hd)⟩
  · intro hfile
    obtain ⟨d, hd, rfl⟩ := List.mem_map.mp hfile
    obtain ⟨b, hb, hitem⟩ := List.mem_flatMap.mp (h.once.mem_iff.mpr hd)
    exact List.mem_map.mpr ⟨b, hb, (belongsTo_iff.mp (h.own b hb d hitem)).symm⟩

lemma ListedIn.files_eq (h : ListedIn ds blocks) :
    blocks.map Block.file = (ds.map LintReport.label).eraseDups := by
  have hfiles := appearsBefore_files ds
  have hperm : (blocks.map Block.file).Perm (ds.map LintReport.label).eraseDups := by
    rw [List.perm_ext_iff_of_nodup h.nodup (nodup_of_appearsBefore hfiles)]
    intro file
    rw [h.mem_files, List.mem_eraseDups]
  refine hperm.eq_of_pairwise (fun a b _ _ hab hba => ?_) (List.pairwise_map.mpr h.headers) hfiles
  exact absurd hab (Nat.lt_asymm hba)

/-- A block holds all that belongs to its file, because no other block may hold it. -/
lemma ListedIn.items_eq (h : ListedIn ds blocks) (hb : b ∈ blocks) :
    b.items = underFile ds b.file := by
  have hown : ∀ c ∈ blocks, underFile c.items b.file = if c.file = b.file then c.items else [] := by
    intro c hc
    unfold underFile
    split
    · rename_i heq
      refine List.filter_eq_self.mpr fun d hd => decide_eq_true ?_
      rw [belongsTo_iff.mp (h.own c hc d hd), heq]
    · rename_i hne
      refine List.filter_eq_nil_iff.mpr fun d hd => ?_
      rw [decide_eq_true_eq, belongsTo_iff.mp (h.own c hc d hd)]
      exact hne
  have hself : underFile b.items b.file = b.items := by rw [hown b hb, if_pos rfl]
  obtain ⟨front, back, hsplit⟩ := List.append_of_mem hb
  have hnodup := h.nodup
  rw [hsplit, List.map_append, List.map_cons, List.nodup_middle, List.nodup_cons,
    ← List.map_append] at hnodup
  have hothers : ∀ c ∈ front ++ back, underFile c.items b.file = [] := by
    intro c hc
    have hblock : c ∈ blocks := by
      rw [hsplit]
      exact List.mem_append.mpr ((List.mem_append.mp hc).imp_right (List.mem_cons_of_mem b))
    rw [hown c hblock, if_neg fun heq : c.file = b.file => hnodup.1 (heq ▸ List.mem_map_of_mem hc)]
  have hlisted : underFile (blocks.flatMap Block.items) b.file = b.items := by
    have hfront : front.flatMap (fun c => underFile c.items b.file) = [] :=
      List.flatMap_eq_nil_iff.mpr fun c hc => hothers c (List.mem_append_left back hc)
    have hback : back.flatMap (fun c => underFile c.items b.file) = [] :=
      List.flatMap_eq_nil_iff.mpr fun c hc => hothers c (List.mem_append_right front hc)
    calc underFile (blocks.flatMap Block.items) b.file
        = blocks.flatMap fun c => underFile c.items b.file := List.filter_flatMap
      _ = b.items := by
        rw [hsplit, List.flatMap_append, List.flatMap_cons, hfront, hback, hself, List.nil_append,
          List.append_nil]
  have hsublist : (underFile b.items b.file).Sublist (underFile ds b.file) :=
    (h.kept b hb).filter _
  rw [hself] at hsublist
  refine hsublist.eq_of_length ?_
  rw [← hlisted]
  exact (h.once.filter _).length_eq

/-- What is asked of the blocks determines them. -/
theorem listedIn_iff : ListedIn ds blocks ↔ blocks = blocksOf ds := by
  constructor
  · intro h
    unfold blocksOf
    rw [← h.files_eq, List.map_map]
    refine (List.map_id blocks).symm.trans (List.map_congr_left fun b hb => ?_)
    rw [Function.comp_apply, ← h.items_eq hb]
    rfl
  · rintro rfl
    exact listedIn_blocksOf ds

/-! ## The end of the table -/

variable {r : LintReport}

/-- The line that counts the diagnostics. -/
def countLine (r : LintReport) : String :=
  natText r.errors.length ++ " error(s), " ++ natText r.warnings.length ++ " warning(s)"

/-- The line that stands in the place of all others. -/
def cleanLine : String := "No errors or warnings."

def IsClean (r : LintReport) : Prop := r.errors = [] ∧ r.warnings = []

def EndsIn (text ending : String) : Prop := ending.toList <:+ text.toList

/-- The table lists the errors, then the warnings, and ends in their counts or in the clean line. -/
structure Tabulated (r : LintReport) (text : String) : Prop where
  layout : ∃ errors warnings ending, ListedIn r.errors errors ∧ ListedIn r.warnings warnings ∧
    text = "\n".intercalate (errors.flatMap (Block.lines .error) ++
      warnings.flatMap (Block.lines .warning) ++ ending) ∧
    (IsClean r ∧ ending = [cleanLine] ∨ ¬IsClean r ∧ ending = ["", countLine r])
  counted : EndsIn text ("\n" ++ countLine r) ↔ ¬IsClean r
  clean : EndsIn text cleanLine ↔ IsClean r

lemma table_of_clean (h : IsClean r) : r.table = cleanLine := by
  unfold LintReport.table
  rw [h.1, h.2]
  rfl

lemma table_of_not_clean (h : ¬IsClean r) :
    r.table = "\n".intercalate (LintReport.groups .error r.errors ++
      LintReport.groups .warning r.warnings ++ ["", countLine r]) := by
  unfold LintReport.table
  have hempty : ¬(r.errors.isEmpty && r.warnings.isEmpty) = true := by
    rw [Bool.and_eq_true, List.isEmpty_iff, List.isEmpty_iff]
    exact h
  dsimp only
  rw [if_neg hempty]
  rfl

lemma endsIn_append (front ending : String) : EndsIn (front ++ ending) ending := by
  unfold EndsIn
  rw [String.toList_append]
  exact List.suffix_append _ _

lemma endsIn_intercalate {lines : List String} (h : lines ≠ []) (last : String) :
    EndsIn ("\n".intercalate (lines ++ [last])) ("\n" ++ last) := by
  rw [String.intercalate_append_of_ne_nil h (by simp), String.intercalate_singleton,
    String.append_assoc]
  exact endsIn_append _ _

lemma EndsIn.getLast? {text ending : String} {c : Char} (h : EndsIn text ending)
    (hc : ending.toList.getLast? = some c) : text.toList.getLast? = some c := by
  obtain ⟨front, hfront⟩ := h
  rw [← hfront, List.getLast?_append, hc, Option.some_or]

lemma getLast?_countLine (r : LintReport) :
    ("\n" ++ countLine r).toList.getLast? = some ')' := by
  have hend : EndsIn ("\n" ++ countLine r) " warning(s)" := by
    unfold countLine
    rw [← String.append_assoc]
    exact endsIn_append _ _
  exact hend.getLast? rfl

lemma getLast?_cleanLine : cleanLine.toList.getLast? = some '.' := rfl

lemma not_endsIn_both {text : String} (hcount : EndsIn text ("\n" ++ countLine r))
    (hclean : EndsIn text cleanLine) : False := by
  have h := hcount.getLast? (getLast?_countLine r)
  rw [hclean.getLast? getLast?_cleanLine] at h
  exact absurd h (by decide)

lemma tabulated_table (r : LintReport) : Tabulated r r.table := by
  have hcount : ¬IsClean r → EndsIn r.table ("\n" ++ countLine r) := by
    intro h
    have hlines := table_of_not_clean h
    rw [List.append_cons _ "" [countLine r]] at hlines
    rw [hlines]
    exact endsIn_intercalate (by simp) _
  have hclean : IsClean r → EndsIn r.table cleanLine := by
    intro h
    rw [table_of_clean h]
    exact List.suffix_rfl
  constructor
  case layout =>
    by_cases h : IsClean r
    · refine ⟨blocksOf r.errors, blocksOf r.warnings, _, listedIn_blocksOf _, listedIn_blocksOf _,
        ?_, .inl ⟨h, rfl⟩⟩
      rw [table_of_clean h, h.1, h.2]
      rfl
    · refine ⟨blocksOf r.errors, blocksOf r.warnings, _, listedIn_blocksOf _, listedIn_blocksOf _,
        ?_, .inr ⟨h, rfl⟩⟩
      rw [table_of_not_clean h, groups_eq, groups_eq]
  case counted => exact ⟨fun h hc => not_endsIn_both h (hclean hc), hcount⟩
  case clean => exact ⟨fun h => by_contra fun hc => not_endsIn_both (hcount hc) h, hclean⟩

/-- A file that is met again has one block. -/
example :
    let again (file : Option String) (row : Int) : Diagnostic :=
      ⟨"DATA001", .warning, file, some row, none, "Again", none, none⟩
    LintReport.table ⟨[], [again (some "items.csv") 3, again none 4, again (some "items.csv") 5],
        none⟩ =
      "\nitems.csv [warning]\n  DATA001:3: Again\n  DATA001:5: Again\n" ++
        "\n(global) [warning]\n  DATA001:4: Again\n\n0 error(s), 3 warning(s)" := by
  decide +kernel

end Gamebook.Proofs
