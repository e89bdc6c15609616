import Gamebook.Proofs.SavedWhole

/-!
# Backups are kept

Stories are saved one after the other, and each save is accepted, rejected or stopped on the way. A
backup is written once, under the stamp of the save that made it, and no save with another stamp
reaches it. So whatever a save replaces is found under its stamp as long as stamps do not come back,
and nothing else is found under the names of backups.
-/

namespace Gamebook.Proofs

variable {s : Settings} {v w x : Workspace} {p : Path} {kind other : EntityKind}
variable {name : String} {content : ByteArray}

section

variable {story : Story} {stamp : Int}

/-! ## Names of backups -/

/-- The name begins as the names of the backups of a table do. -/
def IsBackupName (kind : EntityKind) (name : String) : Prop :=
  (kind.file ++ ".bak.").toList <+: name.toList

/-- What has a name in the directory of the tables. -/
def besideTables (s : Settings) (name : String) : Path := (destination s.tables).child name

lemma isBackupName_backupName (stamp : Int) (kind : EntityKind) :
    IsBackupName kind (backupName stamp kind) := by
  by_contra h
  exact backupName_ne h rfl

lemma kind_of_isBackupName (h : IsBackupName kind name) (hother : IsBackupName other name) :
    kind = other := by
  have hprefix := List.prefix_or_prefix_of_prefix h hother
  revert hprefix
  cases kind <;> cases other <;> first | exact fun _ => rfl | decide

lemma isBackupName_ne_file (h : IsBackupName kind name) : name ≠ other.file := by
  rintro rfl
  unfold IsBackupName at h
  revert h
  cases kind <;> cases other <;> decide

lemma isBackupName_ne_staging (h : IsBackupName kind name) : name ≠ stagingName other.file := by
  rintro rfl
  unfold IsBackupName at h
  revert h
  cases kind <;> cases other <;> decide

lemma stamp_of_backupName {stamp' : Int} (h : backupName stamp kind = backupName stamp' kind) :
    stamp = stamp' := by
  have hlist := congrArg String.toList h
  unfold backupName at hlist
  simp only [String.toList_append] at hlist
  exact intText_injective
    (by simpa using List.append_cancel_left (List.append_cancel_left hlist))

lemma besideTables_ne_keptPlace (h : name ≠ backupName stamp kind) :
    besideTables s name ≠ keptPlace s stamp v kind :=
  child_ne_keptPlace h.symm

/-- The path of the tables does not go through the name of a backup. -/
def ClearWay (s : Settings) : Prop :=
  ∀ kind name, IsBackupName kind name → besideTables s name ∉ s.tables.way

/-- The directory of the tables is without backups: nothing stands under their names. A directory
that is not there yet has no path through such a name either, for staging makes the directories on
the path. -/
structure FreeOfBackups (s : Settings) (w : Workspace) : Prop where
  none : ∀ kind name, IsBackupName kind name → w.entryAt? (besideTables s name) = none
  clear : ClearWay s

lemma freeOfBackups_of_directory (hdirectory : standing w s.tables = some .directory)
    (hnone : ∀ kind name, IsBackupName kind name → w.entryAt? (besideTables s name) = none) :
    FreeOfBackups s w := by
  refine ⟨hnone, fun kind name hname => notMem_way_of_directory hdirectory ?_⟩
  rw [hnone kind name hname]
  simp

lemma destination_backupPath : destination (Workspace.backupPath (s.table kind) stamp) =
    besideTables s (backupName stamp kind) := by
  rw [backupPath_table]
  exact destination_child _ backupName_ne_back

lemma backupSpot_of_free (h : v.entryAt? (besideTables s (backupName stamp kind)) = none) :
    backupSpot v stamp (s.table kind) = Workspace.backupPath (s.table kind) stamp := by
  have hnone : standing v (Workspace.backupPath (s.table kind) stamp) = none := by
    cases hlocate : v.locate (Workspace.backupPath (s.table kind) stamp) with
    | ok q =>
      rw [standing_of_locate hlocate, destination_of_locate hlocate,
        destination_backupPath]
      exact h
    | error cause => exact standing_of_locate_error hlocate
  unfold backupSpot
  rw [isDirectory_eq, hnone]
  rfl

lemma keptPlace_of_free (h : v.entryAt? (besideTables s (backupName stamp kind)) = none) :
    keptPlace s stamp v kind = besideTables s (backupName stamp kind) := by
  unfold keptPlace
  rw [backupSpot_of_free h, destination_backupPath]

/-! ## Tables in view -/

lemma enter_front {p q : Path} {init rest : List String}
    (h : w.enter p (init ++ rest) = .ok q) : ∃ r, w.enter p init = .ok r := by
  induction init generalizing p with
  | nil => exact ⟨p, rfl⟩
  | cons name init ih =>
    rw [List.cons_append, Workspace.enter] at h
    rw [Workspace.enter]
    split at h
    · exact ih h
    · exact absurd h (by simp)
    · exact absurd h (by simp)

/-- A table is in view only if the path to the tables leads through directories. -/
lemma goesForward_of_table (h : standing w (s.table kind) = some (.file content)) :
    GoesForward w s.tables := by
  have henter := enter_of_file h
  unfold Settings.table at henter
  rw [parent_child] at henter
  intro init rest hnames
  rw [hnames] at henter
  exact enter_front henter

/-! ## What is left -/

/-- What an attempt leaves, whether it succeeds or fails. -/
def leftBy {α : Type} : Except (StorageFailure × Workspace) (α × Workspace) → Workspace
  | .ok (_, w) => w
  | .error (_, w) => w

lemma files_save (s : Settings) (now : Instant) (story : Story) (desk : Desk) :
    (outcome (Desk.save s now story) desk).2.files =
      if Savable s story then leftBy (Desk.writeTables s now.millis story desk.files)
      else desk.files := by
  by_cases hsavable : Savable s story
  · rw [if_pos hsavable, outcome_save_of_savable hsavable]
    rcases Desk.writeTables s now.millis story desk.files with ⟨failure, w⟩ | ⟨backups, w⟩ <;> rfl
  · rw [if_neg hsavable]
    exact (files_save_of_not_savable hsavable).1

lemma leftBy_backupAll_cons {ps : List Path} {kept : Option Path}
    (h : v.backup stamp p = .ok (kept, w)) :
    leftBy (v.backupAll stamp (p :: ps)) = leftBy (w.backupAll stamp ps) := by
  rw [Workspace.backupAll, h]
  dsimp only
  cases w.backupAll stamp ps <;> rfl

lemma leftBy_backupAll_of_error {ps : List Path} {failure : StorageFailure}
    (h : v.backup stamp p = .error failure) : leftBy (v.backupAll stamp (p :: ps)) = v := by
  rw [Workspace.backupAll, h]
  rfl

lemma leftBy_backupAll_of_unseen {ps : List Path}
    (h : ∀ p ∈ ps, ∀ content, standing v p ≠ some (.file content)) :
    leftBy (v.backupAll stamp ps) = v := by
  induction ps with
  | nil => rfl
  | cons p ps ih =>
    cases hbackup : v.backup stamp p with
    | error failure => exact leftBy_backupAll_of_error hbackup
    | ok result =>
      rw [leftBy_backupAll_cons hbackup]
      obtain ⟨-, hsame⟩ | ⟨content, hfile, -⟩ := backup_ok hbackup
      · rw [hsame]
        exact ih fun q hq => h q (List.mem_cons_of_mem p hq)
      · exact absurd hfile (h p List.mem_cons_self content)

lemma leftBy_backupAll_of_not_forward (h : ¬GoesForward v s.tables) (kinds : List EntityKind) :
    leftBy (v.backupAll stamp (kinds.map s.table)) = v := by
  refine leftBy_backupAll_of_unseen fun p hp content hfile => ?_
  obtain ⟨kind, -, rfl⟩ := List.mem_map.mp hp
  exact h (goesForward_of_table hfile)

variable {kinds : List EntityKind}

lemma alters_backupAll (hnodup : kinds.Nodup) (htree : IsTree v) :
    Alters (kinds.map (keptPlace s stamp v)) [] v
      (leftBy (v.backupAll stamp (kinds.map s.table))) := by
  by_cases hforward : GoesForward v s.tables
  · cases hbackups : v.backupAll stamp (kinds.map s.table) with
    | ok result => exact (kept_of_backupAll hnodup htree hforward hbackups).1
    | error result => exact (alters_of_backupAll hnodup htree hforward hbackups).1
  · rw [leftBy_backupAll_of_not_forward hforward]
    exact .refl _ _ _

/-- The place where a table is kept is as it was, or holds what the table held. -/
def KeptOrLeft (s : Settings) (stamp : Int) (v w : Workspace) (kind : EntityKind) : Prop :=
  w.entryAt? (keptPlace s stamp v kind) = v.entryAt? (keptPlace s stamp v kind) ∨
    ∃ content, standing v (s.table kind) = some (.file content) ∧
      w.entryAt? (keptPlace s stamp v kind) = some (.file content)

lemma keptOrLeft_of_backup {kept : Option Path}
    (h : v.backup stamp (s.table kind) = .ok (kept, w)) : KeptOrLeft s stamp v w kind := by
  obtain ⟨-, rfl⟩ | ⟨content, hfile, -, hholds⟩ := backup_ok h
  · exact .inl rfl
  · exact .inr ⟨content, hfile, hholds.there⟩

/-- What happens to a place later or elsewhere does not matter to a table that is kept. -/
lemma KeptOrLeft.congr {v' w' : Workspace} (h : KeptOrLeft s stamp v w kind)
    (hspot : keptPlace s stamp v' kind = keptPlace s stamp v kind)
    (htable : standing v' (s.table kind) = standing v (s.table kind))
    (hbefore : v'.entryAt? (keptPlace s stamp v kind) = v.entryAt? (keptPlace s stamp v kind))
    (hafter : w'.entryAt? (keptPlace s stamp v kind) = w.entryAt? (keptPlace s stamp v kind)) :
    KeptOrLeft s stamp v' w' kind := by
  unfold KeptOrLeft
  rw [hspot, htable, hbefore, hafter]
  exact h

lemma keptOrLeft_of_backupAll (hnodup : kinds.Nodup) (htree : IsTree v)
    (hforward : GoesForward v s.tables) :
    ∀ kind ∈ kinds, KeptOrLeft s stamp v (leftBy (v.backupAll stamp (kinds.map s.table))) kind := by
  induction kinds generalizing v with
  | nil => simp
  | cons kind kinds ih =>
    obtain ⟨hnew, hrest⟩ := List.nodup_cons.mp hnodup
    rw [List.map_cons]
    cases hbackup : v.backup stamp (s.table kind) with
    | error failure =>
      rw [leftBy_backupAll_of_error hbackup]
      exact fun other _ => .inl rfl
    | ok result =>
      obtain ⟨backup, x⟩ := result
      have hfirst := (kept_of_backup hbackup).1
      have htree' := hfirst.tree htree
      have hlater : Alters (kinds.map (keptPlace s stamp x)) [] x
          (leftBy (x.backupAll stamp (kinds.map s.table))) := alters_backupAll hrest htree'
      have hothers := ih hrest htree' (goesForward_of_keeps hfirst.keeps hforward)
      rw [leftBy_backupAll_cons hbackup]
      intro other hother
      obtain rfl | hother := List.mem_cons.mp hother
      · -- The backups that follow lie elsewhere.
        refine (keptOrLeft_of_backup hbackup).congr rfl rfl rfl (hlater.same ?_ (by simp))
        rw [keptPlaces_of_kept htree hforward hfirst hnew]
        intro hmem
        obtain ⟨third, hthird, heq⟩ := List.mem_map.mp hmem
        have hne : third ≠ other := fun heq => hnew (heq ▸ hthird)
        exact keptPlace_ne hne heq
      · -- The first backup leaves the other tables and their places as they were.
        have hne : kind ≠ other := fun heq => hnew (heq ▸ hother)
        have hspot : keptPlace s stamp x other = keptPlace s stamp v other :=
          congrArg destination (backupSpot_of_kept htree hforward hfirst hne)
        have hone : Alters ([kind].map (keptPlace s stamp v)) [] v x := hfirst
        refine (hothers other hother).congr hspot.symm
          (standing_table_of_kept htree hforward hone other).symm ?_ rfl
        rw [hspot]
        refine (hfirst.same ?_ (by simp)).symm
        rw [List.mem_singleton]
        exact (keptPlace_ne hne).symm

/-! ## One save -/

lemma alters_afterBackups (s : Settings) (stamp : Int) (story : Story) (v : Workspace) :
    Alters (stagings (tableTexts s story) ++ targets (tableTexts s story)) s.tables.way
      (leftBy (v.backupAll stamp (EntityKind.all.map s.table)))
      (leftBy (Desk.writeTables s stamp story v)) := by
  unfold Desk.writeTables
  cases v.backupAll stamp (EntityKind.all.map s.table) with
  | error result => exact .refl _ _ _
  | ok result =>
    obtain ⟨backups, x⟩ := result
    dsimp only [leftBy]
    cases hwrite : x.writeTexts
        (EntityKind.all.map fun kind => (s.table kind, story.table kind)) with
    | error result =>
      exact (alters_of_error distinct_tableTexts hwrite).mono (List.Subset.refl _) ways_tableTexts
    | ok w =>
      exact (writeTexts_ok distinct_tableTexts hwrite).1.mono (List.Subset.refl _) ways_tableTexts

lemma nodup_all : EntityKind.all.Nodup := by decide

/-- The places that writing tables reaches: those where tables are kept, staged and written. -/
def savedPlaces (s : Settings) (stamp : Int) (v : Workspace) : List Path :=
  EntityKind.all.map (keptPlace s stamp v) ++
    (EntityKind.all.map (fun kind => stagingPlace (s.table kind)) ++
      EntityKind.all.map fun kind => destination (s.table kind))

lemma alters_writeTables (htree : IsTree v) :
    Alters (savedPlaces s stamp v) s.tables.way v (leftBy (Desk.writeTables s stamp story v)) :=
  ((alters_backupAll nodup_all htree).mono (List.subset_append_left _ _) (List.nil_subset _)).trans
    ((alters_afterBackups s stamp story v).mono (List.subset_append_right _ _)
      (List.Subset.refl _))

/-- A name beside the tables is reached only if it is one of a backup, of what is staged or of a
table. -/
lemma besideTables_notMem_savedPlaces (hkept : ∀ kind, name ≠ backupName stamp kind)
    (hstaged : ∀ kind, name ≠ stagingName (EntityKind.file kind))
    (htable : ∀ kind, name ≠ EntityKind.file kind) :
    besideTables s name ∉ savedPlaces s stamp v := by
  unfold savedPlaces
  simp only [List.mem_append, List.mem_map, not_or, not_exists, not_and]
  refine ⟨fun kind _ heq => ?_, fun kind _ heq => ?_, fun kind _ heq => ?_⟩
  · exact besideTables_ne_keptPlace (hkept kind) heq.symm
  · rw [stagingPlace_table] at heq
    exact hstaged kind (child_injective heq).symm
  · rw [destination_table] at heq
    exact htable kind (child_injective heq).symm

/-- Between two workspaces no place of a backup changes but those of the stamps. -/
structure SparesBackups (s : Settings) (stamps : List Int) (v w : Workspace) : Prop where
  others : ∀ kind name, IsBackupName kind name → (∀ stamp ∈ stamps, name ≠ backupName stamp kind) →
    w.entryAt? (besideTables s name) = v.entryAt? (besideTables s name)
  keeps : KeepsDirectories v w
  tree : IsTree w

namespace SparesBackups

lemma refl (htree : IsTree v) (stamps : List Int) : SparesBackups s stamps v v :=
  ⟨fun _ _ _ _ => rfl, fun _ h => h, htree⟩

lemma trans {stamps later : List Int} (h : SparesBackups s stamps v x)
    (hlater : SparesBackups s later x w) : SparesBackups s (stamps ++ later) v w := by
  refine ⟨fun kind name hname hapart => ?_, fun p hp => hlater.keeps p (h.keeps p hp),
    hlater.tree⟩
  rw [hlater.others kind name hname fun stamp hmem => hapart stamp (List.mem_append_right _ hmem)]
  exact h.others kind name hname fun stamp hmem => hapart stamp (List.mem_append_left _ hmem)

end SparesBackups

lemma sparesBackups_writeTables (hclear : ClearWay s) (htree : IsTree v) :
    SparesBackups s [stamp] v (leftBy (Desk.writeTables s stamp story v)) := by
  have halters : Alters (savedPlaces s stamp v) s.tables.way v
      (leftBy (Desk.writeTables s stamp story v)) := alters_writeTables htree
  refine ⟨fun kind name hname hapart => halters.same ?_ ?_, halters.keeps, halters.tree htree⟩
  · refine besideTables_notMem_savedPlaces (fun other hsame => ?_)
      (fun _ => isBackupName_ne_staging hname) fun _ => isBackupName_ne_file hname
    subst hsame
    obtain rfl := kind_of_isBackupName hname (isBackupName_backupName stamp other)
    exact hapart stamp (List.mem_singleton_self _) rfl
  · exact fun hway => absurd hway (hclear kind name hname)

/-- What a table leaves under a stamp that is new is what it held, if anything. -/
lemma own_of_writeTables (hclear : ClearWay s) (htree : IsTree v)
    (hfree : v.entryAt? (besideTables s (backupName stamp kind)) = none) {e : Entry}
    (h : (leftBy (Desk.writeTables s stamp story v)).entryAt?
      (besideTables s (backupName stamp kind)) = some e) :
    ∃ content, standing v (s.table kind) = some (.file content) ∧ e = .file content := by
  have hplace := keptPlace_of_free hfree
  have hbackups : KeptOrLeft s stamp v
      (leftBy (v.backupAll stamp (EntityKind.all.map s.table))) kind := by
    by_cases hforward : GoesForward v s.tables
    · exact keptOrLeft_of_backupAll nodup_all htree hforward kind (mem_all kind)
    · rw [leftBy_backupAll_of_not_forward hforward]
      exact .inl rfl
  have hclear := hclear kind _ (isBackupName_backupName stamp kind)
  have hapart : keptPlace s stamp v kind ∉
      stagings (tableTexts s story) ++ targets (tableTexts s story) := keptPlace_notMem
  rw [hplace] at hapart
  unfold KeptOrLeft at hbackups
  rw [hplace, hfree] at hbackups
  rw [(alters_afterBackups s stamp story v).same hapart fun hway => absurd hway hclear] at h
  obtain hnone | ⟨content, hfile, hkept⟩ := hbackups
  · rw [hnone] at h
    exact absurd h (by simp)
  · rw [hkept] at h
    exact ⟨content, hfile, (Option.some.inj h).symm⟩

end

/-! ## Runs of saves -/

/-- A story to be saved and the time of saving it. -/
structure SaveCall where
  now : Instant
  story : Story

def SaveCall.stamp (c : SaveCall) : Int := c.now.millis

/-- The desk after a save, whatever it comes to. -/
def afterSave (s : Settings) (desk : Desk) (c : SaveCall) : Desk :=
  (outcome (Desk.save s c.now c.story) desk).2

/-- The desk after saves one after the other. -/
def afterSaves (s : Settings) (calls : List SaveCall) (desk : Desk) : Desk :=
  calls.foldl (afterSave s) desk

/-- The stamps of the saves that get as far as writing. A save that is rejected takes no stamp. -/
def stamps (s : Settings) (calls : List SaveCall) : List Int :=
  (calls.filter fun c => Savable s c.story).map SaveCall.stamp

/-- A save replaces the content of a table if it answers that the tables are written, or if the
table is another one afterwards. -/
def Replaces (s : Settings) (desk : Desk) (c : SaveCall) (kind : EntityKind) : Prop :=
  (∃ tables backups warnings,
    (outcome (Desk.save s c.now c.story) desk).1 = .ok (.written tables backups warnings)) ∨
  standing (afterSave s desk c).files (s.table kind) ≠ standing desk.files (s.table kind)

variable {desk : Desk} {c : SaveCall} {calls before rest : List SaveCall}

lemma stamps_append (s : Settings) (before rest : List SaveCall) :
    stamps s (before ++ rest) = stamps s before ++ stamps s rest := by
  unfold stamps
  rw [List.filter_append, List.map_append]

lemma stamps_cons_of_savable (h : Savable s c.story) :
    stamps s (c :: rest) = c.stamp :: stamps s rest := by
  unfold stamps
  rw [List.filter_cons, if_pos (decide_eq_true h), List.map_cons]

lemma afterSaves_append (s : Settings) (before rest : List SaveCall) (desk : Desk) :
    afterSaves s (before ++ rest) desk = afterSaves s rest (afterSaves s before desk) :=
  List.foldl_append

lemma files_afterSave (h : Savable s c.story) (desk : Desk) :
    (afterSave s desk c).files = leftBy (Desk.writeTables s c.stamp c.story desk.files) := by
  unfold afterSave
  rw [files_save, if_pos h]
  rfl

lemma sparesBackups_afterSave (hclear : ClearWay s) (htree : IsTree desk.files)
    (c : SaveCall) : SparesBackups s (stamps s [c]) desk.files (afterSave s desk c).files := by
  by_cases hsavable : Savable s c.story
  · rw [stamps_cons_of_savable hsavable, files_afterSave hsavable]
    exact sparesBackups_writeTables hclear htree
  · unfold afterSave
    rw [files_save, if_neg hsavable]
    exact .refl htree _

/-- A run changes backups under its own stamps only. -/
lemma sparesBackups_afterSaves (hclear : ClearWay s) (htree : IsTree desk.files)
    (calls : List SaveCall) :
    SparesBackups s (stamps s calls) desk.files (afterSaves s calls desk).files := by
  induction calls generalizing desk with
  | nil => exact .refl htree _
  | cons c calls ih =>
    have hfirst := sparesBackups_afterSave hclear htree c
    rw [← List.singleton_append, stamps_append]
    exact hfirst.trans (ih hfirst.tree)

lemma savable_of_replaces (h : Replaces s desk c kind) : Savable s c.story := by
  by_contra hsavable
  have hspared := @files_save_of_not_savable s desk c.now c.story hsavable
  unfold Replaces afterSave at h
  obtain ⟨tables, backups, warnings, hwritten⟩ | hchanged := h
  · exact hspared.2 tables backups warnings hwritten
  · exact hchanged (by rw [hspared.1])

lemma kept_of_replaces (htree : IsTree desk.files)
    (hfree : desk.files.entryAt? (besideTables s (backupName c.stamp kind)) = none)
    (hfile : standing desk.files (s.table kind) = some (.file content))
    (h : Replaces s desk c kind) :
    standing (afterSave s desk c).files (Workspace.backupPath (s.table kind) c.stamp) =
      some (.file content) := by
  have hwhole := writeTables_allOrNothing htree (goesForward_of_table hfile) c.stamp c.story
  have hsavable := savable_of_replaces h
  unfold Replaces at h
  rw [files_afterSave hsavable] at h ⊢
  rw [outcome_save_of_savable hsavable, ← SaveCall.stamp] at h
  cases hwrite : Desk.writeTables s c.stamp c.story desk.files with
  | ok result =>
    rw [hwrite] at hwhole
    have hkept := hwhole.kept kind content hfile
    rw [backupSpot_of_free hfree] at hkept
    exact hkept
  | error result =>
    -- A save that fails neither answers nor changes a table.
    rw [hwrite] at hwhole h
    obtain ⟨tables, backups, warnings, hwritten⟩ | hchanged := h
    · exact absurd hwritten (by simp)
    · exact absurd (hwhole.2 kind) hchanged

/-! ## All backups of a run -/

/-- Whatever a save of the run replaced is found under its stamp at the end. -/
def ReplacedKept (s : Settings) (desk : Desk) (calls : List SaveCall) : Prop :=
  ∀ before c rest kind content, calls = before ++ c :: rest →
    standing (afterSaves s before desk).files (s.table kind) = some (.file content) →
    Replaces s (afterSaves s before desk) c kind →
    standing (afterSaves s calls desk).files (Workspace.backupPath (s.table kind) c.stamp) =
      some (.file content)

/-- Whatever stands under the name of a backup at the end is what the table held when a save of the
run with that stamp began. -/
def BackupsTaken (s : Settings) (desk : Desk) (calls : List SaveCall) : Prop :=
  ∀ kind name e, IsBackupName kind name →
    (afterSaves s calls desk).files.entryAt? (besideTables s name) = some e →
    ∃ before c rest content, calls = before ++ c :: rest ∧ name = backupName c.stamp kind ∧
      standing (afterSaves s before desk).files (s.table kind) = some (.file content) ∧
      e = .file content

/-- Under a stamp of its own a save finds nothing and leaves what no later save reaches. -/
structure OwnStamp (s : Settings) (desk : Desk) (before : List SaveCall) (c : SaveCall)
    (rest : List SaveCall) : Prop where
  tree : IsTree (afterSaves s before desk).files
  free : ∀ kind, (afterSaves s before desk).files.entryAt?
    (besideTables s (backupName c.stamp kind)) = none
  last : ∀ kind, (afterSaves s (before ++ c :: rest) desk).files.entryAt?
      (besideTables s (backupName c.stamp kind)) =
    (afterSave s (afterSaves s before desk) c).files.entryAt?
      (besideTables s (backupName c.stamp kind))
  keeps : KeepsDirectories (afterSave s (afterSaves s before desk) c).files
    (afterSaves s (before ++ c :: rest) desk).files

lemma ownStamp (htree : IsTree desk.files) (hfree : FreeOfBackups s desk.files)
    (hsavable : Savable s c.story)
    (hdistinct : (stamps s (before ++ c :: rest)).Nodup) : OwnStamp s desk before c rest := by
  rw [stamps_append, stamps_cons_of_savable hsavable] at hdistinct
  obtain ⟨-, hlater, hearlier⟩ := List.nodup_append.mp hdistinct
  have hfirst := sparesBackups_afterSaves hfree.clear htree before
  have hstep := sparesBackups_afterSave hfree.clear hfirst.tree c
  have hlast := sparesBackups_afterSaves hfree.clear hstep.tree rest
  have hsplit : afterSaves s (before ++ c :: rest) desk =
      afterSaves s rest (afterSave s (afterSaves s before desk) c) := afterSaves_append ..
  refine ⟨hfirst.tree, fun kind => ?_, fun kind => ?_, hsplit ▸ hlast.keeps⟩
  · have hname := isBackupName_backupName c.stamp kind
    rw [hfirst.others kind _ hname fun stamp hmem heq => ?_]
    · exact hfree.none kind _ hname
    · exact hearlier stamp hmem c.stamp List.mem_cons_self (stamp_of_backupName heq).symm
  · rw [hsplit]
    refine hlast.others kind _ (isBackupName_backupName c.stamp kind) fun stamp hmem heq => ?_
    obtain rfl := stamp_of_backupName heq
    exact (List.nodup_cons.mp hlater).1 hmem

lemma replacedKept (htree : IsTree desk.files) (hfree : FreeOfBackups s desk.files)
    (hdistinct : (stamps s calls).Nodup) : ReplacedKept s desk calls := by
  rintro before c rest kind content rfl hfile hreplaces
  have hown := ownStamp htree hfree (savable_of_replaces hreplaces) hdistinct
  have hkept := kept_of_replaces hown.tree (hown.free kind) hfile hreplaces
  have hholds := holds_of_standing hkept
  have hthere := hholds.there
  rw [destination_backupPath, ← hown.last, ← destination_backupPath] at hthere
  exact (Holds.mk (locate_of_keeps hown.keeps hholds.located) hthere).standing

lemma backupsTaken (htree : IsTree desk.files) (hfree : FreeOfBackups s desk.files)
    (hdistinct : (stamps s calls).Nodup) : BackupsTaken s desk calls := by
  intro kind name e hname hentry
  have hall := sparesBackups_afterSaves hfree.clear htree calls
  by_cases hmem : ∃ stamp ∈ stamps s calls, name = backupName stamp kind
  · obtain ⟨stamp, hstamp, rfl⟩ := hmem
    obtain ⟨c, hc, rfl⟩ := List.mem_map.mp hstamp
    obtain ⟨hc, hsavable⟩ := List.mem_filter.mp hc
    have hsavable := of_decide_eq_true hsavable
    obtain ⟨before, rest, rfl⟩ := List.append_of_mem hc
    have hown := ownStamp htree hfree hsavable hdistinct
    rw [hown.last, files_afterSave hsavable] at hentry
    obtain ⟨content, hfile, rfl⟩ :=
      own_of_writeTables hfree.clear hown.tree (hown.free kind) hentry
    exact ⟨before, c, rest, content, rfl, rfl, hfile, rfl⟩
  · -- Under a name without a stamp of the run nothing stood at the start, and nothing has changed.
    push Not at hmem
    rw [hall.others kind name hname hmem, hfree.none kind name hname] at hentry
    exact absurd hentry (by simp)

/-- In a run of saves with stamps of their own no replaced content is lost, and there are no
backups but those that were taken. -/
theorem backups_kept (htree : IsTree desk.files) (hfree : FreeOfBackups s desk.files)
    (hdistinct : (stamps s calls).Nodup) : ReplacedKept s desk calls ∧ BackupsTaken s desk calls :=
  ⟨replacedKept htree hfree hdistinct, backupsTaken htree hfree hdistinct⟩

/-- The short story saved twice, a second apart. -/
def cellarSaves : List SaveCall := [⟨⟨0⟩, cellarStory⟩, ⟨⟨1000000⟩, cellarStory⟩]

lemma freeOfBackups_cellarDesk : FreeOfBackups .standard cellarDesk.files := by
  refine freeOfBackups_of_directory rfl fun kind name hname => ?_
  have hplace : besideTables .standard name = ⟨["data", "csv", name]⟩ := rfl
  rw [hplace]
  unfold Workspace.entryAt? Entries.get?
  rw [if_neg (by simp [Path.isAbove, Path.root]), List.lookup_eq_none_iff]
  intro entry hentry
  obtain hentry | hentry := List.mem_append.mp hentry
  · have hshort : ∀ entry ∈ [((⟨["data"]⟩, .directory) : Path × Entry),
        (⟨["data", "csv"]⟩, .directory)], entry.1.names.length < 3 := by simp
    have hlength := hshort entry hentry
    simp only [bne_iff_ne, ne_eq]
    rintro heq
    rw [← heq] at hlength
    simp at hlength
  · obtain ⟨other, -, rfl⟩ := List.mem_map.mp hentry
    have hne : name ≠ other.file := isBackupName_ne_file hname
    simpa [Settings.table, Settings.standard, Path.child] using hne

theorem backups_kept_cellarSaves :
    IsTree cellarDesk.files ∧ FreeOfBackups .standard cellarDesk.files ∧
      (stamps .standard cellarSaves).Nodup ∧
      (∀ kind, standing (afterSaves .standard cellarSaves cellarDesk).files
          (Workspace.backupPath (Settings.standard.table kind) 0) =
        some (.file (Text.encode (cellarStory.table kind)))) ∧
      BackupsTaken .standard cellarDesk cellarSaves := by
  have hdistinct : (stamps .standard cellarSaves).Nodup := by decide +kernel
  obtain ⟨hreplaced, htaken⟩ := backups_kept isTree_cellarDesk freeOfBackups_cellarDesk hdistinct
  refine ⟨isTree_cellarDesk, freeOfBackups_cellarDesk, hdistinct, fun kind => ?_, htaken⟩
  have hstamp : SaveCall.stamp ⟨⟨0⟩, cellarStory⟩ = 0 := by decide +kernel
  rw [← hstamp]
  refine hreplaced [] ⟨⟨0⟩, cellarStory⟩ [⟨⟨1000000⟩, cellarStory⟩] kind _ rfl ?_ (.inl ?_)
  · cases kind <;> rfl
  · obtain ⟨backups, w, hwrite⟩ : ∃ backups w,
        Desk.writeTables .standard (Instant.millis ⟨0⟩) cellarStory cellarDesk.files =
          .ok (backups, w) := ⟨_, _, rfl⟩
    have houtcome : Answers (Desk.save .standard ⟨0⟩ cellarStory) cellarDesk _ _ :=
      answers_save.mpr ⟨savable_cellarStory, ⟨w, hwrite, rfl⟩, rfl, rfl⟩
    exact ⟨_, _, _, congrArg Prod.fst houtcome⟩

end Gamebook.Proofs
