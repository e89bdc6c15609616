import Gamebook.Proofs.LoadSave
import Gamebook.Proofs.WrittenTogether

/-!
# Saving all tables or none

A story is saved whole: all its tables are written and their old content is kept under the time of
saving, or all tables are as they were. A directory in the place of a table, which would tear the
tables, stops the backups before anything is written. The directory of the tables must not lead back
from a directory that is missing: staging makes that directory, and a table comes into view only
then.
-/

namespace Gamebook.Proofs

variable {s : Settings} {story : Story} {v w x : Workspace} {stamp : Int} {p : Path}
variable {kind other : EntityKind}

/-! ## Backups -/

/-- The path where a copy of a file is kept: the backup path, or one in the directory that stands
there. -/
def backupSpot (w : Workspace) (stamp : Int) (p : Path) : Path :=
  if w.isDirectory (Workspace.backupPath p stamp) then
    (Workspace.backupPath p stamp).child p.name
  else Workspace.backupPath p stamp

lemma isDirectory_eq (w : Workspace) (p : Path) :
    w.isDirectory p = (standing w p).any Entry.isDirectory := by
  unfold Workspace.isDirectory standing
  cases w.find p <;> rfl

lemma backupSpot_congr
    (h : standing w (Workspace.backupPath p stamp) = standing v (Workspace.backupPath p stamp)) :
    backupSpot w stamp p = backupSpot v stamp p := by
  unfold backupSpot
  rw [isDirectory_eq, isDirectory_eq, h]

lemma standing_of_missing {fault : FileFault} (h : v.read p = .error fault)
    (hmissing : fault.cause = .missing) : standing v p = none := by
  unfold Workspace.read at h
  unfold standing
  split at h
  · exact absurd h (by simp)
  · obtain rfl := Except.error.inj h
    exact absurd hmissing (by simp)
  · rename_i hfind
    rw [hfind]
    rfl

lemma enter_of_file {content : ByteArray} (h : standing w p = some (.file content)) :
    w.enter .here p.parent.names = .ok (destination p.parent) := by
  have hp : p ≠ .here := by
    rintro rfl
    have hhere : standing w .here = some .directory := rfl
    rw [hhere] at h
    exact absurd h (by simp)
  cases hlocate : w.locate p with
  | ok q => exact exists_enter_of_locate hlocate hp
  | error cause =>
    rw [standing_of_locate_error hlocate] at h
    exact absurd h (by simp)

lemma locate_backupSpot {content : ByteArray} (h : standing v p = some (.file content)) :
    v.locate (backupSpot v stamp p) = .ok (destination (backupSpot v stamp p)) := by
  have hbackup : v.locate (Workspace.backupPath p stamp) =
      .ok (destination (Workspace.backupPath p stamp)) := by
    have hparent : (Workspace.backupPath p stamp).parent = p.parent := parent_child _ _
    have henter := enter_of_file h
    rw [← hparent] at henter
    exact locate_of_enter henter
  unfold backupSpot
  split
  · rename_i hdirectory
    rw [isDirectory_eq, standing_of_locate hbackup] at hdirectory
    have henter := enter_of_directory hbackup (directory_of_any hdirectory)
    rw [← parent_child (Workspace.backupPath p stamp) p.name] at henter
    exact locate_of_enter henter
  · exact hbackup

lemma copy_of_read {content : ByteArray} (h : v.read p = .ok content) :
    v.copy p (Workspace.backupPath p stamp) = v.write (backupSpot v stamp p) content := by
  unfold Workspace.copy
  rw [h]
  rfl

lemma copy_of_unread {target : Path} {fault : FileFault} (h : v.read p = .error fault) :
    v.copy p target = .error fault := by
  unfold Workspace.copy
  rw [h]

lemma cause_ne_missing {content : ByteArray} {fault : FileFault}
    (h : standing v p = some (.file content))
    (hwrite : v.write (backupSpot v stamp p) content = .error fault) : fault.cause ≠ .missing := by
  unfold Workspace.write at hwrite
  rw [locate_backupSpot h] at hwrite
  dsimp only at hwrite
  split at hwrite
  · obtain rfl := Except.error.inj hwrite
    simp
  · exact absurd hwrite (by simp)

/-- A backup that succeeds found nothing, or keeps what it found. -/
lemma backup_ok {kept : Option Path} (h : v.backup stamp p = .ok (kept, w)) :
    standing v p = none ∧ w = v ∨
      ∃ content, standing v p = some (.file content) ∧
        Alters [destination (backupSpot v stamp p)] [] v w ∧
        Holds w (backupSpot v stamp p) content := by
  unfold Workspace.backup at h
  cases hread : v.read p with
  | error fault =>
    rw [copy_of_unread hread] at h
    dsimp only at h
    split at h
    · rename_i hmissing
      obtain ⟨-, rfl⟩ := Prod.mk.inj (Except.ok.inj h)
      exact .inl ⟨standing_of_missing hread hmissing, rfl⟩
    · exact absurd h (by simp)
  | ok content =>
    rw [copy_of_read hread] at h
    have hfile := standing_of_read hread
    cases hwrite : v.write (backupSpot v stamp p) content with
    | ok y =>
      rw [hwrite] at h
      obtain ⟨-, rfl⟩ := Prod.mk.inj (Except.ok.inj h)
      exact .inr ⟨content, hfile, alters_write hwrite⟩
    | error fault =>
      rw [hwrite] at h
      dsimp only at h
      rw [if_neg (cause_ne_missing hfile hwrite)] at h
      exact absurd h (by simp)

/-- What goes wrong is that something cannot be written. -/
def IsUnwritable (failure : StorageFailure) : Prop := ∃ path fault, failure = .unwritable path fault

lemma backup_error {failure : StorageFailure} (h : v.backup stamp p = .error failure) :
    IsUnwritable failure := by
  unfold Workspace.backup at h
  split at h
  · exact absurd h (by simp)
  · rename_i fault _
    split at h
    · exact absurd h (by simp)
    · exact ⟨_, fault, (Except.error.inj h).symm⟩

/-! ## Where tables are kept -/

/-- The name under which the table of a kind is backed up. -/
def backupName (stamp : Int) (kind : EntityKind) : String :=
  kind.file ++ (".bak." ++ String.ofList (intText stamp))

lemma file_injective {a b : EntityKind} (h : a.file = b.file) : a = b := by
  cases a <;> cases b <;> first | rfl | exact absurd h (by decide)

lemma backupName_injective (h : backupName stamp kind = backupName stamp other) :
    kind = other := by
  have hlist := congrArg String.toList h
  unfold backupName at hlist
  simp only [String.toList_append] at hlist
  exact file_injective (String.toList_inj.mp (List.append_cancel_right hlist))

lemma backupName_ne {name : String} (h : ¬(kind.file ++ ".bak.").toList <+: name.toList) :
    backupName stamp kind ≠ name := by
  rintro rfl
  refine h ⟨(String.ofList (intText stamp)).toList, ?_⟩
  unfold backupName
  simp only [String.toList_append, List.append_assoc]

lemma backupName_ne_file : backupName stamp kind ≠ other.file :=
  backupName_ne (by cases kind <;> cases other <;> decide)

lemma backupName_ne_staging : backupName stamp kind ≠ stagingName other.file :=
  backupName_ne (by cases kind <;> cases other <;> decide)

lemma plain_file (kind : EntityKind) : Plain kind.file := by
  unfold Plain
  cases kind <;> decide

lemma destination_table :
    destination (s.table kind) = (destination s.tables).child kind.file :=
  destination_child s.tables (plain_file kind).1

lemma stagingPlace_table :
    stagingPlace (s.table kind) = (destination s.tables).child (stagingName kind.file) := by
  unfold stagingPlace Settings.table
  rw [staging_child]
  exact destination_child s.tables (plain_stagingName kind.file).1

lemma backupPath_table :
    Workspace.backupPath (s.table kind) stamp = s.tables.child (backupName stamp kind) := by
  unfold Workspace.backupPath Path.withEnding Settings.table
  rw [parent_child, name_child]
  rfl

lemma backupName_ne_back : backupName stamp kind ≠ ".." :=
  backupName_ne (by cases kind <;> decide)

/-- The place where the table of a kind is kept. -/
def keptPlace (s : Settings) (stamp : Int) (w : Workspace) (kind : EntityKind) : Path :=
  destination (backupSpot w stamp (s.table kind))

lemma names_keptPlace (s : Settings) (stamp : Int) (w : Workspace) (kind : EntityKind) :
    ∃ rest, (keptPlace s stamp w kind).names =
      (destination s.tables).names ++ backupName stamp kind :: rest := by
  unfold keptPlace backupSpot
  rw [backupPath_table]
  split
  · unfold Settings.table
    rw [name_child, destination_child _ (plain_file kind).1, destination_child _ backupName_ne_back]
    exact ⟨[kind.file], by simp [Path.child]⟩
  · rw [destination_child _ backupName_ne_back]
    exact ⟨[], rfl⟩

lemma child_ne_keptPlace {name : String} (h : backupName stamp kind ≠ name) :
    (destination s.tables).child name ≠ keptPlace s stamp w kind := by
  obtain ⟨rest, hrest⟩ := names_keptPlace s stamp w kind
  intro heq
  rw [← heq] at hrest
  exact h (List.cons.inj (List.append_cancel_left hrest)).1.symm

lemma table_ne_keptPlace : destination (s.table other) ≠ keptPlace s stamp w kind := by
  rw [destination_table]
  exact child_ne_keptPlace backupName_ne_file

lemma keptPlace_ne (h : kind ≠ other) : keptPlace s stamp v kind ≠ keptPlace s stamp w other := by
  obtain ⟨rest, hrest⟩ := names_keptPlace s stamp v kind
  obtain ⟨rest', hrest'⟩ := names_keptPlace s stamp w other
  intro heq
  rw [heq, hrest'] at hrest
  exact h (backupName_injective (List.cons.inj (List.append_cancel_left hrest)).1.symm)

/-! ## All backups -/

lemma goesForward_table (h : GoesForward w s.tables) (kind : EntityKind) :
    GoesForward w (s.table kind) :=
  goesForward_child h (plain_file kind).1

/-- A backup does not reach the tables. -/
lemma standing_table_of_kept {kinds : List EntityKind} (htree : IsTree v)
    (hforward : GoesForward v s.tables)
    (h : Alters (kinds.map (keptPlace s stamp v)) [] v w) (kind : EntityKind) :
    standing w (s.table kind) = standing v (s.table kind) := by
  refine h.standing_same htree (goesForward_table hforward kind) ?_ (by simp)
  intro hmem
  obtain ⟨other, -, heq⟩ := List.mem_map.mp hmem
  exact table_ne_keptPlace heq.symm

/-- A backup of one table does not reach the places where the others are kept. -/
lemma backupSpot_of_kept (htree : IsTree v) (hforward : GoesForward v s.tables)
    (h : Alters [keptPlace s stamp v kind] [] v w) (hne : kind ≠ other) :
    backupSpot w stamp (s.table other) = backupSpot v stamp (s.table other) := by
  refine backupSpot_congr ?_
  rw [backupPath_table]
  refine h.standing_same htree (goesForward_child hforward backupName_ne_back) ?_ (by simp)
  rw [destination_child _ backupName_ne_back, List.mem_singleton]
  exact child_ne_keptPlace fun heq => hne (backupName_injective heq)

/-- What a table left to its backup. -/
structure Kept (s : Settings) (stamp : Int) (v w : Workspace) (kind : EntityKind) : Prop where
  notDirectory : standing v (s.table kind) ≠ some .directory
  copied : ∀ content, standing v (s.table kind) = some (.file content) →
    Holds w (backupSpot v stamp (s.table kind)) content

lemma kept_of_backup {backup : Option Path}
    (h : v.backup stamp (s.table kind) = .ok (backup, w)) :
    Alters [keptPlace s stamp v kind] [] v w ∧ Kept s stamp v w kind := by
  obtain ⟨hnone, rfl⟩ | ⟨content, hfile, halters, hholds⟩ := backup_ok h
  · refine ⟨.refl _ _ _, ?_, ?_⟩
    · rw [hnone]
      simp
    · intro content hfile
      rw [hnone] at hfile
      exact absurd hfile (by simp)
  · refine ⟨halters, ?_, ?_⟩
    · rw [hfile]
      simp
    · intro content' hfile'
      rw [hfile] at hfile'
      obtain rfl := Entry.file.inj (Option.some.inj hfile')
      exact hholds

section

variable {kinds : List EntityKind}

lemma keptPlaces_of_kept (htree : IsTree v) (hforward : GoesForward v s.tables)
    (h : Alters [keptPlace s stamp v kind] [] v x) (hnew : kind ∉ kinds) :
    kinds.map (keptPlace s stamp x) = kinds.map (keptPlace s stamp v) :=
  List.map_congr_left fun _ hother =>
    congrArg destination (backupSpot_of_kept htree hforward h fun heq => hnew (heq ▸ hother))

lemma alters_cons (htree : IsTree v) (hforward : GoesForward v s.tables)
    (hfirst : Alters [keptPlace s stamp v kind] [] v x) (hnew : kind ∉ kinds)
    (hlater : Alters (kinds.map (keptPlace s stamp x)) [] x w) :
    Alters ((kind :: kinds).map (keptPlace s stamp v)) [] v w := by
  rw [keptPlaces_of_kept htree hforward hfirst hnew] at hlater
  exact (hfirst.mono (List.cons_subset_cons _ (List.nil_subset _)) (List.Subset.refl _)).trans
    (hlater.mono (List.subset_cons_self _ _) (List.Subset.refl _))

/-- Later backups leave the first copy, and find the other tables as they were. -/
lemma kept_cons (htree : IsTree v) (hforward : GoesForward v s.tables)
    (hfirst : Alters [keptPlace s stamp v kind] [] v x) (hkept : Kept s stamp v x kind)
    (hnew : kind ∉ kinds) (hlater : Alters (kinds.map (keptPlace s stamp x)) [] x w)
    (hkepts : ∀ other ∈ kinds, Kept s stamp x w other) :
    ∀ other ∈ kind :: kinds, Kept s stamp v w other := by
  intro other hother
  obtain rfl | hother := List.mem_cons.mp hother
  · refine ⟨hkept.notDirectory, fun content hfile => ?_⟩
    refine (hkept.copied content hfile).alters hlater fun hmem => ?_
    obtain ⟨third, hthird, heq⟩ := List.mem_map.mp hmem
    have hne : other ≠ third := fun heq => hnew (heq ▸ hthird)
    exact keptPlace_ne hne heq.symm
  · obtain ⟨hnot, hcopied⟩ := hkepts other hother
    have hone : Alters ([kind].map (keptPlace s stamp v)) [] v x := hfirst
    rw [standing_table_of_kept htree hforward hone other] at hnot hcopied
    rw [backupSpot_of_kept htree hforward hfirst fun heq => hnew (heq ▸ hother)] at hcopied
    exact ⟨hnot, hcopied⟩

lemma kept_of_backupAll {backups : List Path} (hnodup : kinds.Nodup) (htree : IsTree v)
    (hforward : GoesForward v s.tables)
    (h : v.backupAll stamp (kinds.map s.table) = .ok (backups, w)) :
    Alters (kinds.map (keptPlace s stamp v)) [] v w ∧ ∀ kind ∈ kinds, Kept s stamp v w kind := by
  induction kinds generalizing v backups with
  | nil =>
    obtain ⟨-, rfl⟩ := Prod.mk.inj (Except.ok.inj h)
    exact ⟨.refl _ _ _, by simp⟩
  | cons kind kinds ih =>
    obtain ⟨hnew, hrest⟩ := List.nodup_cons.mp hnodup
    rw [List.map_cons, Workspace.backupAll] at h
    split at h
    · exact absurd h (by simp)
    · rename_i x hbackup
      split at h
      · exact absurd h (by simp)
      · rename_i hothers
        obtain ⟨-, rfl⟩ := Prod.mk.inj (Except.ok.inj h)
        obtain ⟨hfirst, hkept⟩ := kept_of_backup hbackup
        obtain ⟨hlater, hkepts⟩ :=
          ih hrest (hfirst.tree htree) (goesForward_of_keeps hfirst.keeps hforward) hothers
        exact ⟨alters_cons htree hforward hfirst hnew hlater,
          kept_cons htree hforward hfirst hkept hnew hlater hkepts⟩

lemma alters_of_backupAll {failure : StorageFailure} (hnodup : kinds.Nodup) (htree : IsTree v)
    (hforward : GoesForward v s.tables)
    (h : v.backupAll stamp (kinds.map s.table) = .error (failure, w)) :
    Alters (kinds.map (keptPlace s stamp v)) [] v w ∧ IsUnwritable failure := by
  induction kinds generalizing v with
  | nil => exact absurd h (by simp [Workspace.backupAll])
  | cons kind kinds ih =>
    obtain ⟨hnew, hrest⟩ := List.nodup_cons.mp hnodup
    rw [List.map_cons, Workspace.backupAll] at h
    split at h
    · rename_i hbackup
      obtain ⟨rfl, rfl⟩ := Prod.mk.inj (Except.error.inj h)
      exact ⟨.refl _ _ _, backup_error hbackup⟩
    · rename_i x hbackup
      split at h
      · rename_i hothers
        rw [Except.error.inj h] at hothers
        obtain ⟨hfirst, -⟩ := kept_of_backup hbackup
        obtain ⟨hlater, hfailure⟩ :=
          ih hrest (hfirst.tree htree) (goesForward_of_keeps hfirst.keeps hforward) hothers
        exact ⟨alters_cons htree hforward hfirst hnew hlater, hfailure⟩
      · exact absurd h (by simp)

end

/-! ## Written tables -/

/-- The texts of the tables of a story, with their paths. -/
def tableTexts (s : Settings) (story : Story) : List (Path × String) :=
  EntityKind.all.map fun kind => (s.table kind, story.table kind)

lemma mem_all (kind : EntityKind) : kind ∈ EntityKind.all := by cases kind <;> decide

lemma mem_tableTexts (s : Settings) (story : Story) (kind : EntityKind) :
    (s.table kind, story.table kind) ∈ tableTexts s story :=
  List.mem_map.mpr ⟨kind, mem_all kind, rfl⟩

lemma ways_tableTexts : ways (tableTexts s story) ⊆ s.tables.way := by
  intro q hq
  obtain ⟨t, ht, hway⟩ := List.mem_flatMap.mp hq
  obtain ⟨kind, -, rfl⟩ := List.mem_map.mp ht
  unfold Settings.table at hway
  rwa [parent_child] at hway

lemma distinct_tableTexts : Distinct (tableTexts s story) := by
  have hplaces : stagings (tableTexts s story) ++ targets (tableTexts s story) =
      (EntityKind.all.map (fun kind => stagingName kind.file) ++
        EntityKind.all.map EntityKind.file).map (destination s.tables).child := by
    unfold stagings targets tableTexts
    rw [List.map_append, List.map_map, List.map_map, List.map_map, List.map_map]
    congr 1
    · exact List.map_congr_left fun kind _ => stagingPlace_table
    · exact List.map_congr_left fun kind _ => destination_table
  unfold Distinct
  rw [hplaces]
  refine List.Nodup.map (fun _ _ heq => child_injective heq) ?_
  unfold stagingName
  decide

lemma separate_tableTexts (h : GoesForward w s.tables) : Separate w (tableTexts s story) := by
  refine ⟨distinct_tableTexts, fun t ht hway hmissing => ?_, fun t ht => ?_⟩
  · obtain ⟨kind, -, rfl⟩ := List.mem_map.mp ht
    have hprefix := (prefix_of_missing h (ways_tableTexts hway) hmissing).length_le
    dsimp only at hprefix
    rw [destination_table] at hprefix
    simp [Path.child] at hprefix
  · obtain ⟨kind, -, rfl⟩ := List.mem_map.mp ht
    exact goesForward_table h kind

/-- What writing the tables of a story whole does to the files. -/
structure SavedWhole (s : Settings) (stamp : Int) (story : Story) (v w : Workspace) : Prop where
  tables : ∀ kind, standing w (s.table kind) = some (.file (Text.encode (story.table kind)))
  staged : ∀ kind, standing w (Workspace.staging (s.table kind)) = none
  kept : ∀ kind content, standing v (s.table kind) = some (.file content) →
    standing w (backupSpot v stamp (s.table kind)) = some (.file content)
  others : ∀ p, (∀ kind, p ≠ destination (s.table kind) ∧ p ≠ stagingPlace (s.table kind) ∧
      p ≠ keptPlace s stamp v kind) →
    w.entryAt? p = v.entryAt? p ∨
      p ∈ s.tables.way ∧ v.entryAt? p = none ∧ w.entryAt? p = some .directory

lemma keptPlace_notMem : keptPlace s stamp v kind ∉
    stagings (tableTexts s story) ++ targets (tableTexts s story) := by
  intro hmem
  obtain hmem | hmem := List.mem_append.mp hmem
  · obtain ⟨t, ht, heq⟩ := List.mem_map.mp hmem
    obtain ⟨other, -, rfl⟩ := List.mem_map.mp ht
    dsimp only at heq
    rw [stagingPlace_table] at heq
    exact child_ne_keptPlace backupName_ne_staging heq
  · obtain ⟨t, ht, heq⟩ := List.mem_map.mp hmem
    obtain ⟨other, -, rfl⟩ := List.mem_map.mp ht
    exact table_ne_keptPlace heq

lemma savedWhole_of_kept (htree : IsTree v) (hforward : GoesForward v s.tables)
    (hbackups : Alters (EntityKind.all.map (keptPlace s stamp v)) [] v x)
    (hkept : ∀ kind ∈ EntityKind.all, Kept s stamp v x kind)
    (hwrite : x.writeTexts (tableTexts s story) = .ok w) : SavedWhole s stamp story v w := by
  obtain ⟨halters, hholds, hgone⟩ := writeTexts_ok distinct_tableTexts hwrite
  have hforward' :=
    goesForward_of_keeps halters.keeps (goesForward_of_keeps hbackups.keeps hforward)
  refine ⟨fun kind => (hholds _ (mem_tableTexts s story kind)).standing, fun kind => ?_,
    fun kind content hfile => ?_, fun p hp => ?_⟩
  · rw [standing_staging (halters.tree (hbackups.tree htree)) (goesForward_table hforward' kind)]
    exact hgone _ (mem_tableTexts s story kind)
  · exact (((hkept kind (mem_all kind)).copied content hfile).alters halters
      keptPlace_notMem).standing
  · have hall := (hbackups.mono (List.subset_append_left _ _) (List.nil_subset _)).trans
      (halters.mono (List.subset_append_right _ _) ways_tableTexts)
    refine hall.frame p fun hmem => ?_
    simp only [List.mem_append, stagings, targets, tableTexts, List.mem_map] at hmem
    obtain ⟨kind, -, rfl⟩ | ⟨t, ⟨kind, -, rfl⟩, rfl⟩ | ⟨t, ⟨kind, -, rfl⟩, rfl⟩ := hmem
    · exact (hp kind).2.2 rfl
    · exact (hp kind).2.1 rfl
    · exact (hp kind).1 rfl

/-- Backups that succeeded met no directory in the place of a table, so that tables are not torn. -/
lemma unchanged_of_kept {failure : StorageFailure} (htree : IsTree v)
    (hforward : GoesForward v s.tables)
    (hbackups : Alters (EntityKind.all.map (keptPlace s stamp v)) [] v x)
    (hkept : ∀ kind ∈ EntityKind.all, Kept s stamp v x kind)
    (hwrite : x.writeTexts (tableTexts s story) = .error (failure, w)) (kind : EntityKind) :
    standing w (s.table kind) = standing v (s.table kind) := by
  have hforward' := goesForward_of_keeps hbackups.keeps hforward
  have hseparate : Separate x (tableTexts s story) := separate_tableTexts hforward'
  have htables := standing_table_of_kept htree hforward hbackups
  rw [← htables kind]
  obtain hwithdrawn | ⟨done, t, rest, hstopped⟩ := writeTexts_error distinct_tableTexts hwrite
  · exact (unchanged_of_withdrawn (hbackups.tree htree) hseparate hwithdrawn
      (mem_tableTexts s story kind)).1
  · obtain ⟨htexts, y, hstage, -, hdirectory, -⟩ := hstopped
    have ht : t ∈ tableTexts s story := by
      rw [htexts]
      simp
    rw [hseparate.same hstage (List.Subset.refl _) ht] at hdirectory
    obtain ⟨other, hother, rfl⟩ := List.mem_map.mp ht
    refine absurd ?_ (hkept other hother).notDirectory
    rw [← htables other, standing_eq (hbackups.tree htree) (goesForward_table hforward' other)]
    exact hdirectory

/-! ## Saving -/

lemma unwritable_of_writeText {text : String} {failure : StorageFailure}
    (h : v.writeText p text = .error (failure, w)) : IsUnwritable failure := by
  unfold Workspace.writeText at h
  split at h
  · rename_i fault _ _
    exact ⟨p, fault, (Prod.mk.inj (Except.error.inj h)).1.symm⟩
  · split at h
    · rename_i fault _
      exact ⟨p, fault, (Prod.mk.inj (Except.error.inj h)).1.symm⟩
    · exact absurd h (by simp)

lemma unwritable_of_stage {texts : List (Path × String)} {staged : List Path}
    {failure : StorageFailure} (h : v.stage staged texts = .error (failure, w)) :
    IsUnwritable failure := by
  induction texts generalizing v staged with
  | nil => exact absurd h (by simp [Workspace.stage])
  | cons t texts ih =>
    rw [Workspace.stage] at h
    split at h
    · exact ih h
    · rename_i hwrite
      rw [(Prod.mk.inj (Except.error.inj h)).1] at hwrite
      exact unwritable_of_writeText hwrite

lemma unwritable_of_swap {ps : List Path} {failure : StorageFailure}
    (h : v.swap ps = .error (failure, w)) : IsUnwritable failure := by
  induction ps generalizing v with
  | nil => exact absurd h (by simp [Workspace.swap])
  | cons p ps ih =>
    rw [Workspace.swap] at h
    split at h
    · exact ih h
    · rename_i fault _
      exact ⟨p, fault, (Prod.mk.inj (Except.error.inj h)).1.symm⟩

lemma unwritable_of_writeTexts {texts : List (Path × String)} {failure : StorageFailure}
    (h : v.writeTexts texts = .error (failure, w)) : IsUnwritable failure := by
  unfold Workspace.writeTexts at h
  split at h
  · exact unwritable_of_swap h
  · rename_i hstage
    rw [Except.error.inj h] at hstage
    exact unwritable_of_stage hstage

/-- The tables of a story are written whole, or they are as they were. -/
lemma writeTables_allOrNothing (htree : IsTree v) (hforward : GoesForward v s.tables)
    (stamp : Int) (story : Story) :
    match Desk.writeTables s stamp story v with
    | .ok (_, w) => SavedWhole s stamp story v w
    | .error (failure, w) =>
      IsUnwritable failure ∧ ∀ kind, standing w (s.table kind) = standing v (s.table kind) := by
  have hnodup : EntityKind.all.Nodup := by decide
  unfold Desk.writeTables
  cases hbackups : v.backupAll stamp (EntityKind.all.map s.table) with
  | error result =>
    obtain ⟨failure, x⟩ := result
    obtain ⟨halters, hfailure⟩ := alters_of_backupAll hnodup htree hforward hbackups
    exact ⟨hfailure, standing_table_of_kept htree hforward halters⟩
  | ok result =>
    obtain ⟨backups, x⟩ := result
    obtain ⟨halters, hkept⟩ := kept_of_backupAll hnodup htree hforward hbackups
    dsimp only
    cases hwrite : x.writeTexts
        (EntityKind.all.map fun kind => (s.table kind, story.table kind)) with
    | error result =>
      obtain ⟨failure, w⟩ := result
      exact ⟨unwritable_of_writeTexts hwrite, unchanged_of_kept htree hforward halters hkept hwrite⟩
    | ok w => exact savedWhole_of_kept htree hforward halters hkept hwrite

/-- What saving a story may come to: it is rejected and nothing changes, its check or a number in it
stops the save and nothing changes, something cannot be written and every table is as it was, or the
tables are written whole. -/
inductive AllOrNothing (s : Settings) (stamp : Int) (story : Story) (v : Workspace) :
    Except Stop Saved × Desk → Prop where
  | rejected {verdict : Verdict} {after : Desk} (h : after.files = v) :
    AllOrNothing s stamp story v (.ok (.rejected verdict), after)
  | stopped {after : Desk} (h : after.files = v) :
    AllOrNothing s stamp story v (.error .oversized, after)
  | failed {path : Path} {fault : FileFault} {after : Desk}
    (h : ∀ kind, standing after.files (s.table kind) = standing v (s.table kind)) :
    AllOrNothing s stamp story v (.error (.failure (.storage (.unwritable path fault))), after)
  | written {tables backups : List Path} {warnings : List Diagnostic} {after : Desk}
    (h : SavedWhole s stamp story v after.files) :
    AllOrNothing s stamp story v (.ok (.written tables backups warnings), after)

/-- Saving writes all tables or none. -/
theorem save_allOrNothing {desk : Desk} (htree : IsTree desk.files)
    (hforward : GoesForward desk.files s.tables) (now : Instant) (story : Story) :
    AllOrNothing s now.millis story desk.files (outcome (Desk.save s now story) desk) := by
  by_cases hsavable : Savable s story
  · rw [outcome_save_of_savable hsavable]
    have hwhole := writeTables_allOrNothing htree hforward now.millis story
    cases hwrite : Desk.writeTables s now.millis story desk.files with
    | ok result =>
      rw [hwrite] at hwhole
      exact .written hwhole
    | error result =>
      obtain ⟨failure, w⟩ := result
      rw [hwrite] at hwhole
      obtain ⟨⟨path, fault, rfl⟩, hsame⟩ := hwhole
      exact .failed hsame
  · rw [outcome_save]
    split
    · split
      · split
        · exact absurd ⟨‹_›, ‹_›, ‹_›⟩ hsavable
        · exact .stopped rfl
      · exact .rejected rfl
    · exact .stopped rfl

lemma isTree_cellarDesk : IsTree cellarDesk.files := by
  refine isTree_of_entries fun entry hentry => ?_
  obtain hentry | hentry := List.mem_append.mp hentry
  · have hparent : ∀ p ∈ [⟨["data"]⟩, (⟨["data", "csv"]⟩ : Path)],
        cellarDesk.files.entryAt? p.parent = some .directory := by
      simp only [List.mem_cons, List.not_mem_nil, or_false, forall_eq_or_imp, forall_eq]
      exact ⟨rfl, rfl⟩
    exact hparent _ (List.mem_map.mpr ⟨entry, hentry, rfl⟩)
  · obtain ⟨kind, -, rfl⟩ := List.mem_map.mp hentry
    rfl

theorem save_allOrNothing_cellarDesk :
    IsTree cellarDesk.files ∧ GoesForward cellarDesk.files Settings.standard.tables ∧
      ∃ backups warnings after,
        outcome (Desk.save .standard ⟨0⟩ cellarStory) cellarDesk =
          (.ok (.written (EntityKind.all.map Settings.standard.table) backups warnings), after) ∧
        SavedWhole .standard (Instant.millis ⟨0⟩) cellarStory cellarDesk.files after.files := by
  have hforward : GoesForward cellarDesk.files Settings.standard.tables :=
    goesForward_of_notMem (by decide)
  obtain ⟨backups, w, hwrite⟩ : ∃ backups w,
      Desk.writeTables .standard (Instant.millis ⟨0⟩) cellarStory cellarDesk.files =
        .ok (backups, w) := ⟨_, _, rfl⟩
  have houtcome : Answers (Desk.save .standard ⟨0⟩ cellarStory) cellarDesk
      (.written (EntityKind.all.map Settings.standard.table) backups
        (Settings.standard.judge cellarStory).attributed.warnings)
      { cellarDesk with files := w } :=
    answers_save.mpr ⟨savable_cellarStory, ⟨w, hwrite, rfl⟩, rfl, rfl⟩
  unfold Answers at houtcome
  have hwhole := save_allOrNothing isTree_cellarDesk hforward ⟨0⟩ cellarStory
  rw [houtcome] at hwhole
  cases hwhole with
  | written h => exact ⟨isTree_cellarDesk, hforward, backups, _, _, houtcome, h⟩

end Gamebook.Proofs
