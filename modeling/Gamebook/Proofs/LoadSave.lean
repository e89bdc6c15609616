import Gamebook.Proofs.CompiledStory
import Gamebook.Proofs.Services
import Gamebook.Proofs.TableFiles
import Gamebook.Proofs.WrittenNumbers

/-!
# Loading, saving and loading again

A story that was loaded without errors can be saved as it was sent. Loading it again gives the same
story with a name for every encounter, without further warnings of the compiler, and saving that
story writes the same tables.
-/

namespace Gamebook.Proofs

/-- What a load answers if the tables were written for one story and compile to another one. -/
def reloaded (s : Settings) (written story : Story) : Loaded :=
  ⟨story, (Tables.ofKinds fun kind => Csv.rows (storyLines written kind)).duplicates,
    s.judge story⟩

/-- Tables that hold a story and compile to one that can be checked load without a further
notice. -/
theorem load_of_holdsTables {s : Settings} {desk : Desk} {written story : Story}
    (hholds : HoldsTables desk.files s written) (hfits : FitsFields written)
    (hcompile : (Tables.ofKinds fun kind => Csv.rows (storyLines written kind)).compile =
      pure story) (hreadable : story.isReadable = true) :
    Answers (Desk.load s) desk (reloaded s written story) desk := by
  have hrun := congrArg ExceptT.run hcompile
  rw [answers_load]
  refine ⟨_, (readTables_of_holdsTables hholds).mpr ⟨hfits, rfl⟩, ?_, hreadable, rfl, ?_⟩
  · rw [hrun]
    rfl
  · rw [hrun]
    exact congrArg (Desk.mk desk.files) (List.append_nil desk.notices)

lemma load_of_representable {s : Settings} {desk : Desk} {story : Story}
    (hholds : HoldsTables desk.files s story) (hfits : FitsTables story)
    (h : RepresentableStory story)
    (hreadable : (settledStory (normalStory story)).isReadable = true) :
    Answers (Desk.load s) desk (reloaded s story (settledStory (normalStory story))) desk :=
  load_of_holdsTables hholds hfits.fields
    (compile_of_hold (tablesHold_storyLines (trimmedIds_of_representable h))
      (hasNumberedSlots_iff.mp hfits.numbered) h) hreadable

/-! ## Names of encounters -/

lemma settledStory_namedStory (s : Story) :
    settledStory (namedStory s) = namedStory (settledStory s) := by
  unfold settledStory namedStory
  congr 1
  unfold mapEntities
  congr 1
  rw [List.map_map, List.map_map]
  rfl

@[simp] lemma cells_normalEncounter (e : Encounter) : (normalEncounter e).cells = e.cells := by
  unfold Encounter.cells normalEncounter
  dsimp only
  rw [Option.getD_some, if_neg (nameOrId_ne_empty _ _)]
  rfl

lemma table_namedStory {s : Story} (h : CompiledStory s) (kind : EntityKind) :
    (namedStory s).table kind = s.table kind := by
  cases kind with
  | node => rfl
  | item => rfl
  | enemy => rfl
  | encounter =>
    rw [← h.normal]
    change Csv.write Encounter.columns
        ((s.encounters.toList.map normalEncounter).map Encounter.row) =
      Csv.write Encounter.columns (s.encounters.toList.map Encounter.row)
    rw [List.map_map]
    congr 1
    refine List.map_congr_left fun e _ => ?_
    exact congrArg (List.zip Encounter.columns) (cells_normalEncounter e)

lemma keys_mapEntities {α : Type} [Keyed α] {f : α → α} (hf : ∀ x, Keyed.key (f x) = Keyed.key x)
    (c : Collection α) : (mapEntities f hf c).keys = c.keys := by
  unfold Collection.keys mapEntities
  rw [List.map_map]
  exact List.map_congr_left fun x _ => hf x

@[simp] lemma judge_namedStory (s : Settings) (story : Story) :
    s.judge (namedStory story) = s.judge story := by
  have hkeys : (namedStory story).keys = story.keys := by
    unfold Story.keys
    congr 1
    exact keys_mapEntities (f := namedEncounter) (fun _ => rfl) story.encounters
  have hentities : (namedStory story).entityIssues = story.entityIssues := by
    unfold Story.entityIssues
    rw [hkeys]
    congr 3
    exact List.flatMap_map ..
  have hedges : (namedStory story).edges = story.edges := by
    unfold Story.edges
    congr 1
    exact List.flatMap_map ..
  have hgraph : (namedStory story).graphIssues s.starts s.allowedDeadEnds =
      story.graphIssues s.starts s.allowedDeadEnds := by
    unfold Story.graphIssues Story.orphans
    rw [hedges]
    rfl
  unfold Settings.judge Story.verdict
  rw [hentities, hgraph]

/-! ## Dice are kept -/

@[simp] lemma choiceList_settledNode (n : Node) :
    (settledNode n).choiceList = n.choiceList.map settledChoice := by
  unfold Node.choiceList settledNode
  cases n.choices <;> rfl

@[simp] lemma diceText?_settled (m : Mechanic) :
    (settledMechanic (normalMechanic m)).diceText? = m.diceText? := by
  cases m <;> rfl

/-- Normal forms have the same dice. -/
@[simp] lemma diceTexts_settled (story : Story) :
    (settledStory (normalStory story)).diceTexts = story.diceTexts := by
  have hchoices : ∀ n : Node, (settledNode (normalNode n)).choiceList =
      n.choiceList.map fun c => settledChoice (normalChoice c) := by
    intro n
    rw [choiceList_settledNode, choiceList_normalNode, List.map_map]
    rfl
  have hdice : ∀ c : Choice, (settledChoice (normalChoice c)).mechanic.diceText? =
      c.mechanic.diceText? := fun c => diceText?_settled c.mechanic
  unfold Story.diceTexts settledStory normalStory mapEntities
  simp only [List.map_map, List.flatMap_map, hchoices, List.filterMap_map, Function.comp_def, hdice]
  rfl

/-! ## The round -/

lemma isSound_of_errors {l : Loaded} {s : Settings} (hverdict : l.verdict = s.judge l.story)
    (h : l.errors = []) : (s.judge l.story).isSound = true := by
  rw [← hverdict, ← isSound_attributed]
  unfold Verdict.isSound
  rw [List.isEmpty_iff]
  exact h

lemma errors_of_isSound {l : Loaded} {s : Settings} (hverdict : l.verdict = s.judge l.story)
    (h : (s.judge l.story).isSound = true) : l.errors = [] := by
  rw [← hverdict, ← isSound_attributed] at h
  exact List.isEmpty_iff.mp h

/-- What a table can hold can be written, once its columns can be numbered. -/
lemma savable_of_representable {s : Settings} {story : Story} (h : RepresentableStory story)
    (hreadable : story.isReadable = true) (hsound : (s.judge story).isSound = true)
    (hnumbered : story.hasNumberedSlots = true) : Savable s story where
  readable := hreadable
  sound := hsound
  writable := Bool.and_eq_true_iff.mpr ⟨writable_story h, hnumbered⟩

/-- A story that loads without errors, and whose cells can be read, is saved from the load response
and loads again: with the same entities, but that every encounter has a name, without a notice, and
with the same tables when it is saved once more. -/
theorem load_save_load {s : Settings} {desk loaded : Desk} {l : Loaded} {now : Instant}
    {backups : List Path} {w : Workspace} (hload : Answers (Desk.load s) desk l loaded)
    (hsound : l.errors = []) (hfits : FitsTables l.story)
    (hwrite : Desk.writeTables s now.millis l.story loaded.files = .ok (backups, w)) :
    ∃ story warnings saved again after,
      Story.ofJson l.toJson = .ok story ∧
      Answers (Desk.save s now story) loaded
        (.written (EntityKind.all.map s.table) backups warnings) saved ∧
      Answers (Desk.load s) saved again after ∧
      again.errors = [] ∧ again.story = namedStory l.story ∧ after.notices = saved.notices ∧
      ∀ (later : Instant) (laterBackups : List Path) (laterFiles : Workspace),
        Desk.writeTables s later.millis again.story after.files =
          .ok (laterBackups, laterFiles) →
        ∃ laterWarnings resaved,
          Answers (Desk.save s later again.story) after
            (.written (EntityKind.all.map s.table) laterBackups laterWarnings) resaved ∧
          ∀ kind, ∃ bytes, saved.files.read (s.table kind) = .ok bytes ∧
            resaved.files.read (s.table kind) = .ok bytes := by
  obtain ⟨t, -, hcompile, hreadable, hl, -⟩ := answers_load.mp hload
  have hverdict : l.verdict = s.judge l.story := by rw [hl]
  have hcompiled : CompiledStory l.story := compiledStory_of_compile hcompile
  have hjudged : (s.judge l.story).isSound = true := isSound_of_errors hverdict hsound
  have hholds : HoldsTables w s l.story := holdsTables_of_writeTables hwrite
  have hnamed : settledStory (normalStory l.story) = namedStory l.story := by
    rw [hcompiled.normal, settledStory_namedStory, hcompiled.settled]
  have hagain : Answers (Desk.load s) { loaded with files := w }
      (reloaded s l.story (settledStory (normalStory l.story))) { loaded with files := w } :=
    load_of_representable hholds hfits hcompiled.representable (by rw [hnamed]; exact hreadable)
  rw [hnamed] at hagain
  have hjudgedAgain : (s.judge (namedStory l.story)).isSound = true := by
    rw [judge_namedStory]
    exact hjudged
  have hnamedStory : RepresentableStory (namedStory l.story) := by
    rw [← hcompiled.normal]
    exact representable_normalStory hcompiled.representable
  have hsavable : Savable s l.story :=
    savable_of_representable hcompiled.representable hreadable hjudged hfits.numbered
  have hsavableAgain : Savable s (namedStory l.story) :=
    savable_of_representable hnamedStory hreadable hjudgedAgain hfits.numbered
  refine ⟨l.story, (s.judge l.story).attributed.warnings, { loaded with files := w }, _, _,
    story_ofJson_loaded l, ?_, hagain, errors_of_isSound rfl hjudgedAgain, rfl, rfl, ?_⟩
  · exact answers_save.mpr ⟨hsavable, ⟨w, hwrite, rfl⟩, rfl, rfl⟩
  · intro later laterBackups laterFiles hlater
    refine ⟨_, { loaded with files := laterFiles },
      answers_save.mpr ⟨hsavableAgain, ⟨laterFiles, hlater, rfl⟩, rfl, rfl⟩, fun kind => ?_⟩
    refine ⟨Text.encode (l.story.table kind), hholds kind, ?_⟩
    rw [← table_namedStory hcompiled kind]
    exact holdsTables_of_writeTables hlater kind

lemma savable_cellarStory : Savable .standard cellarStory :=
  ⟨by decide +kernel, by decide +kernel, by decide +kernel⟩

/-- A desk with the tables of a story. -/
def tablesDesk (story : Story) : Desk where
  files := ⟨[(⟨["data"]⟩, .directory), (⟨["data", "csv"]⟩, .directory)] ++
    EntityKind.all.map fun kind =>
      (Settings.standard.table kind, .file (Text.encode (story.table kind)))⟩
  notices := []

lemma holdsTables_tablesDesk (story : Story) :
    HoldsTables (tablesDesk story).files .standard story := by
  intro kind
  cases kind <;> rfl

/-- A desk with the tables of the short story. -/
def cellarDesk : Desk := tablesDesk cellarStory

/-- The short story as it is loaded from its tables. -/
def cellarLoaded : Loaded :=
  reloaded .standard cellarStory (settledStory (normalStory cellarStory))

lemma load_cellarDesk : Answers (Desk.load .standard) cellarDesk cellarLoaded cellarDesk := by
  have hholds : HoldsTables cellarDesk.files .standard cellarStory :=
    holdsTables_tablesDesk cellarStory
  have hfields : FitsFields cellarStory := by
    intro kind
    cases kind <;> decide +kernel
  exact load_of_representable hholds ⟨by decide +kernel, hfields⟩ representable_cellarStory
    (by decide +kernel)

theorem load_save_load_cellarDesk :
    ∃ backups w, Answers (Desk.load .standard) cellarDesk cellarLoaded cellarDesk ∧
      cellarLoaded.errors = [] ∧ FitsTables cellarLoaded.story ∧
      Desk.writeTables .standard (Instant.millis ⟨0⟩) cellarLoaded.story cellarDesk.files =
        .ok (backups, w) ∧
      ∃ saved again after, Answers (Desk.load .standard) saved again after ∧
        again.story = namedStory cellarLoaded.story := by
  have hsound : cellarLoaded.errors = [] := errors_of_isSound rfl (by decide +kernel)
  have hfields : FitsFields cellarLoaded.story := by
    intro kind
    cases kind <;> decide +kernel
  have hfits : FitsTables cellarLoaded.story := ⟨by decide +kernel, hfields⟩
  obtain ⟨backups, w, hwrite⟩ : ∃ backups w,
      Desk.writeTables .standard (Instant.millis ⟨0⟩) cellarLoaded.story cellarDesk.files =
        .ok (backups, w) := ⟨_, _, rfl⟩
  obtain ⟨_, _, saved, again, after, -, -, hagain, -, hstory, -, -⟩ :=
    load_save_load load_cellarDesk hsound hfits hwrite
  exact ⟨backups, w, load_cellarDesk, hsound, hfits, hwrite, saved, again, after, hagain, hstory⟩

end Gamebook.Proofs
