import Gamebook.Proofs.LoadSave
import Gamebook.Proofs.SameStories
import Gamebook.Proofs.Tidied

/-!
# Saving and loading

What becomes of a story that was saved when it is loaded: exactly the stories that are representable
but for the white space around their free texts, and whose cells and trimmed dice can be read, come
back without errors and with the same normal form.
-/

namespace Gamebook.Proofs

/-! ## Soundness is kept -/

/-- None of the issues is an error. -/
def ErrorFree (issues : List Issue) : Prop :=
  ∀ issue ∈ issues, issue.diagnostic.severity ≠ .error

@[simp] lemma errorFree_append {issues issues' : List Issue} :
    ErrorFree (issues ++ issues') ↔ ErrorFree issues ∧ ErrorFree issues' :=
  List.forall_mem_append

lemma errorFree_flatMap {α : Type} {l : List α} {f : α → List Issue} :
    ErrorFree (l.flatMap f) ↔ ∀ x ∈ l, ErrorFree (f x) := by
  unfold ErrorFree
  simp only [List.mem_flatMap]
  exact ⟨fun h x hx issue hissue => h issue ⟨x, hx, hissue⟩,
    fun h issue ⟨x, hx, hissue⟩ => h x hx issue hissue⟩

lemma errorFree_warning (condition : Bool) {issue : Issue}
    (h : issue.diagnostic.severity = .warning) : ErrorFree (issueIf condition issue) := by
  intro found hfound
  unfold issueIf at hfound
  cases condition with
  | false => exact absurd hfound (by simp)
  | true =>
    rw [if_pos rfl, List.mem_singleton] at hfound
    rw [hfound, h]
    decide

lemma isSound_iff {s : Settings} {story : Story} :
    (s.judge story).isSound = true ↔ ErrorFree story.entityIssues := by
  have hgraph : ErrorFree (story.graphIssues s.starts s.allowedDeadEnds) := by
    unfold Story.graphIssues
    rw [errorFree_append]
    refine ⟨?_, ?_⟩
    · intro issue hissue
      obtain ⟨id, -, rfl⟩ := List.mem_map.mp hissue
      simp [Issue.diagnostic, Issue.warning]
    · intro issue hissue
      obtain ⟨id, -, rfl⟩ := List.mem_map.mp hissue
      simp [Issue.diagnostic, Issue.warning]
  have hall : (s.judge story).isSound = true ↔
      ErrorFree (story.entityIssues ++ story.graphIssues s.starts s.allowedDeadEnds) := by
    unfold Settings.judge Story.verdict Verdict.ofDiagnostics Verdict.isSound ErrorFree
    rw [List.isEmpty_iff, List.filter_eq_nil_iff, List.forall_mem_map]
    simp only [decide_eq_true_eq]
  rw [hall, errorFree_append]
  exact and_iff_left hgraph

@[simp] lemma getD_withoutEmpty (o : Option String) : (withoutEmpty o).getD "" = o.getD "" := by
  rw [withoutEmpty_eq]
  unfold Mechanic.filled?
  by_cases h : o.getD "" = ""
  · rw [if_pos h, h]
    rfl
  · rw [if_neg h]
    rfl

variable (keys : Keys)

lemma check_mechanic (place : ChoicePlace) (m : Mechanic) :
    Check.mechanic keys place (settledMechanic (normalMechanic m)) =
      Check.mechanic keys place m := by
  cases m with
  | navigate nodeId => rfl
  | combat encounterId => rfl
  | skillCheck c =>
    simp only [normalMechanic, settledMechanic, Check.mechanic, Check.skillCheck,
      getD_withoutEmpty]

lemma check_requirement (place : ChoicePlace) (r : Requirement) :
    Check.requirement keys place (settledRequirement r) = Check.requirement keys place r := by
  cases r <;> rfl

lemma requirementList_settled (c : Choice) :
    (settledChoice (normalChoice (tidiedChoice c))).requirementList =
      c.requirementList.map settledRequirement := by
  unfold Choice.requirementList settledChoice normalChoice tidiedChoice
  dsimp only
  rw [← getD_withoutEmptyList c.requirements]
  cases withoutEmptyList c.requirements <;> rfl

lemma check_choice (nodeId : String) (c : Choice) :
    Check.choice keys nodeId (settledChoice (normalChoice (tidiedChoice c))) =
      Check.choice keys nodeId c := by
  have hmechanic := check_mechanic keys ⟨nodeId, c.id.text⟩ c.mechanic
  unfold Check.choice
  dsimp only
  rw [requirementList_settled, List.flatMap_map]
  simp only [check_requirement]
  exact congrArg (· ++ _) hmechanic

lemma choiceList_settled (n : Node) :
    (settledNode (normalNode (tidiedNode n))).choiceList =
      n.choiceList.map fun c => settledChoice (normalChoice (tidiedChoice c)) := by
  rw [choiceList_settledNode, choiceList_normalNode, choiceList_tidiedNode, List.map_map,
    List.map_map]
  rfl

lemma actionList_settled (n : Node) :
    (settledNode (normalNode (tidiedNode n))).actionList = n.actionList.map settledAction := by
  unfold Node.actionList settledNode normalNode tidiedNode
  dsimp only
  rw [← getD_withoutEmptyList n.onEnter]
  cases withoutEmptyList n.onEnter <;> rfl

lemma check_missingItem (a : Action) (issueOf : String → String → Issue) :
    Check.missingItem keys (settledAction a) (issueOf (settledAction a).name) =
      Check.missingItem keys a (issueOf a.name) := by
  cases a <;> rfl

lemma check_node (n : Node) :
    Check.node keys (settledNode (normalNode (tidiedNode n))) = Check.node keys n := by
  have hplain : (settledNode (normalNode (tidiedNode n))).id = n.id ∧
      (settledNode (normalNode (tidiedNode n))).type = n.type := by
    unfold settledNode normalNode tidiedNode
    exact ⟨rfl, rfl⟩
  unfold Check.node
  dsimp only
  rw [hplain.1, hplain.2, choiceList_settled, actionList_settled, List.flatMap_map,
    List.flatMap_map]
  simp only [check_missingItem keys _ (Issue.enterItem _), check_choice]

lemma check_encounter (e : Encounter) :
    Check.encounter keys (settledEncounter (normalEncounter (tidiedEncounter e))) =
      Check.encounter keys e := by
  have hspawns : (settledEncounter (normalEncounter (tidiedEncounter e))).spawns =
      e.spawns.map settledSpawn := rfl
  unfold Check.encounter
  dsimp only
  rw [hspawns, List.flatMap_map, List.isEmpty_map]
  rfl

/-- A change of damage changes warnings only. -/
lemma errorFree_item {i : Item} (h : ErrorFree (Check.item keys i)) :
    ErrorFree (Check.item keys (settledItem (normalItem (tidiedItem i)))) := by
  have heffect : (i.effect.map settledAction).toList.flatMap
      (fun a => Check.missingItem keys a (.effectItem i.id.text a.name)) =
      i.effect.toList.flatMap
        (fun a => Check.missingItem keys a (.effectItem i.id.text a.name)) := by
    cases i.effect with
    | none => rfl
    | some a =>
      have hmissing := check_missingItem keys a (Issue.effectItem i.id.text)
      simpa using hmissing
  unfold Check.item at h ⊢
  unfold settledItem normalItem tidiedItem
  dsimp only at h ⊢
  rw [errorFree_append, errorFree_append, errorFree_append] at h ⊢
  obtain ⟨⟨⟨htype, -⟩, hitem⟩, hscaling⟩ := h
  refine ⟨⟨⟨htype, errorFree_warning _ rfl⟩, ?_⟩, ?_⟩
  · rw [← heffect] at hitem
    exact hitem
  · rw [← getD_withoutEmpty] at hscaling
    exact hscaling

lemma compare_settledNumber (a b : Number) :
    Number.compare? (settledNumber a) b = Number.compare? a b := by
  unfold Number.compare?
  rw [settledNumber_place?]

lemma errorFree_enemy {e : Enemy} (h : ErrorFree (Check.enemy e)) :
    ErrorFree (Check.enemy (settledEnemy (normalEnemy (tidiedEnemy e)))) := by
  have hhp : (settledNumber e.hp).le 0 = e.hp.le 0 := by
    unfold Number.le Number.lt Number.eq
    rw [compare_settledNumber]
  have harmor : (settledNumber e.armor).lt 0 = e.armor.lt 0 := by
    unfold Number.lt
    rw [compare_settledNumber]
  unfold Check.enemy at h ⊢
  unfold settledEnemy normalEnemy tidiedEnemy
  dsimp only at h ⊢
  rw [errorFree_append, errorFree_append] at h ⊢
  obtain ⟨⟨hhpIssue, harmorIssue⟩, -⟩ := h
  refine ⟨⟨?_, ?_⟩, errorFree_warning _ rfl⟩
  · rw [← hhp] at hhpIssue
    exact hhpIssue
  · rw [← harmor] at harmorIssue
    exact harmorIssue

lemma keys_settled (story : Story) :
    (settledStory (normalStory (tidiedStory story))).keys = story.keys := by
  unfold Story.keys settledStory normalStory tidiedStory Collection.keys mapEntities
  simp only [List.map_map]
  rfl

/-- A story that is sound stays sound in its normal form, with settled numbers and free texts
trimmed. -/
theorem isSound_settled {s : Settings} {story : Story} (h : (s.judge story).isSound = true) :
    (s.judge (settledStory (normalStory (tidiedStory story)))).isSound = true := by
  have hmap : ∀ {α : Type} {f g k : α → α} {l : List α} {check check' : α → List Issue},
      (∀ x, ErrorFree (check x) → ErrorFree (check' (k (g (f x))))) →
      ErrorFree (l.flatMap check) → ErrorFree ((((l.map f).map g).map k).flatMap check') := by
    intro α f g k l check check' hstep hl
    rw [errorFree_flatMap] at hl ⊢
    simp only [List.forall_mem_map]
    exact fun x hx => hstep x (hl x hx)
  rw [isSound_iff] at h ⊢
  unfold Story.entityIssues at h ⊢
  rw [keys_settled]
  rw [errorFree_append, errorFree_append, errorFree_append] at h ⊢
  obtain ⟨⟨⟨hnodes, hencounters⟩, hitems⟩, henemies⟩ := h
  refine ⟨⟨⟨?_, ?_⟩, ?_⟩, ?_⟩
  · exact hmap (fun n hn => by rwa [check_node]) hnodes
  · exact hmap (fun e he => by rwa [check_encounter]) hencounters
  · exact hmap (fun i hi => errorFree_item _ hi) hitems
  · exact hmap (fun e he => errorFree_enemy he) henemies

/-! ## What comes back -/

lemma isReadable_readStory_iff {story : Story} :
    (readStory story).isReadable = true ↔ ReadableDice (tidiedStory story) := by
  have hdice : (readStory story).diceTexts = (tidiedStory story).diceTexts := by
    rw [← diceTexts_settled (tidiedStory story)]
    unfold Story.diceTexts readStory
    rfl
  rw [← story_isReadable_iff]
  unfold Story.isReadable
  rw [hdice]

section

variable {s : Settings} {desk : Desk} {story : Story}

/-- Loading answers without errors and with a story, up to the normal form. -/
def GivesBack (s : Settings) (desk : Desk) (story : Story) : Prop :=
  ∃ l after, Answers (Desk.load s) desk l after ∧ l.errors = [] ∧
    (namedStory l.story).same (normalStory (tidiedStory story)) = true

/-- Only what tables can hold comes back. -/
lemma representable_of_givesBack (hholds : HoldsTables desk.files s story)
    (h : GivesBack s desk story) : RepresentableStory (tidiedStory story) ∧ FitsFields story := by
  obtain ⟨l, after, hload, -, hsame⟩ := h
  obtain ⟨t, hread, hcompile, -, -, -⟩ := answers_load.mp hload
  have hcompiled : CompiledStory l.story := compiledStory_of_compile hcompile
  have hnamed : RepresentableStory (namedStory l.story) := by
    rw [← hcompiled.normal]
    exact representable_normalStory hcompiled.representable
  exact ⟨representable_of_normalStory (representableStory_of_same hsame hnamed),
    ((readTables_of_holdsTables hholds).mp hread).1⟩

lemma trimmedIds_of_tidied (h : RepresentableStory (tidiedStory story)) : TrimmedIds story where
  nodes _ hn := (h.nodes _ (List.mem_map_of_mem hn)).id
  items _ hi := (h.items _ (List.mem_map_of_mem hi)).id
  enemies _ he := (h.enemies _ (List.mem_map_of_mem he)).id
  encounters _ he := (h.encounters _ (List.mem_map_of_mem he)).id

lemma compile_storyLines (hnumbered : story.hasNumberedSlots = true)
    (h : RepresentableStory (tidiedStory story)) :
    (Tables.ofKinds fun kind => Csv.rows (storyLines story kind)).compile =
      pure (readStory story) :=
  compile_readStory (tablesHold_storyLines (trimmedIds_of_tidied h))
    (hasNumberedSlots_iff.mp hnumbered) h

/-- What comes back has dice that can be read once they are trimmed. -/
lemma readableDice_of_givesBack (hholds : HoldsTables desk.files s story)
    (hnumbered : story.hasNumberedSlots = true) (h : GivesBack s desk story) :
    ReadableDice (tidiedStory story) := by
  have hrepresentable := (representable_of_givesBack hholds h).1
  obtain ⟨l, after, hload, -, -⟩ := h
  obtain ⟨t, hread, hcompile, hreadable, -, -⟩ := answers_load.mp hload
  obtain ⟨-, rfl⟩ := (readTables_of_holdsTables hholds).mp hread
  rw [compile_storyLines hnumbered hrepresentable] at hcompile
  have hstory : readStory story = l.story := Except.ok.inj hcompile
  rw [← hstory] at hreadable
  exact isReadable_readStory_iff.mp hreadable

/-- What tables can hold comes back, if the reader can take the cells and the check the dice. -/
lemma givesBack_of_representable (hholds : HoldsTables desk.files s story)
    (hsound : (s.judge story).isSound = true) (hfits : FitsTables story)
    (hdice : ReadableDice (tidiedStory story))
    (h : RepresentableStory (tidiedStory story)) : GivesBack s desk story := by
  have hnamed : namedStory (readStory story) = settledStory (normalStory (tidiedStory story)) :=
    namedStory_readStory h
  have hload : Answers (Desk.load s) desk (reloaded s story (readStory story)) desk :=
    load_of_holdsTables hholds hfits.fields (compile_storyLines hfits.numbered h)
      (isReadable_readStory_iff.mpr hdice)
  have hjudged : (s.judge (readStory story)).isSound = true := by
    rw [← judge_namedStory, hnamed]
    exact isSound_settled hsound
  refine ⟨_, _, hload, errors_of_isSound rfl hjudged, ?_⟩
  change (namedStory (readStory story)).same _ = true
  rw [hnamed]
  exact settledStory_same (representable_normalStory h)

/-- A story that was saved comes back exactly when the tables can hold it and the dice in them can
be read: it is representable but for the white space around its free texts, no cell is longer than
the reader takes, and no trimmed dice have too long a number. -/
theorem givesBack_iff_of_saved {saved : Desk} {now : Instant} {tables backups : List Path}
    {warnings : List Diagnostic}
    (hsave : Answers (Desk.save s now story) desk (.written tables backups warnings) saved) :
    GivesBack s saved story ↔
      RepresentableStory (tidiedStory story) ∧ FitsTables story ∧
        ReadableDice (tidiedStory story) := by
  obtain ⟨hsavable, ⟨w, hwrite, hsaved⟩, -, -⟩ := answers_save.mp hsave
  have hnumbered : story.hasNumberedSlots = true := (Bool.and_eq_true_iff.mp hsavable.writable).2
  have hholds : HoldsTables saved.files s story := by
    rw [← hsaved]
    exact holdsTables_of_writeTables hwrite
  constructor
  · intro h
    obtain ⟨hrepresentable, hfields⟩ := representable_of_givesBack hholds h
    exact ⟨hrepresentable, ⟨hnumbered, hfields⟩, readableDice_of_givesBack hholds hnumbered h⟩
  · rintro ⟨hrepresentable, hfits, hdice⟩
    exact givesBack_of_representable hholds hsavable.sound hfits hdice hrepresentable

/-- A desk with an empty directory for the tables. -/
def emptyDesk : Desk where
  files := ⟨[(⟨["data"]⟩, .directory), (⟨["data", "csv"]⟩, .directory)]⟩
  notices := []

theorem givesBack_cellarStory : ∃ saved backups warnings,
    Answers (Desk.save .standard ⟨0⟩ cellarStory) emptyDesk
      (.written (EntityKind.all.map Settings.standard.table) backups warnings) saved ∧
    (GivesBack .standard saved cellarStory ↔
      RepresentableStory (tidiedStory cellarStory) ∧ FitsTables cellarStory ∧
        ReadableDice (tidiedStory cellarStory)) := by
  obtain ⟨backups, w, hwrite⟩ : ∃ backups w,
      Desk.writeTables .standard (Instant.millis ⟨0⟩) cellarStory emptyDesk.files =
        .ok (backups, w) := ⟨_, _, rfl⟩
  have hsave := answers_save.mpr ⟨savable_cellarStory, ⟨w, hwrite, rfl⟩, rfl, rfl⟩
  exact ⟨_, _, _, hsave, givesBack_iff_of_saved hsave⟩

/-- A story whose skill check leads to a node with a colon in its id. -/
def colonStory : Story where
  nodes := ⟨[
    { id := ⟨"ladder", by decide⟩
      type := "narrative"
      text := "A ladder"
      image := none
      onEnter := none
      choices := some [
        { id := ⟨"up", by decide⟩
          label := "Climb"
          requirements := none
          mechanic :=
            .skillCheck ⟨⟨"1d20", by decide⟩, 10, none, "up:roof", "ladder", none⟩ }] },
    { id := ⟨"up:roof", by decide⟩
      type := "ending"
      text := "The roof"
      image := none
      onEnter := none
      choices := none }], by decide⟩
  items := .empty
  enemies := .empty
  encounters := .empty

/-- A saved story need not come back. -/
theorem not_givesBack_colonStory : ∃ saved backups warnings,
    Answers (Desk.save .standard ⟨0⟩ colonStory) emptyDesk
      (.written (EntityKind.all.map Settings.standard.table) backups warnings) saved ∧
    ¬GivesBack .standard saved colonStory := by
  obtain ⟨backups, w, hwrite⟩ : ∃ backups w,
      Desk.writeTables .standard (Instant.millis ⟨0⟩) colonStory emptyDesk.files =
        .ok (backups, w) := ⟨_, _, rfl⟩
  have hsave := answers_save.mpr
    ⟨⟨by decide +kernel, by decide +kernel, by decide +kernel⟩, ⟨w, hwrite, rfl⟩, rfl, rfl⟩
  refine ⟨_, _, _, hsave, fun h => ?_⟩
  have hrepresentable := (representable_of_givesBack (holdsTables_of_writeTables hwrite) h).1
  exact absurd hrepresentable (by decide +kernel)

end

end Gamebook.Proofs
