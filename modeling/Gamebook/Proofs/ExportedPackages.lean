import Gamebook.Proofs.ImportedPackages
import Gamebook.Proofs.OneVerdict

/-!
# Exported packages

A package that is exported from the tables is imported as the story in the tables, with the verdict
that loading it gives, as long as cleaning finds nothing to delete.
-/

namespace Gamebook.Proofs

open Package

/-! ## Nothing to clean -/

/-- A node whose free texts hold no payload. -/
structure CleanNode (n : Node) : Prop where
  id : Clean n.id.text.toList
  text : Clean n.text.toList
  choices : ∀ c ∈ n.choices.getD [], Clean c.id.text.toList ∧ Clean c.label.toList

/-- A story whose free texts hold no payload. -/
structure CleanTexts (story : Story) : Prop where
  nodes : ∀ n ∈ story.nodes.toList, CleanNode n
  items : ∀ i ∈ story.items.toList, Clean i.name.toList
  enemies : ∀ e ∈ story.enemies.toList, Clean e.name.toList
  encounters : ∀ e ∈ story.encounters.toList, ∀ name ∈ e.name, Clean name.toList

instance (cs : List Char) : Decidable (Clean cs) := decidable_of_iff _ cleanChars_eq_self_iff

instance (n : Node) : Decidable (CleanNode n) :=
  decidable_of_iff
    (Clean n.id.text.toList ∧ Clean n.text.toList ∧
      ∀ c ∈ n.choices.getD [], Clean c.id.text.toList ∧ Clean c.label.toList)
    ⟨fun h => ⟨h.1, h.2.1, h.2.2⟩, fun h => ⟨h.id, h.text, h.choices⟩⟩

instance (story : Story) : Decidable (CleanTexts story) :=
  decidable_of_iff
    ((∀ n ∈ story.nodes.toList, CleanNode n) ∧ (∀ i ∈ story.items.toList, Clean i.name.toList) ∧
      (∀ e ∈ story.enemies.toList, Clean e.name.toList) ∧
      ∀ e ∈ story.encounters.toList, ∀ name ∈ e.name, Clean name.toList)
    ⟨fun h => ⟨h.1, h.2.1, h.2.2.1, h.2.2.2⟩, fun h => ⟨h.nodes, h.items, h.enemies, h.encounters⟩⟩

section

variable {fields : Entries Json} {names : List String} {name : String} {change : Json → Json}

lemma onField_eq_self (h : ∀ j, (name, j) ∈ fields → change j = j) :
    onField name change (.object fields) = .object fields := by
  refine congrArg Json.object (list_map_eq_self fun field hfield => ?_)
  obtain ⟨key, j⟩ := field
  dsimp only
  split
  · rename_i hkey
    subst hkey
    rw [h j hfield]
  · rfl

lemma onItems_eq_self {items : List Json} (h : ∀ j ∈ items, change j = j) :
    onItems change (.array items) = .array items :=
  congrArg Json.array (list_map_eq_self h)

lemma onValues_eq_self (h : ∀ field ∈ fields, underKey change field.2 = field.2) :
    onValues change (.object fields) = .object fields :=
  congrArg Json.object (list_map_eq_self fun field hfield => Prod.ext rfl (h field hfield))

lemma onFields_eq_self (h : ∀ name ∈ names, ∀ j, (name, j) ∈ fields → change j = j) :
    onFields names change (.object fields) = .object fields := by
  unfold onFields
  induction names with
  | nil => rfl
  | cons name names ih =>
    rw [List.forall_mem_cons] at h
    rw [List.foldl_cons, onField_eq_self h.1]
    exact ih h.2

end

lemma cleaned_text {text : String} (h : Clean text.toList) :
    cleanValue (.string text) = .string text := by
  have hchars : cleanText text = text := by
    rw [← String.toList_inj, toList_cleanText]
    exact cleanChars_eq_self_iff.mpr h
  rw [cleanValue, hchars]

lemma cleaned_choice {c : Choice} (hid : Clean c.id.text.toList) (hlabel : Clean c.label.toList) :
    onFields ["label", "id"] cleanValue c.toJson = c.toJson := by
  rw [choice_toJson]
  refine onFields_eq_self fun name hname j hj => ?_
  rw [mem_present] at hj
  simp only [List.mem_cons, List.not_mem_nil, or_false] at hname
  rcases hname with rfl | rfl
  · obtain rfl : j = .string c.label := by simpa [choiceFields] using hj
    exact cleaned_text hlabel
  · obtain rfl : j = .string c.id.text := by simpa [choiceFields] using hj
    exact cleaned_text hid

lemma cleaned_node {n : Node} (h : CleanNode n) : onNodeTexts cleanValue n.toJson = n.toJson := by
  have htexts : onFields ["text", "id"] cleanValue n.toJson = n.toJson := by
    rw [node_toJson]
    refine onFields_eq_self fun name hname j hj => ?_
    rw [mem_present] at hj
    simp only [List.mem_cons, List.not_mem_nil, or_false] at hname
    rcases hname with rfl | rfl
    · obtain rfl : j = .string n.text := by simpa [nodeFields] using hj
      exact cleaned_text h.text
    · obtain rfl : j = .string n.id.text := by simpa [nodeFields] using hj
      exact cleaned_text h.id
  unfold onNodeTexts
  rw [htexts, node_toJson]
  refine onField_eq_self fun j hj => ?_
  rw [mem_present] at hj
  obtain ⟨choices, hchoices, rfl⟩ : ∃ choices, n.choices = some choices ∧
      j = .array (choices.map Choice.toJson) := by
    simpa [nodeFields, eq_comm] using hj
  refine onItems_eq_self fun item hitem => ?_
  obtain ⟨c, hc, rfl⟩ := List.mem_map.mp hitem
  obtain ⟨hid, hlabel⟩ := h.choices c (by rwa [hchoices])
  exact cleaned_choice hid hlabel

lemma cleaned_named {fields : List (String × Option Json)}
    (h : ∀ j, ("name", some j) ∈ fields → cleanValue j = j) :
    onFields ["name"] cleanValue (.object (present fields)) = .object (present fields) := by
  refine onFields_eq_self fun name hname j hj => ?_
  obtain rfl := List.mem_singleton.mp hname
  exact h j (mem_present.mp hj)

lemma cleaned_collection {α : Type} [Keyed α] {c : Collection α} {write : α → Json}
    {change : Json → Json} (hobject : ∀ x, ∃ fields, write x = .object fields)
    (h : ∀ x ∈ c.toList, change (write x) = write x) :
    onValues change (c.toJson write) = c.toJson write := by
  refine onValues_eq_self fun field hfield => ?_
  obtain ⟨x, hx, rfl⟩ := List.mem_map.mp hfield
  obtain ⟨fields, hfields⟩ := hobject x
  have hunder : underKey change (write x) = change (write x) := by rw [hfields]; rfl
  exact hunder.trans (h x hx)

lemma cleaned_field {fields : Entries Json} {name : String} {change : Json → Json} {value : Json}
    (hvalue : ∀ j, (name, j) ∈ fields → j = value) (h : change value = value) :
    onField name change (.object fields) = .object fields :=
  onField_eq_self fun j hj => by rw [hvalue j hj, h]

lemma cleaned_story {story : Story} (h : CleanTexts story) :
    onFreeTexts cleanValue story.toJson = story.toJson := by
  have hnodes : onValues (onNodeTexts cleanValue) (story.nodes.toJson Node.toJson) =
      story.nodes.toJson Node.toJson :=
    cleaned_collection (fun n => ⟨_, node_toJson n⟩) fun n hn => cleaned_node (h.nodes n hn)
  have hitems : onValues (onFields ["name"] cleanValue) (story.items.toJson Item.toJson) =
      story.items.toJson Item.toJson := by
    refine cleaned_collection (fun i => ⟨_, item_toJson i⟩) fun i hi => ?_
    rw [item_toJson]
    refine cleaned_named fun j hj => ?_
    obtain rfl : j = .string i.name := by simpa [itemFields] using hj
    exact cleaned_text (h.items i hi)
  have henemies : onValues (onFields ["name"] cleanValue) (story.enemies.toJson Enemy.toJson) =
      story.enemies.toJson Enemy.toJson := by
    have hobject : ∀ e : Enemy, e.toJson = .object (present (enemyFields e)) := fun _ => rfl
    refine cleaned_collection (fun e => ⟨_, hobject e⟩) fun e he => ?_
    rw [hobject]
    refine cleaned_named fun j hj => ?_
    obtain rfl : j = .string e.name := by simpa [enemyFields] using hj
    exact cleaned_text (h.enemies e he)
  have hencounters : onValues (onFields ["name"] cleanValue)
      (story.encounters.toJson Encounter.toJson) = story.encounters.toJson Encounter.toJson := by
    refine cleaned_collection (fun e => ⟨_, encounter_toJson e⟩) fun e he => ?_
    rw [encounter_toJson]
    refine cleaned_named fun j hj => ?_
    obtain ⟨name, hname, rfl⟩ : ∃ name, e.name = some name ∧ j = .string name := by
      simpa [encounterFields, eq_comm] using hj
    exact cleaned_text (h.encounters e he name hname)
  unfold onFreeTexts Story.toJson
  dsimp only
  rw [cleaned_field (by simp [Story.toFields]) hnodes,
    cleaned_field (by simp [Story.toFields]) hitems,
    cleaned_field (by simp [Story.toFields]) henemies,
    cleaned_field (by simp [Story.toFields]) hencounters]

/-! ## How deep a story is nested -/

section

variable {α : Type} {write : α → Json} {k : ℕ}

lemma height_array_le {items : List Json} (h : ∀ j ∈ items, j.height ≤ k) :
    (Json.array items).height ≤ k + 1 := by
  refine Nat.succ_le_succ ?_
  induction items with
  | nil => exact Nat.zero_le k
  | cons j items ih =>
    rw [List.forall_mem_cons] at h
    exact Nat.max_le.mpr ⟨h.1, ih h.2⟩

lemma height_object_le {fields : Entries Json} (h : ∀ field ∈ fields, field.2.height ≤ k) :
    (Json.object fields).height ≤ k + 1 := by
  refine Nat.succ_le_succ ?_
  induction fields with
  | nil => exact Nat.zero_le k
  | cons field fields ih =>
    rw [List.forall_mem_cons] at h
    exact Nat.max_le.mpr ⟨h.1, ih h.2⟩

lemma height_present_le {fields : List (String × Option Json)}
    (h : ∀ field ∈ fields, ∀ j ∈ field.2, j.height ≤ k) :
    (Json.object (present fields)).height ≤ k + 1 :=
  height_object_le fun _ hfield => h _ (mem_present.mp hfield) _ rfl

lemma height_map_le {l : List α} (h : ∀ x, (write x).height ≤ k) :
    (Json.array (l.map write)).height ≤ k + 1 := by
  refine height_array_le fun j hj => ?_
  obtain ⟨x, -, rfl⟩ := List.mem_map.mp hj
  exact h x

lemma height_optional_le {o : Option α} (h : ∀ x, (write x).height ≤ k) :
    ∀ j ∈ o.map write, j.height ≤ k := by
  intro j hj
  obtain ⟨x, -, rfl⟩ := Option.map_eq_some_iff.mp hj
  exact h x

lemma height_optionalList_le {o : Option (List α)} (h : ∀ x, (write x).height ≤ k) :
    ∀ j ∈ o.map fun l => Json.array (l.map write), j.height ≤ k + 1 :=
  height_optional_le fun _ => height_map_le h

lemma height_collection_le [Keyed α] (c : Collection α) (h : ∀ x, (write x).height ≤ k) :
    (c.toJson write).height ≤ k + 1 := by
  refine height_object_le fun field hfield => ?_
  obtain ⟨x, -, rfl⟩ := List.mem_map.mp hfield
  exact h x

end

@[simp] lemma height_string (s : String) : (Json.string s).height = 1 := rfl

@[simp] lemma height_number (n : Number) : (Json.number n).height = 1 := rfl

@[simp] lemma height_bool (b : Bool) : (Json.bool b).height = 1 := rfl

lemma height_action (a : Action) : a.toJson.height ≤ 2 := by
  rw [action_toJson]
  refine height_present_le ?_
  cases a <;> simp [actionFields]

lemma height_requirement (r : Requirement) : r.toJson.height ≤ 2 := by
  rw [requirement_toJson]
  refine height_present_le ?_
  cases r <;> simp [requirementFields]

lemma height_mechanic (m : Mechanic) : m.toJson.height ≤ 3 := by
  have houtcome : ∀ nodeId, (outcomeToJson nodeId).height ≤ 2 := fun _ => Nat.le_refl 2
  rw [mechanic_toJson]
  refine height_present_le ?_
  cases m <;> simp [mechanicFields, houtcome]

lemma height_choice (c : Choice) : c.toJson.height ≤ 4 := by
  rw [choice_toJson]
  refine height_present_le ?_
  simp only [choiceFields, List.mem_cons, List.not_mem_nil, or_false, forall_eq_or_imp, forall_eq]
  exact ⟨by simp, by simp, height_optionalList_le height_requirement,
    by simp [height_mechanic c.mechanic]⟩

lemma height_node (n : Node) : n.toJson.height ≤ 6 := by
  have henter : ∀ a : Action, a.toJson.height ≤ 4 := fun a => (height_action a).trans (by decide)
  rw [node_toJson]
  refine height_present_le ?_
  simp only [nodeFields, List.mem_cons, List.not_mem_nil, or_false, forall_eq_or_imp, forall_eq]
  exact ⟨by simp, by simp, by simp, by simp, height_optionalList_le henter,
    height_optionalList_le height_choice⟩

lemma height_item (i : Item) : i.toJson.height ≤ 3 := by
  rw [item_toJson]
  refine height_present_le ?_
  simp only [itemFields, List.mem_cons, List.not_mem_nil, or_false, forall_eq_or_imp, forall_eq]
  exact ⟨by simp, by simp, by simp, by simp, by simp, by simp, height_optional_le height_action,
    by simp, height_optional_le fun b => (height_bool b).le.trans (by decide)⟩

lemma height_enemy (e : Enemy) : e.toJson.height ≤ 2 := by
  have hobject : e.toJson = .object (present (enemyFields e)) := rfl
  rw [hobject]
  refine height_present_le ?_
  simp [enemyFields]

lemma height_encounter (e : Encounter) : e.toJson.height ≤ 4 := by
  have hspawns : (Json.array (e.spawns.map Spawn.toJson)).height ≤ 3 :=
    height_map_le fun _ => Nat.le_refl 2
  have hresolution : (Json.object (present (resolutionFields e.onVictory e.onDefeat))).height ≤ 3 :=
    Nat.le_refl 3
  rw [encounter_toJson]
  refine height_present_le ?_
  simp [encounterFields, hspawns, hresolution]

/-- The JSON value of a story is not nested deep, whatever the story is. -/
lemma height_story (story : Story) : story.toJson.height ≤ 8 := by
  have hitem : ∀ i : Item, i.toJson.height ≤ 6 := fun i => (height_item i).trans (by decide)
  have henemy : ∀ e : Enemy, e.toJson.height ≤ 6 := fun e => (height_enemy e).trans (by decide)
  have hencounter : ∀ e : Encounter, e.toJson.height ≤ 6 := fun e =>
    (height_encounter e).trans (by decide)
  refine height_object_le ?_
  simp only [Story.toFields, List.mem_cons, List.not_mem_nil, or_false, forall_eq_or_imp, forall_eq]
  exact ⟨height_collection_le _ height_node, height_collection_le _ hitem,
    height_collection_le _ henemy, height_collection_le _ hencounter⟩

/-! ## Warnings -/

lemma code_duplicates (t : Tables) : ∀ d ∈ t.duplicates, d.code = "DATA001" := by
  intro d hd
  obtain ⟨kind, -, hd⟩ := List.mem_flatMap.mp hd
  obtain ⟨r, -, rfl⟩ := List.mem_map.mp hd
  rfl

@[simp] lemma code_attributed (d : Diagnostic) : d.attributed.code = d.code := by
  unfold Diagnostic.attributed
  split
  · rfl
  · split <;> rfl

lemma code_ne_duplicate (issue : Issue) : issue.diagnostic.code ≠ "DATA001" := by
  cases issue <;> simp [Issue.diagnostic, Issue.error, Issue.warning]

lemma code_warnings (s : Settings) (story : Story) :
    ∀ d ∈ (s.judge story).attributed.warnings, d.code ≠ "DATA001" := by
  intro d hd
  obtain ⟨given, hgiven, rfl⟩ := List.mem_map.mp hd
  obtain ⟨issue, -, rfl⟩ := List.mem_map.mp (List.mem_of_mem_filter hgiven)
  rw [code_attributed]
  exact code_ne_duplicate issue

/-! ## Export and import -/

/-- Credits of which none is blank. -/
structure FitCredits (c : Credits) : Prop where
  storyId : Telling c.storyId
  version : Telling c.version
  title : Telling c.title
  author : Telling c.author

lemma fitManifest_of_credits {c : Credits} (h : FitCredits c) (now : Instant) :
    FitManifest (c.manifest now) := by
  refine ⟨_, rfl, fun name hname => ?_⟩
  simp only [manifestFields, List.mem_cons, List.not_mem_nil, or_false] at hname
  rcases hname with rfl | rfl | rfl | rfl
  · exact ⟨_, rfl, .inr ⟨_, rfl, h.storyId⟩⟩
  · exact ⟨_, rfl, .inr ⟨_, rfl, h.version⟩⟩
  · exact ⟨_, rfl, .inr ⟨_, rfl, h.title⟩⟩
  · exact ⟨_, rfl, .inr ⟨_, rfl, h.author⟩⟩

section

variable {s : Settings} {desk : Desk} {t : Tables} {story : Story} {c : Credits}

lemma outcome_exportBundle (now : Instant) (ht : desk.files.readTables s.tables = .ok t)
    (hstory : Gives t.compile story) (hcredits : FitCredits c) :
    Answers (Desk.exportBundle s now c) desk ⟨c.manifest now, story⟩ (compiledDesk desk t) := by
  have hmanifest : isManifest (c.manifest now) = true := by
    unfold isManifest
    rw [manifestFaults_eq_nil.mpr (fitManifest_of_credits hcredits now)]
    rfl
  unfold Desk.exportBundle
  rw [if_pos hmanifest]
  exact answers_bind.mpr ⟨_, _, outcome_compiled ht hstory, rfl⟩

lemma packageParts_toJson (b : Bundle) :
    Endpoint.packageParts b.toJson = .ok (b.manifest, b.story.toJson, []) := by
  have hentries : Reader.map .ok b.story.toJson = .ok b.story.toFields := rfl
  have hmodel : Reader.optional [("manifest", b.manifest), ("model", b.story.toJson),
      ("assets", .array [])] (.word "model") (fun j => (Reader.map .ok j).map fun _ => j)
      (.object []) = .ok b.story.toJson := by
    refine optional_of_get? rfl ?_
    rw [hentries]
    rfl
  unfold Endpoint.packageParts Reader.fields Bundle.toJson
  dsimp only
  rw [hmodel]
  rfl

/-- An imported package is the bundle that was exported, judged as the loaded story is. -/
structure Undoes (l : Loaded) (b : Bundle) (i : Imported) : Prop where
  manifest : i.manifest = b.manifest
  story : i.story = b.story
  errors : i.verdict.attributed.errors = l.errors
  warnings : i.verdict.attributed.warnings = l.warnings.filter fun d => d.code ≠ "DATA001"
  assetFaults : i.assetFaults = []
  accepted : i.isAccepted = true ↔ l.errors = []

lemma cleanStory_toJson {room : ℕ} (hroom : 8 ≤ room) (hclean : CleanTexts story) :
    cleanStory room story.toJson = .ok story.toJson := by
  have hfits : (Json.object story.toFields).height ≤ room := (height_story story).trans hroom
  have hcleaned : onFreeTexts cleanValue (.object story.toFields) = .object story.toFields :=
    cleaned_story hclean
  unfold Story.toJson
  rw [cleanStory_object, if_pos hfits, hcleaned]

lemma importBundle_toJson {manifest : Json} (hroom : 8 ≤ s.maxCopied)
    (hfit : FitManifest manifest) (hclean : CleanTexts story) :
    Desk.importBundle s manifest story.toJson [] =
      if story.isReadable then .ok ⟨manifest, story, s.judge story, []⟩ else .error .oversized := by
  rw [importBundle_of_fit hfit, cleanStory_toJson hroom hclean]
  dsimp only
  rw [story_ofJson_toJson]
  dsimp only
  rw [settings_check_eq]
  cases story.isReadable <;> rfl

lemma undoes_of_judge (t : Tables) {manifest : Json} :
    Undoes ⟨story, t.duplicates, s.judge story⟩ ⟨manifest, story⟩
      ⟨manifest, story, s.judge story, []⟩ := by
  refine ⟨rfl, rfl, rfl, ?_, rfl, ?_⟩
  · unfold Loaded.warnings
    rw [attributed_duplicates, List.filter_append]
    have hduplicates : (t.duplicates.filter fun d => d.code ≠ "DATA001") = [] := by
      rw [List.filter_eq_nil_iff]
      intro d hd
      simp [code_duplicates t d hd]
    have hwarnings : ((s.judge story).attributed.warnings.filter fun d => d.code ≠ "DATA001") =
        (s.judge story).attributed.warnings := by
      rw [List.filter_eq_self]
      intro d hd
      simpa using code_warnings s story d hd
    rw [hduplicates, hwarnings]
    rfl
  · unfold Imported.isAccepted Loaded.errors
    rw [Bool.and_eq_true, ← isSound_attributed, Verdict.isSound, List.isEmpty_iff]
    simp

end

/-- Import undoes export, if the dice of the story can be read. Otherwise the import is stopped. -/
theorem importBundle_exportBundle {s : Settings} {desk : Desk} {t : Tables} {story : Story}
    {c : Credits} (now : Instant) (hroom : 8 ≤ s.maxCopied)
    (ht : desk.files.readTables s.tables = .ok t) (hstory : Gives t.compile story)
    (hclean : CleanTexts story) (hcredits : FitCredits c) :
    ∃ b exported, Answers (Desk.exportBundle s now c) desk b exported ∧
      b.manifest = c.manifest now ∧ b.story = story ∧
      Endpoint.packageParts b.toJson = .ok (b.manifest, b.story.toJson, []) ∧
      (ReadableDice story → ∃ l i loaded, Answers (Desk.load s) desk l loaded ∧ l.story = story ∧
        Desk.importBundle s b.manifest b.story.toJson [] = .ok i ∧ Undoes l b i) ∧
      (¬ReadableDice story →
        Desk.importBundle s b.manifest b.story.toJson [] = .error .oversized) := by
  have himport := importBundle_toJson hroom (fitManifest_of_credits hcredits now) hclean
  refine ⟨_, _, outcome_exportBundle now ht hstory hcredits, rfl, rfl, packageParts_toJson _,
    fun hdice => ?_, fun hdice => ?_⟩
  · have hreadable : story.isReadable = true := story_isReadable_iff.mpr hdice
    rw [if_pos hreadable] at himport
    exact ⟨⟨story, t.duplicates, s.judge story⟩, _, _,
      answers_load.mpr ⟨t, ht, hstory, hreadable, rfl, rfl⟩, rfl, himport, undoes_of_judge t⟩
  · rwa [if_neg (mt story_isReadable_iff.mp hdice)] at himport

/-- The credits of the short story. -/
def cellarCredits : Credits := ⟨"cellar", "1.0", "The cellar", "a"⟩

lemma fitCredits_cellarCredits : FitCredits cellarCredits := by
  constructor <;> exact telling_iff.mpr (by decide)

theorem importBundle_exportBundle_cellarDesk :
    CleanTexts cellarLoaded.story ∧ FitCredits cellarCredits ∧
      ∃ l b i loaded exported, Answers (Desk.load .standard) cellarDesk l loaded ∧
        Answers (Desk.exportBundle .standard ⟨0⟩ cellarCredits) cellarDesk b exported ∧
        Desk.importBundle .standard b.manifest b.story.toJson [] = .ok i ∧ Undoes l b i := by
  obtain ⟨t, ht, hstory, hreadable, -, -⟩ := answers_load.mp load_cellarDesk
  have hclean : CleanTexts cellarLoaded.story := by decide +kernel
  obtain ⟨b, exported, hexport, -, -, -, hundoes, -⟩ :=
    importBundle_exportBundle ⟨0⟩ (by decide) ht hstory hclean fitCredits_cellarCredits
  obtain ⟨l, i, loaded, hload, -, himport, hundoes⟩ := hundoes (story_isReadable_iff.mp hreadable)
  exact ⟨hclean, fitCredits_cellarCredits, l, b, i, loaded, exported, hload, hexport, himport,
    hundoes⟩

/-- A package that is exported need not be imported again, though nothing in it is to be cleaned. -/
theorem importBundle_giantDesk_stops :
    ∃ t b exported, giantDesk.files.readTables Settings.standard.tables = .ok t ∧
      Gives t.compile giantLoaded ∧ CleanTexts giantLoaded ∧ FitCredits cellarCredits ∧
      Answers (Desk.exportBundle .standard ⟨0⟩ cellarCredits) giantDesk b exported ∧
      Desk.importBundle .standard b.manifest b.story.toJson [] = .error .oversized := by
  obtain ⟨t, ht, hstory⟩ := compile_giantDesk
  have hclean : CleanTexts giantLoaded := by decide +kernel
  have hfit : FitManifest (cellarCredits.manifest ⟨0⟩) :=
    fitManifest_of_credits fitCredits_cellarCredits ⟨0⟩
  refine ⟨t, _, _, ht, hstory, hclean, fitCredits_cellarCredits,
    outcome_exportBundle ⟨0⟩ ht hstory fitCredits_cellarCredits, ?_⟩
  rw [importBundle_toJson (by decide) hfit hclean, if_neg giantLoaded_unreadable]

end Gamebook.Proofs
