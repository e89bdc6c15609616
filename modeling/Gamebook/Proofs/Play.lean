import Gamebook.Proofs.Edges
import Mathlib.Data.List.Chain

/-!
# Playing a story

A play goes from a node by one of its choices to a node or to an encounter, and from an encounter
to the node at one of its ends. If the story has neither errors nor dead ends, a play never leaves
the story and can go on until it stands on an ending.
-/

namespace Gamebook.Proofs

/-- Where a play stands. -/
inductive Place where
  | node (id : String)
  | encounter (id : String)

/-- One step of a play. -/
inductive PlayStep (s : Story) : Place → Place → Prop
  | toNode {n : Node} {c : Choice} {target : String} (hn : n ∈ s.nodes.toList)
      (hc : c ∈ n.choiceList) (h : LeadsToNode c.mechanic target) :
      PlayStep s (.node n.id.text) (.node target)
  | toEncounter {n : Node} {c : Choice} {target : String} (hn : n ∈ s.nodes.toList)
      (hc : c ∈ n.choiceList) (h : LeadsToEncounter c.mechanic target) :
      PlayStep s (.node n.id.text) (.encounter target)
  | ending {e : Encounter} (he : e ∈ s.encounters.toList) (which : EncounterEnd) :
      PlayStep s (.encounter e.id.text) (.node (endTarget e which))

/-- The place is a node of the story, or an encounter with enemies of the story. -/
inductive Place.Sound (s : Story) : Place → Prop
  | node {n : Node} (hn : n ∈ s.nodes.toList) : Sound s (.node n.id.text)
  | encounter {e : Encounter} (he : e ∈ s.encounters.toList) (hspawns : e.spawns ≠ [])
      (henemies : ∀ spawn ∈ e.spawns, spawn.enemyId.text ∈ s.enemies.keys) :
      Sound s (.encounter e.id.text)

/-- The place is a node where the story may end. -/
def AtEnding (s : Story) (p : Place) : Prop :=
  ∃ n ∈ s.nodes.toList, n.type = "ending" ∧ p = .node n.id.text

section

variable {s : Story} {p q : Place}

/-! ## What a sound story refers to -/

lemma severity_ne_error (hsound : s.entityVerdict.isSound = true) (site : Site) {r : Report}
    (hr : Violation s site r) : r.severity ≠ .error := by
  obtain ⟨issue, hissue, rfl⟩ := exists_issue_of_violation hr
  intro herror
  have hnone : s.entityVerdict.errors = [] := List.isEmpty_iff.mp hsound
  have hmem : issue.diagnostic ∈ s.entityVerdict.errors :=
    List.mem_filter.mpr ⟨List.mem_map_of_mem hissue, decide_eq_true herror⟩
  rw [hnone] at hmem
  exact absurd hmem List.not_mem_nil

lemma no_mechanicViolation (hsound : s.entityVerdict.isSound = true) {n : Node} {c : Choice}
    (hn : n ∈ s.nodes.toList) (hc : c ∈ n.choiceList) (rule : MechanicRule) {code : String}
    {context : Entries Json} : ¬MechanicViolation s n c rule (errorReport code context) := by
  obtain ⟨i, hi⟩ := List.mem_iff_getElem?.mp hn
  obtain ⟨j, hj⟩ := List.mem_iff_getElem?.mp hc
  intro h
  exact severity_ne_error hsound (.mechanic i j rule) ⟨n, hi, c, hj, h⟩ rfl

lemma mem_nodeKeys_of_leadsToNode (hsound : s.entityVerdict.isSound = true) {n : Node} {c : Choice}
    (hn : n ∈ s.nodes.toList) (hc : c ∈ n.choiceList) {target : String}
    (h : LeadsToNode c.mechanic target) : target ∈ s.nodes.keys := by
  by_contra hmissing
  generalize hm : c.mechanic = m at h
  cases h with
  | navigate nodeId =>
    exact no_mechanicViolation hsound hn hc .navigate ⟨nodeId, hm, hmissing, rfl⟩
  | success check =>
    exact no_mechanicViolation hsound hn hc .success ⟨check, hm, hmissing, rfl⟩
  | failure check =>
    exact no_mechanicViolation hsound hn hc .failure ⟨check, hm, hmissing, rfl⟩

lemma mem_encounterKeys_of_leadsToEncounter (hsound : s.entityVerdict.isSound = true) {n : Node}
    {c : Choice} (hn : n ∈ s.nodes.toList) (hc : c ∈ n.choiceList) {target : String}
    (h : LeadsToEncounter c.mechanic target) : target ∈ s.encounters.keys := by
  by_contra hmissing
  generalize hm : c.mechanic = m at h
  cases h with
  | combat encounterId =>
    exact no_mechanicViolation hsound hn hc .combat ⟨encounterId, hm, hmissing, rfl⟩
  | failure hencounter hne =>
    exact no_mechanicViolation hsound hn hc .failureEncounter
      ⟨_, hm, target, hencounter, hne, hmissing, rfl⟩

lemma mem_nodeKeys_of_end (hsound : s.entityVerdict.isSound = true) {e : Encounter}
    (he : e ∈ s.encounters.toList) (which : EncounterEnd) : endTarget e which ∈ s.nodes.keys := by
  by_contra hmissing
  obtain ⟨i, hi⟩ := List.mem_iff_getElem?.mp he
  exact severity_ne_error hsound (.resolution i which) ⟨e, hi, hmissing, rfl⟩ rfl

lemma sound_node {id : String} (h : id ∈ s.nodes.keys) : Place.Sound s (.node id) := by
  obtain ⟨n, hn, rfl⟩ := List.mem_map.mp h
  exact .node hn

lemma sound_encounter (hsound : s.entityVerdict.isSound = true) {id : String}
    (h : id ∈ s.encounters.keys) : Place.Sound s (.encounter id) := by
  obtain ⟨e, he, rfl⟩ := List.mem_map.mp h
  obtain ⟨i, hi⟩ := List.mem_iff_getElem?.mp he
  refine .encounter he ?_ fun spawn hspawn => ?_
  · intro hnil
    exact severity_ne_error hsound (.noSpawns i) ⟨e, hi, hnil, rfl⟩ rfl
  · by_contra hmissing
    obtain ⟨j, hj⟩ := List.mem_iff_getElem?.mp hspawn
    exact severity_ne_error hsound (.spawn i j) ⟨e, hi, spawn, hj, hmissing, rfl⟩ rfl

/-! ## Steps and runs -/

lemma sound_of_step (hsound : s.entityVerdict.isSound = true) (h : PlayStep s p q) : q.Sound s := by
  cases h with
  | toNode hn hc h => exact sound_node (mem_nodeKeys_of_leadsToNode hsound hn hc h)
  | toEncounter hn hc h =>
    exact sound_encounter hsound (mem_encounterKeys_of_leadsToEncounter hsound hn hc h)
  | ending he which => exact sound_node (mem_nodeKeys_of_end hsound he which)

lemma sound_of_run (hsound : s.entityVerdict.isSound = true) (hp : p.Sound s) {run : List Place}
    (hrun : (p :: run).IsChain (PlayStep s)) : ∀ q ∈ p :: run, q.Sound s := by
  induction run generalizing p with
  | nil =>
    intro q hq
    rw [List.mem_singleton] at hq
    exact hq ▸ hp
  | cons q run ih =>
    rw [List.isChain_cons_cons] at hrun
    intro place hplace
    rcases List.mem_cons.mp hplace with rfl | hplace
    · exact hp
    · exact ih (sound_of_step hsound hrun.1) hrun.2 place hplace

lemma exists_leadsToNode_or_leadsToEncounter (m : Mechanic) :
    ∃ target, LeadsToNode m target ∨ LeadsToEncounter m target := by
  cases m with
  | navigate nodeId => exact ⟨_, .inl (.navigate nodeId)⟩
  | combat encounterId => exact ⟨_, .inr (.combat encounterId)⟩
  | skillCheck check => exact ⟨_, .inl (.success check)⟩

lemma exists_step (hdead : s.deadEnds [] = []) (hp : p.Sound s) :
    (∃ q, PlayStep s p q) ∨ AtEnding s p := by
  cases hp with
  | @node n hn =>
    by_cases hending : n.type = "ending"
    · exact .inr ⟨n, hn, hending, rfl⟩
    have hchoices : n.choiceList ≠ [] := by
      intro hnil
      have hget : s.nodes.get? n.id.text = some n := get?_eq_some.mpr ⟨hn, rfl⟩
      have hmem : n.id.text ∈ s.deadEnds [] := by
        refine mem_deadEnds.mpr ⟨List.mem_map_of_mem hn, List.not_mem_nil, fun m hm => ?_⟩
        rw [hget, Option.some.injEq] at hm
        exact hm ▸ ⟨hending, hnil⟩
      rw [hdead] at hmem
      exact List.not_mem_nil hmem
    obtain ⟨c, hc⟩ := List.exists_mem_of_ne_nil _ hchoices
    obtain ⟨target, h | h⟩ := exists_leadsToNode_or_leadsToEncounter c.mechanic
    · exact .inl ⟨_, .toNode hn hc h⟩
    · exact .inl ⟨_, .toEncounter hn hc h⟩
  | encounter he => exact .inl ⟨_, .ending he .victory⟩

end

/-- In a story without errors and without dead ends, every play from a node stays at nodes of the
story and at encounters with enemies of the story, and it can go on unless it stands on an
ending. -/
theorem play_stays_and_goes_on (s : Story) (hsound : s.entityVerdict.isSound = true)
    (hdead : s.deadEnds [] = []) (start : String) (hstart : start ∈ s.nodes.keys)
    (run : List Place) (hrun : (Place.node start :: run).IsChain (PlayStep s)) :
    (∀ p ∈ Place.node start :: run, p.Sound s) ∧
      ((∃ q, (Place.node start :: run ++ [q]).IsChain (PlayStep s)) ∨
        AtEnding s ((Place.node start :: run).getLast (List.cons_ne_nil _ _))) := by
  have hall := sound_of_run hsound (sound_node hstart) hrun
  refine ⟨hall, ?_⟩
  rcases exists_step hdead (hall _ (List.getLast_mem (List.cons_ne_nil _ _))) with ⟨q, hq⟩ | hending
  · refine .inl ⟨q, List.isChain_append.mpr ⟨hrun, List.isChain_singleton q, ?_⟩⟩
    intro p hp q' hq'
    rw [List.getLast?_eq_getLast_of_ne_nil (List.cons_ne_nil _ _), Option.mem_some_iff] at hp
    rw [List.head?_cons, Option.mem_some_iff] at hq'
    rwa [← hp, ← hq']
  · exact .inr hending

def swimming : Choice where
  id := ⟨"swim", by decide⟩
  label := "Swim"
  requirements := none
  mechanic := .skillCheck ⟨⟨"2d6", by decide⟩, 7, none, "isle", "bank", some "eels"⟩

def bank : Node where
  id := ⟨"bank", by decide⟩
  type := "narrative"
  text := "A bank"
  image := none
  onEnter := none
  choices := some [swimming]

def eels : Encounter :=
  ⟨⟨"eels", by decide⟩, none, [⟨⟨"eel", by decide⟩, 4⟩], "isle", "bank"⟩

/-- A bank from where one swims to an isle, unless the eels are awake. -/
def eelStory : Story where
  nodes := ⟨[bank,
    { id := ⟨"isle", by decide⟩
      type := "ending"
      text := "An isle"
      image := none
      onEnter := none
      choices := none }], by decide⟩
  items := .empty
  enemies := ⟨[⟨⟨"eel", by decide⟩, "Eel", 2, 8, 1, ⟨"1d6", by decide⟩, 3⟩], by decide⟩
  encounters := ⟨[eels], by decide⟩

/-- A play that meets the eels, after its start. -/
def swim : List Place := [.encounter "eels", .node "bank", .node "isle"]

lemma isChain_swim : (Place.node "bank" :: swim).IsChain (PlayStep eelStory) := by
  have hbank : bank ∈ eelStory.nodes.toList := List.mem_cons_self ..
  have hchoice : swimming ∈ bank.choiceList := List.mem_cons_self ..
  have hmeet : PlayStep eelStory (.node "bank") (.encounter "eels") :=
    .toEncounter hbank hchoice (.failure rfl (by decide))
  have hflee : PlayStep eelStory (.encounter "eels") (.node "bank") :=
    .ending (e := eels) (List.mem_cons_self ..) .defeat
  have hcross : PlayStep eelStory (.node "bank") (.node "isle") :=
    .toNode hbank hchoice (.success _)
  exact .cons_cons hmeet (.cons_cons hflee (.cons_cons hcross (.singleton _)))

theorem swim_stays_and_goes_on :
    eelStory.entityVerdict.isSound = true ∧ eelStory.deadEnds [] = [] ∧
      "bank" ∈ eelStory.nodes.keys ∧ (Place.node "bank" :: swim).IsChain (PlayStep eelStory) ∧
      (∀ p ∈ Place.node "bank" :: swim, p.Sound eelStory) ∧
      ((∃ q, (Place.node "bank" :: swim ++ [q]).IsChain (PlayStep eelStory)) ∨
        AtEnding eelStory (.node "isle")) := by
  have hsound : eelStory.entityVerdict.isSound = true := by decide +kernel
  have hdead : eelStory.deadEnds [] = [] := by decide
  have hstart : "bank" ∈ eelStory.nodes.keys := by decide
  exact ⟨hsound, hdead, hstart, isChain_swim,
    play_stays_and_goes_on eelStory hsound hdead "bank" hstart swim isChain_swim⟩

end Gamebook.Proofs
