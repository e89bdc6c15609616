import Gamebook.Proofs.RowRoundTrip

/-!
# Stories of the same values

Whether a story can be written and read back depends on the values of its numbers only, and not on
what its normal form leaves out. So it passes from a story to another one with the same normal form.
-/

namespace Gamebook.Proofs

/-! ## Equal values -/

section

variable {α : Type} {same : α → α → Bool} {P : α → Prop}

lemma forall_of_sameList (hstep : ∀ a b, same a b = true → P a → P b) {as bs : List α}
    (h : sameList same as bs = true) (ha : ∀ a ∈ as, P a) : ∀ b ∈ bs, P b := by
  induction as generalizing bs with
  | nil =>
    cases bs with
    | nil => exact ha
    | cons b bs => exact absurd h (by simp [sameList])
  | cons a as ih =>
    cases bs with
    | nil => exact absurd h (by simp [sameList])
    | cons b bs =>
      rw [sameList, Bool.and_eq_true] at h
      rw [List.forall_mem_cons] at ha ⊢
      exact ⟨hstep a b h.1 ha.1, ih h.2 ha.2⟩

lemma forall_of_sameOption (hstep : ∀ a b, same a b = true → P a → P b) {o p : Option α}
    (h : sameOption same o p = true) (ho : ∀ a ∈ o, P a) : ∀ b ∈ p, P b := by
  intro b hb
  rw [Option.mem_def] at hb
  subst hb
  cases o with
  | none => exact absurd h (by simp [sameOption])
  | some a => exact hstep a b h (ho a rfl)

lemma forall_of_sameLists (hstep : ∀ a b, same a b = true → P a → P b) {o p : Option (List α)}
    (h : sameOption (sameList same) o p = true) (ho : ∀ a ∈ o.getD [], P a) :
    ∀ b ∈ p.getD [], P b := by
  cases o with
  | none =>
    cases p with
    | none => exact ho
    | some bs => exact absurd h (by simp [sameOption])
  | some as =>
    cases p with
    | none => exact absurd h (by simp [sameOption])
    | some bs => exact forall_of_sameList hstep h ho

end

lemma exactNumber_of_eq (m n : Number) (h : m.eq n = true) (hm : ExactNumber m) : ExactNumber n :=
  (exactNumber_congr h).mp hm

lemma representableAction_of_same (a b : Action) (h : a.same b = true)
    (ha : RepresentableAction a) : RepresentableAction b := by
  unfold Action.same at h
  split at h
  · rw [Bool.and_eq_true, decide_eq_true_eq] at h
    exact ⟨h.1 ▸ ha.1, exactNumber_of_eq _ _ h.2 ha.2⟩
  · rw [Bool.and_eq_true, decide_eq_true_eq] at h
    exact ⟨h.1 ▸ ha.1, exactNumber_of_eq _ _ h.2 ha.2⟩
  · exact exactNumber_of_eq _ _ h ha
  · exact exactNumber_of_eq _ _ h ha
  · exact of_decide_eq_true h ▸ ha

lemma representableRequirement_of_same (a b : Requirement) (h : a.same b = true)
    (ha : RepresentableRequirement a) : RepresentableRequirement b := by
  unfold Requirement.same at h
  split at h
  · rw [Bool.and_eq_true, Bool.and_eq_true, decide_eq_true_eq, decide_eq_true_eq] at h
    exact ⟨h.1.1 ▸ ha.1, h.1.2 ▸ ha.2.1, exactNumber_of_eq _ _ h.2 ha.2.2⟩
  · exact of_decide_eq_true h ▸ ha

lemma representableMechanic_of_same (a b : Mechanic) (h : a.same b = true)
    (ha : RepresentableMechanic a) : RepresentableMechanic b := by
  unfold Mechanic.same at h
  split at h
  · rename_i c d
    rw [Bool.and_eq_true, decide_eq_true_eq, SkillCheck.mk.injEq] at h
    obtain ⟨⟨hdice, -, hability, hsuccess, hfailure, hencounter⟩, hdifficulty⟩ := h
    have hc : RepresentableCheck c := ha
    exact {
      dice := hdice ▸ hc.dice
      difficulty := exactNumber_of_eq _ _ hdifficulty hc.difficulty
      onSuccess := hsuccess ▸ hc.onSuccess
      onFailure := hfailure ▸ hc.onFailure
      failureEncounter := hencounter ▸ hc.failureEncounter
      ability := hability ▸ hc.ability }
  · exact of_decide_eq_true h ▸ ha

lemma representableChoice_of_same (a b : Choice) (h : a.same b = true)
    (ha : RepresentableChoice a) : RepresentableChoice b := by
  unfold Choice.same at h
  simp only [Bool.and_eq_true, decide_eq_true_eq] at h
  obtain ⟨⟨⟨hid, hlabel⟩, hrequirements⟩, hmechanic⟩ := h
  exact {
    id := hid ▸ ha.id
    label := hlabel ▸ ha.label
    requirements :=
      forall_of_sameLists representableRequirement_of_same hrequirements ha.requirements
    mechanic := representableMechanic_of_same _ _ hmechanic ha.mechanic }

lemma representableNode_of_same (a b : Node) (h : a.same b = true) (ha : RepresentableNode a) :
    RepresentableNode b := by
  unfold Node.same at h
  simp only [Bool.and_eq_true, decide_eq_true_eq] at h
  obtain ⟨⟨⟨⟨⟨hid, htype⟩, htext⟩, himage⟩, honEnter⟩, hchoices⟩ := h
  exact {
    id := hid ▸ ha.id
    type := htype ▸ ha.type
    text := htext ▸ ha.text
    image := himage ▸ ha.image
    onEnter := forall_of_sameLists representableAction_of_same honEnter ha.onEnter
    choices := forall_of_sameLists representableChoice_of_same hchoices ha.choices }

lemma representableItem_of_same (a b : Item) (h : a.same b = true) (ha : RepresentableItem a) :
    RepresentableItem b := by
  unfold Item.same at h
  simp only [Bool.and_eq_true, decide_eq_true_eq] at h
  obtain ⟨⟨⟨⟨⟨⟨⟨⟨hid, hname⟩, htype⟩, hdamage⟩, hattack⟩, harmor⟩, heffect⟩, hscaling⟩, -⟩ := h
  exact {
    id := hid ▸ ha.id
    name := hname ▸ ha.name
    type := htype ▸ ha.type
    damage := hdamage ▸ ha.damage
    attackBonus := forall_of_sameOption exactNumber_of_eq hattack ha.attackBonus
    armorBonus := forall_of_sameOption exactNumber_of_eq harmor ha.armorBonus
    effect := forall_of_sameOption representableAction_of_same heffect ha.effect
    scalingAttribute := hscaling ▸ ha.scalingAttribute }

lemma representableEnemy_of_same (a b : Enemy) (h : a.same b = true) (ha : RepresentableEnemy a) :
    RepresentableEnemy b := by
  unfold Enemy.same at h
  simp only [Bool.and_eq_true, decide_eq_true_eq] at h
  obtain ⟨⟨⟨⟨⟨⟨hid, hname⟩, hhp⟩, harmor⟩, hattack⟩, hdamage⟩, hreward⟩ := h
  exact {
    id := hid ▸ ha.id
    name := hname ▸ ha.name
    hp := exactNumber_of_eq _ _ hhp ha.hp
    armor := exactNumber_of_eq _ _ harmor ha.armor
    attackBonus := exactNumber_of_eq _ _ hattack ha.attackBonus
    damage := hdamage ▸ ha.damage
    reward := exactNumber_of_eq _ _ hreward ha.reward }

lemma representableSpawn_of_same (a b : Spawn) (h : a.same b = true) (ha : RepresentableSpawn a) :
    RepresentableSpawn b := by
  unfold Spawn.same at h
  rw [Bool.and_eq_true, decide_eq_true_eq] at h
  exact ⟨h.1 ▸ ha.1, exactNumber_of_eq _ _ h.2 ha.2⟩

lemma representableEncounter_of_same (a b : Encounter) (h : a.same b = true)
    (ha : RepresentableEncounter a) : RepresentableEncounter b := by
  unfold Encounter.same at h
  simp only [Bool.and_eq_true, decide_eq_true_eq] at h
  obtain ⟨⟨⟨⟨hid, hname⟩, hspawns⟩, hvictory⟩, hdefeat⟩ := h
  exact {
    id := hid ▸ ha.id
    name := hname ▸ ha.name
    spawns := forall_of_sameList representableSpawn_of_same hspawns ha.spawns
    onVictory := hvictory ▸ ha.onVictory
    onDefeat := hdefeat ▸ ha.onDefeat }

/-- Stories of the same values are representable together. -/
theorem representableStory_of_same {a b : Story} (h : a.same b = true)
    (ha : RepresentableStory a) : RepresentableStory b := by
  unfold Story.same at h
  simp only [Bool.and_eq_true] at h
  obtain ⟨⟨⟨hnodes, hitems⟩, henemies⟩, hencounters⟩ := h
  exact {
    nodes := forall_of_sameList representableNode_of_same hnodes ha.nodes
    items := forall_of_sameList representableItem_of_same hitems ha.items
    enemies := forall_of_sameList representableEnemy_of_same henemies ha.enemies
    encounters := forall_of_sameList representableEncounter_of_same hencounters ha.encounters }

/-! ## Normal forms -/

lemma forall_of_withoutEmpty {P : String → Prop} (hempty : P "") {o : Option String}
    (h : ∀ s ∈ withoutEmpty o, P s) : ∀ s ∈ o, P s := by
  intro s hs
  by_cases hne : s = ""
  · rw [hne]
    exact hempty
  · exact h s (Option.filter_eq_some_iff.mpr ⟨hs, by simpa using hne⟩)

lemma trimmed_of_nameOrId {name : String} {id : Filled} (h : Trimmed (nameOrId name id)) :
    Trimmed name := by
  unfold nameOrId at h
  by_cases hname : name = ""
  · rw [hname]
    exact trimmed_empty
  · rwa [if_neg hname] at h

lemma representable_of_normalMechanic {m : Mechanic}
    (h : RepresentableMechanic (normalMechanic m)) : RepresentableMechanic m := by
  cases m with
  | navigate nodeId => exact h
  | combat encounterId => exact h
  | skillCheck c =>
    have hc : RepresentableCheck { c with
      ability := withoutEmpty c.ability, failureEncounter := withoutEmpty c.failureEncounter } := h
    exact {
      dice := hc.dice
      difficulty := hc.difficulty
      onSuccess := hc.onSuccess
      onFailure := hc.onFailure
      failureEncounter := forall_of_withoutEmpty (by decide) hc.failureEncounter
      ability := forall_of_withoutEmpty (by decide) hc.ability }

lemma representable_of_normalChoice {c : Choice} (h : RepresentableChoice (normalChoice c)) :
    RepresentableChoice c where
  id := h.id
  label := h.label
  requirements := by
    have hrequirements := h.requirements
    unfold Choice.requirementList normalChoice at hrequirements
    rwa [getD_withoutEmptyList] at hrequirements
  mechanic := representable_of_normalMechanic h.mechanic

lemma representable_of_normalNode {n : Node} (h : RepresentableNode (normalNode n)) :
    RepresentableNode n where
  id := h.id
  type := h.type
  text := h.text
  image := forall_of_withoutEmpty trimmed_empty h.image
  onEnter := by
    have honEnter := h.onEnter
    unfold Node.actionList normalNode at honEnter
    rwa [getD_withoutEmptyList] at honEnter
  choices := by
    have hchoices := h.choices
    rw [choiceList_normalNode, List.forall_mem_map] at hchoices
    exact fun c hc => representable_of_normalChoice (hchoices c hc)

lemma representable_of_normalItem {i : Item} (h : RepresentableItem (normalItem i)) :
    RepresentableItem i :=
  { h with
    name := trimmed_of_nameOrId h.name
    damage := forall_of_withoutEmpty trimmed_empty h.damage
    scalingAttribute := forall_of_withoutEmpty trimmed_empty h.scalingAttribute }

lemma representable_of_normalEnemy {e : Enemy} (h : RepresentableEnemy (normalEnemy e)) :
    RepresentableEnemy e := { h with name := trimmed_of_nameOrId h.name }

lemma representable_of_normalEncounter {e : Encounter}
    (h : RepresentableEncounter (normalEncounter e)) : RepresentableEncounter e :=
  { h with
    name := by
      intro s hs
      have hname : Trimmed (nameOrId (e.name.getD "") e.id) := h.name _ rfl
      rw [Option.mem_def] at hs
      rw [hs] at hname
      exact trimmed_of_nameOrId hname }

/-- A story is representable if its normal form is. -/
theorem representable_of_normalStory {s : Story} (h : RepresentableStory (normalStory s)) :
    RepresentableStory s where
  nodes _ hn := representable_of_normalNode (h.nodes _ (List.mem_map_of_mem hn))
  items _ hi := representable_of_normalItem (h.items _ (List.mem_map_of_mem hi))
  enemies _ he := representable_of_normalEnemy (h.enemies _ (List.mem_map_of_mem he))
  encounters _ he := representable_of_normalEncounter (h.encounters _ (List.mem_map_of_mem he))

end Gamebook.Proofs
