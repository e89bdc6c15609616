import Gamebook.Proofs.Violations
import Mathlib.Data.List.Basic

/-!
# Checks are local

What is reported on an entity depends on the entity and, for each of its references, on whether the
key is there. The rest of a story may change at will: new entities never bring in a report on an
old one, and a report on it comes or goes only with a key that it refers to.
-/

namespace Gamebook.Proofs

/-! ## Entities and their references -/

/-- An entity of any kind. -/
inductive Entity where
  | node (n : Node)
  | item (i : Item)
  | enemy (e : Enemy)
  | encounter (e : Encounter)

namespace Entity

def kind : Entity → EntityKind
  | node _ => .node
  | item _ => .item
  | enemy _ => .enemy
  | encounter _ => .encounter

def id : Entity → String
  | node n => n.id.text
  | item i => i.id.text
  | enemy e => e.id.text
  | encounter e => e.id.text

/-- Entities are told apart by kind and id. -/
def owner (e : Entity) : EntityKind × String := (e.kind, e.id)

end Entity

/-- All entities of a story. -/
def entities (s : Story) : List Entity :=
  s.nodes.toList.map .node ++ s.encounters.toList.map .encounter ++ s.items.toList.map .item ++
    s.enemies.toList.map .enemy

/-- The keys of the entities of a kind. -/
def keysOf (keys : Keys) : EntityKind → List String
  | .node => keys.nodes
  | .item => keys.items
  | .enemy => keys.enemies
  | .encounter => keys.encounters

/-- A reference to an entity of a kind, and what names the place where it is made. -/
structure Reference where
  kind : EntityKind
  key : String
  place : Entries Json

namespace Reference

/-- The story has no entity under the key. -/
def Dangles (s : Story) (r : Reference) : Prop := r.key ∉ keysOf s.keys r.kind

instance (s : Story) : DecidablePred (Dangles s) := fun _ =>
  inferInstanceAs (Decidable (_ ∉ _))

/-- The code for references to entities of a kind. -/
def code : EntityKind → String
  | .node => "DATA002"
  | .item => "DATA003"
  | .enemy => "DATA004"
  | .encounter => "DATA005"

/-- What is reported of a reference that leads nowhere. -/
def report (r : Reference) : Report :=
  errorReport (code r.kind) (r.place ++ refContext r.key r.kind.name)

end Reference

/-- The references of the mechanic of a choice. -/
def mechanicReferences (place : Entries Json) : Mechanic → List Reference
  | .navigate nodeId => [⟨.node, nodeId.text, place⟩]
  | .combat encounterId => [⟨.encounter, encounterId.text, place⟩]
  | .skillCheck c =>
    [⟨.node, c.onSuccess, place⟩, ⟨.node, c.onFailure, place⟩] ++
      (c.failureEncounter.toList.filter (· ≠ "")).map fun key => ⟨.encounter, key, place⟩

def requirementReferences (place : Entries Json) : Requirement → List Reference
  | .hasItem itemId => [⟨.item, itemId.text, place⟩]
  | _ => []

def actionReferences (place : Entries Json) : Action → List Reference
  | .addItem itemId _ => [⟨.item, itemId.text, place⟩]
  | .removeItem itemId _ => [⟨.item, itemId.text, place⟩]
  | _ => []

def choiceReferences (n : Node) (c : Choice) : List Reference :=
  mechanicReferences (choiceContext n c) c.mechanic ++
    c.requirementList.flatMap (requirementReferences (choiceContext n c))

/-- The references of an entity, in the order in which it makes them. -/
def references : Entity → List Reference
  | .node n =>
    n.choiceList.flatMap (choiceReferences n) ++
      n.actionList.flatMap (actionReferences [("nodeId", n.id.text)])
  | .item i => i.effect.toList.flatMap (actionReferences [("itemId", i.id.text)])
  | .enemy _ => []
  | .encounter e =>
    e.spawns.map (fun spawn => ⟨.enemy, spawn.enemyId.text, [("encounterId", e.id.text)]⟩) ++
      [⟨.node, e.onVictory, [("encounterId", e.id.text)]⟩,
        ⟨.node, e.onDefeat, [("encounterId", e.id.text)]⟩]

/-! ## Issues of an entity -/

/-- The reference that an issue is about. -/
def referenceOf? : Issue → Option Reference
  | .choiceTarget p _ ref => some ⟨.node, ref, p.context⟩
  | .combatTarget p ref => some ⟨.encounter, ref, p.context⟩
  | .failureEncounter p ref => some ⟨.encounter, ref, p.context⟩
  | .requiredItem p ref => some ⟨.item, ref, p.context⟩
  | .enterItem n _ ref => some ⟨.item, ref, [("nodeId", n)]⟩
  | .spawnEnemy e ref => some ⟨.enemy, ref, [("encounterId", e)]⟩
  | .resolutionTarget e _ ref => some ⟨.node, ref, [("encounterId", e)]⟩
  | .effectItem i _ ref => some ⟨.item, ref, [("itemId", i)]⟩
  | _ => none

/-- The entity that an issue is about. The issues of the graph are about no entity by itself. -/
def ownerOf? : Issue → Option (EntityKind × String)
  | .nodeType n _ => some (.node, n)
  | .choiceTarget p _ _ => some (.node, p.nodeId)
  | .combatTarget p _ => some (.node, p.nodeId)
  | .failureEncounter p _ => some (.node, p.nodeId)
  | .checkDice p _ => some (.node, p.nodeId)
  | .checkAbility p _ => some (.node, p.nodeId)
  | .requiredItem p _ => some (.node, p.nodeId)
  | .statOperator p _ => some (.node, p.nodeId)
  | .statName p _ => some (.node, p.nodeId)
  | .enterItem n _ _ => some (.node, n)
  | .noSpawns e => some (.encounter, e)
  | .spawnEnemy e _ => some (.encounter, e)
  | .resolutionTarget e _ _ => some (.encounter, e)
  | .itemType i _ => some (.item, i)
  | .weaponDamage i => some (.item, i)
  | .effectItem i _ _ => some (.item, i)
  | .scaling i _ => some (.item, i)
  | .enemyHp e => some (.enemy, e)
  | .enemyArmor e => some (.enemy, e)
  | .enemyDamage e _ => some (.enemy, e)
  | .orphan _ => none
  | .deadEnd _ => none

/-- The issue stands with these keys: if it is about a reference, the key is missing. -/
def stands (keys : Keys) (issue : Issue) : Bool :=
  (referenceOf? issue).all fun r => !(keysOf keys r.kind).contains r.key

/-- The issues of an entity. -/
def issuesOf (keys : Keys) : Entity → List Issue
  | .node n => Check.node keys n
  | .item i => Check.item keys i
  | .enemy e => Check.enemy e
  | .encounter e => Check.encounter keys e

/-- No keys at all, so that every reference dangles. -/
def noKeys : Keys := ⟨[], [], [], []⟩

section

variable {keys : Keys} {issue : Issue} {condition : Bool} {place : ChoicePlace}

@[simp] lemma mem_issueIf {i : Issue} :
    i ∈ issueIf condition issue ↔ condition = true ∧ i = issue := by
  cases condition <;> simp [issueIf]

lemma filter_own (h : referenceOf? issue = none) :
    (issueIf condition issue).filter (stands keys) = issueIf condition issue := by
  refine List.filter_eq_self.mpr fun i hi => ?_
  obtain ⟨-, rfl⟩ := mem_issueIf.mp hi
  simp [stands, h]

/-- Without any keys a reference is reported on its own condition, with keys if its key is missing
as well. -/
lemma filter_reference {r : Reference} {here : Bool} (h : referenceOf? issue = some r)
    (hhere : here = (condition && !(keysOf keys r.kind).contains r.key)) :
    (issueIf condition issue).filter (stands keys) = issueIf here issue := by
  rw [hhere]
  cases condition with
  | false => rfl
  | true =>
    simp only [issueIf, Bool.true_and, if_true, List.filter_cons, List.filter_nil, stands, h,
      Option.all_some]

lemma filter_append_of {l l' m m' : List Issue} (h : l.filter (stands keys) = m)
    (h' : l'.filter (stands keys) = m') : (l ++ l').filter (stands keys) = m ++ m' := by
  rw [List.filter_append, h, h']

lemma filter_flatMap_of {α : Type} {l : List α} {f g : α → List Issue}
    (h : ∀ x, (f x).filter (stands keys) = g x) :
    (l.flatMap f).filter (stands keys) = l.flatMap g := by
  rw [List.filter_flatMap]
  exact congrArg l.flatMap (funext h)

/-- A reference that dangles without any keys is reported as long as its key is missing. -/
lemma filter_skillCheck (c : SkillCheck) :
    (Check.skillCheck noKeys place c).filter (stands keys) = Check.skillCheck keys place c := by
  refine filter_append_of (filter_append_of (filter_append_of (filter_append_of ?_ ?_) ?_) ?_) ?_
  · exact filter_reference rfl rfl
  · exact filter_reference rfl rfl
  · exact filter_reference rfl (by simp [noKeys, keysOf])
  · exact filter_own rfl
  · exact filter_own rfl

lemma filter_mechanic (m : Mechanic) :
    (Check.mechanic noKeys place m).filter (stands keys) = Check.mechanic keys place m := by
  cases m with
  | navigate nodeId => exact filter_reference rfl rfl
  | combat encounterId => exact filter_reference rfl rfl
  | skillCheck c => exact filter_skillCheck c

lemma filter_requirement (q : Requirement) :
    (Check.requirement noKeys place q).filter (stands keys) = Check.requirement keys place q := by
  cases q with
  | hasFlag key => rfl
  | notHasFlag key => rfl
  | hasItem itemId => exact filter_reference rfl rfl
  | statCheck stat operator value => exact filter_append_of (filter_own rfl) (filter_own rfl)

lemma filter_choice (nodeId : String) (c : Choice) :
    (Check.choice noKeys nodeId c).filter (stands keys) = Check.choice keys nodeId c :=
  filter_append_of (filter_mechanic c.mechanic) (filter_flatMap_of filter_requirement)

lemma filter_missingItem {a : Action} {f : String → Issue} {place : Entries Json}
    (h : ∀ key, referenceOf? (f key) = some ⟨.item, key, place⟩) :
    (Check.missingItem noKeys a f).filter (stands keys) = Check.missingItem keys a f := by
  unfold Check.missingItem
  cases a.itemId? with
  | none => rfl
  | some itemId => exact filter_reference (h itemId.text) rfl

/-- The issues of an entity are those of them that stand when every reference dangles. -/
theorem filter_issuesOf (keys : Keys) (e : Entity) :
    (issuesOf noKeys e).filter (stands keys) = issuesOf keys e := by
  cases e with
  | node n =>
    refine filter_append_of (filter_append_of (filter_own rfl) ?_) ?_
    · exact filter_flatMap_of fun c => filter_choice n.id.text c
    · exact filter_flatMap_of fun a => filter_missingItem fun _ => rfl
  | item i =>
    refine filter_append_of (filter_append_of (filter_append_of ?_ ?_) ?_) ?_
    · exact filter_own rfl
    · exact filter_own rfl
    · exact filter_flatMap_of fun a => filter_missingItem fun _ => rfl
    · exact filter_own rfl
  | enemy e =>
    refine filter_append_of (filter_append_of ?_ ?_) ?_
    all_goals exact filter_own rfl
  | encounter e =>
    refine filter_append_of (filter_append_of (filter_append_of ?_ ?_) ?_) ?_
    · exact filter_own rfl
    · exact filter_flatMap_of fun spawn => filter_reference rfl rfl
    · exact filter_reference rfl rfl
    · exact filter_reference rfl rfl

/-! ## References of the issues -/

@[simp] lemma filterMap_issueIf : (issueIf condition issue).filterMap referenceOf? =
    if condition then (referenceOf? issue).toList else [] := by
  cases condition with
  | false => rfl
  | true => cases h : referenceOf? issue <;> simp [issueIf, h]

@[simp] lemma filterMap_skillCheck (c : SkillCheck) :
    (Check.skillCheck noKeys place c).filterMap referenceOf? =
      mechanicReferences place.context (.skillCheck c) := by
  unfold Check.skillCheck mechanicReferences
  simp only [List.filterMap_append, filterMap_issueIf, referenceOf?, Option.toList_none, ite_self,
    List.append_nil]
  congr 1
  cases c.failureEncounter with
  | none => rfl
  | some key => by_cases hkey : key = "" <;> simp [hkey, noKeys]

@[simp] lemma filterMap_mechanic (m : Mechanic) :
    (Check.mechanic noKeys place m).filterMap referenceOf? =
      mechanicReferences place.context m := by
  cases m with
  | navigate nodeId => exact filterMap_issueIf
  | combat encounterId => exact filterMap_issueIf
  | skillCheck c => exact filterMap_skillCheck c

@[simp] lemma filterMap_requirement (q : Requirement) :
    (Check.requirement noKeys place q).filterMap referenceOf? =
      requirementReferences place.context q := by
  cases q with
  | hasFlag key => rfl
  | notHasFlag key => rfl
  | hasItem itemId => exact filterMap_issueIf
  | statCheck stat operator value => simp [Check.requirement, referenceOf?, requirementReferences]

lemma filterMap_missingItem {a : Action} {f : String → Issue} {place : Entries Json}
    (h : ∀ key, referenceOf? (f key) = some ⟨.item, key, place⟩) :
    (Check.missingItem noKeys a f).filterMap referenceOf? = actionReferences place a := by
  unfold Check.missingItem
  cases a with
  | addItem itemId quantity => simp [Action.itemId?, h, noKeys, actionReferences]
  | removeItem itemId quantity => simp [Action.itemId?, h, noKeys, actionReferences]
  | _ => rfl

lemma filterMap_choice (n : Node) (c : Choice) :
    (Check.choice noKeys n.id.text c).filterMap referenceOf? = choiceReferences n c := by
  unfold Check.choice choiceReferences
  simp only [List.filterMap_append, List.filterMap_flatMap, filterMap_mechanic,
    filterMap_requirement]
  rfl

/-- Without any keys, the references of an entity are reported one by one. -/
theorem filterMap_issuesOf (e : Entity) :
    (issuesOf noKeys e).filterMap referenceOf? = references e := by
  cases e with
  | node n =>
    simp only [issuesOf, Check.node, references, List.filterMap_append, List.filterMap_flatMap,
      filterMap_choice, filterMap_issueIf, referenceOf?, Option.toList_none, ite_self,
      List.nil_append]
    congr 2
    funext a
    exact filterMap_missingItem fun _ => rfl
  | item i =>
    simp only [issuesOf, Check.item, references, List.filterMap_append, List.filterMap_flatMap,
      filterMap_issueIf, referenceOf?, Option.toList_none, ite_self, List.nil_append,
      List.append_nil]
    congr 1
    funext a
    exact filterMap_missingItem fun _ => rfl
  | enemy e => simp [issuesOf, Check.enemy, references, referenceOf?]
  | encounter e =>
    simp only [issuesOf, Check.encounter, references, List.filterMap_append,
      List.filterMap_flatMap, filterMap_issueIf, referenceOf?, Option.toList_none, ite_self,
      List.nil_append]
    rw [List.append_assoc]
    congr 1
    exact List.map_eq_flatMap.symm

end

/-! ## Owners of the issues -/

/-- All issues are about the entity of a kind with an id. -/
def OwnedBy (owner : EntityKind × String) (issues : List Issue) : Prop :=
  ∀ issue ∈ issues, ownerOf? issue = some owner

section

variable {keys : Keys} {owner : EntityKind × String}

lemma ownedBy_issueIf {condition : Bool} {issue : Issue} (h : ownerOf? issue = some owner) :
    OwnedBy owner (issueIf condition issue) := by
  intro i hi
  obtain ⟨-, rfl⟩ := mem_issueIf.mp hi
  exact h

lemma ownedBy_append {l l' : List Issue} (h : OwnedBy owner l) (h' : OwnedBy owner l') :
    OwnedBy owner (l ++ l') :=
  fun i hi => (List.mem_append.mp hi).elim (h i) (h' i)

lemma ownedBy_flatMap {α : Type} {l : List α} {f : α → List Issue}
    (h : ∀ x, OwnedBy owner (f x)) : OwnedBy owner (l.flatMap f) := by
  intro i hi
  obtain ⟨x, -, hx⟩ := List.mem_flatMap.mp hi
  exact h x i hx

lemma ownedBy_nil : OwnedBy owner [] := fun _ hi => absurd hi (List.not_mem_nil)

lemma ownedBy_mechanic (place : ChoicePlace) (m : Mechanic) :
    OwnedBy (.node, place.nodeId) (Check.mechanic keys place m) := by
  cases m with
  | navigate nodeId => exact ownedBy_issueIf rfl
  | combat encounterId => exact ownedBy_issueIf rfl
  | skillCheck c =>
    refine ownedBy_append (ownedBy_append (ownedBy_append (ownedBy_append ?_ ?_) ?_) ?_) ?_
    all_goals exact ownedBy_issueIf rfl

lemma ownedBy_requirement (place : ChoicePlace) (q : Requirement) :
    OwnedBy (.node, place.nodeId) (Check.requirement keys place q) := by
  cases q with
  | hasFlag key => exact ownedBy_nil
  | notHasFlag key => exact ownedBy_nil
  | hasItem itemId => exact ownedBy_issueIf rfl
  | statCheck stat operator value =>
    exact ownedBy_append (ownedBy_issueIf rfl) (ownedBy_issueIf rfl)

lemma ownedBy_missingItem {a : Action} {f : String → Issue}
    (h : ∀ key, ownerOf? (f key) = some owner) : OwnedBy owner (Check.missingItem keys a f) := by
  unfold Check.missingItem
  cases a.itemId? with
  | none => exact ownedBy_nil
  | some itemId => exact ownedBy_issueIf (h itemId.text)

lemma ownedBy_issuesOf (e : Entity) : OwnedBy e.owner (issuesOf keys e) := by
  cases e with
  | node n =>
    refine ownedBy_append (ownedBy_append (ownedBy_issueIf rfl) (ownedBy_flatMap fun c => ?_))
      (ownedBy_flatMap fun a => ownedBy_missingItem fun _ => rfl)
    exact ownedBy_append (ownedBy_mechanic ⟨n.id.text, c.id.text⟩ c.mechanic)
      (ownedBy_flatMap fun q => ownedBy_requirement ⟨n.id.text, c.id.text⟩ q)
  | item i =>
    refine ownedBy_append (ownedBy_append (ownedBy_append ?_ ?_) ?_) ?_
    · exact ownedBy_issueIf rfl
    · exact ownedBy_issueIf rfl
    · exact ownedBy_flatMap fun a => ownedBy_missingItem fun _ => rfl
    · exact ownedBy_issueIf rfl
  | enemy e =>
    refine ownedBy_append (ownedBy_append ?_ ?_) ?_
    all_goals exact ownedBy_issueIf rfl
  | encounter e =>
    refine ownedBy_append (ownedBy_append (ownedBy_append ?_ ?_) ?_) ?_
    · exact ownedBy_issueIf rfl
    · exact ownedBy_flatMap fun spawn => ownedBy_issueIf rfl
    · exact ownedBy_issueIf rfl
    · exact ownedBy_issueIf rfl

end

def isOf (e : Entity) (issue : Issue) : Bool := ownerOf? issue = some e.owner

section

variable {s : Story} {e : Entity} {keys : Keys}

lemma pairwise_owner {α : Type} [Keyed α] (c : Collection α) {wrap : α → Entity}
    (hwrap : ∀ x, (wrap x).id = Keyed.key x) :
    (c.toList.map wrap).Pairwise fun e e' => e.owner ≠ e'.owner := by
  rw [List.pairwise_map]
  refine (List.pairwise_map.mp c.distinct).imp fun {x y} hkey howner => hkey ?_
  rw [← hwrap x, ← hwrap y]
  exact congrArg Prod.snd howner

lemma nodup_owners (s : Story) : ((entities s).map Entity.owner).Nodup := by
  refine List.pairwise_map.mpr ?_
  unfold entities
  rw [List.pairwise_append, List.pairwise_append, List.pairwise_append]
  refine ⟨⟨⟨pairwise_owner _ fun _ => rfl, pairwise_owner _ fun _ => rfl, ?_⟩,
    pairwise_owner _ fun _ => rfl, ?_⟩, pairwise_owner _ fun _ => rfl, ?_⟩
  -- Across the collections the kinds differ.
  all_goals simp [or_imp, forall_and, Entity.owner, Entity.kind]

lemma entityIssues_eq (s : Story) : s.entityIssues = (entities s).flatMap (issuesOf s.keys) := by
  unfold entities
  simp only [List.flatMap_append, List.flatMap_map]
  rfl

/-- The issues of a story that are about one of its entities are the issues of the entity. -/
theorem filter_entityIssues (h : e ∈ entities s) :
    s.entityIssues.filter (isOf e) = issuesOf s.keys e := by
  obtain ⟨before, after, hsplit⟩ := List.append_of_mem h
  have hdistinct := nodup_owners s
  rw [hsplit, List.map_append, List.map_cons, List.perm_middle.nodup_iff, List.nodup_cons,
    ← List.map_append] at hdistinct
  have hself : (issuesOf s.keys e).filter (isOf e) = issuesOf s.keys e :=
    List.filter_eq_self.mpr fun i hi => decide_eq_true (ownedBy_issuesOf e i hi)
  -- The entities before and after it have other owners, so none of their issues is about it.
  have hothers : ∀ l : List Entity, l ⊆ before ++ after →
      (l.flatMap (issuesOf s.keys)).filter (isOf e) = [] := by
    intro l hl
    refine List.filter_eq_nil_iff.mpr fun i hi hof => ?_
    obtain ⟨other, hother, hi⟩ := List.mem_flatMap.mp hi
    have howner : other.owner = e.owner :=
      Option.some.inj ((ownedBy_issuesOf other i hi).symm.trans (of_decide_eq_true hof))
    exact hdistinct.1 (howner ▸ List.mem_map_of_mem (hl hother))
  rw [entityIssues_eq, hsplit, List.flatMap_append, List.flatMap_cons, List.filter_append,
    List.filter_append, hself, hothers before (List.subset_append_left _ _),
    hothers after (List.subset_append_right _ _), List.nil_append, List.append_nil]

end

/-! ## Diagnostics -/

/-- The id of the entity of a kind that the context of a diagnostic names. -/
def idNamed? (kind : EntityKind) (d : Diagnostic) : Option String :=
  (d.contextValue? kind.contextKey).bind Json.string?

/-- The diagnostic is about the entity. -/
def isAbout (e : Entity) (d : Diagnostic) : Bool := idNamed? e.kind d = some e.id

/-- All that a verdict says, errors first. -/
def said (v : Verdict) : List Diagnostic := v.errors ++ v.warnings

/-- What is reported on an entity of a story, errors first. -/
def remarks (v : Verdict) (e : Entity) : List Diagnostic := (said v).filter (isAbout e)

def ownCodes : List String := ["DATA006", "DATA010", "DATA011", "DATA012", "DATA013"]

/-- The codes of references that lead nowhere. -/
def referenceCodes : List String := ["DATA002", "DATA003", "DATA004", "DATA005"]

/-- What is reported of some issues, errors first. -/
def saidOf (issues : List Issue) : List Diagnostic :=
  said (.ofDiagnostics (issues.map Issue.diagnostic))

section

variable {issue : Issue} {issues : List Issue}

lemma idNamed?_diagnostic {owner : EntityKind × String} (h : ownerOf? issue = some owner)
    (kind : EntityKind) :
    idNamed? kind issue.diagnostic = if kind = owner.1 then some owner.2 else none := by
  cases issue <;> cases h <;> cases kind <;> rfl

lemma isAbout_diagnostic {e e' : Entity} (h : ownerOf? issue = some e'.owner) :
    isAbout e issue.diagnostic = isOf e issue := by
  unfold isAbout isOf
  rw [idNamed?_diagnostic h, h]
  unfold Entity.owner
  by_cases hkind : e.kind = e'.kind <;> simp [hkind, eq_comm]

lemma report_of_reference {r : Reference} (h : referenceOf? issue = some r) :
    report issue.diagnostic = r.report := by
  cases issue <;> cases h <;> rfl

lemma code_of_reference {r : Reference} (h : referenceOf? issue = some r) :
    issue.diagnostic.code ∈ referenceCodes ∧ issue.diagnostic.code ∉ ownCodes ∧
      issue.diagnostic.severity = .error := by
  cases issue <;> cases h <;> simp [Issue.diagnostic, Issue.error, referenceCodes, ownCodes]

lemma code_of_own {owner : EntityKind × String} (howner : ownerOf? issue = some owner)
    (h : referenceOf? issue = none) :
    issue.diagnostic.code ∈ ownCodes ∧ issue.diagnostic.code ∉ referenceCodes := by
  cases issue <;> cases h <;> cases howner <;>
    simp [Issue.diagnostic, Issue.error, Issue.warning, referenceCodes, ownCodes]

lemma mem_saidOf {d : Diagnostic} : d ∈ saidOf issues ↔ ∃ issue ∈ issues, issue.diagnostic = d := by
  unfold saidOf said Verdict.ofDiagnostics
  rw [List.mem_append, List.mem_filter, List.mem_filter, ← and_or_left, List.mem_map,
    decide_eq_true_eq, decide_eq_true_eq]
  exact and_iff_left (em _)

lemma filter_saidOf (p : Diagnostic → Bool) :
    (saidOf issues).filter p = saidOf (issues.filter fun issue => p issue.diagnostic) := by
  have hmap : (issues.filter fun issue => p issue.diagnostic).map Issue.diagnostic =
      (issues.map Issue.diagnostic).filter p := List.filter_map.symm
  have hcomm : ∀ (q : Diagnostic → Bool) (l : List Diagnostic),
      (l.filter q).filter p = (l.filter p).filter q := by
    intro q l
    rw [List.filter_filter, List.filter_filter]
    exact List.filter_congr fun d _ => Bool.and_comm _ _
  unfold saidOf said Verdict.ofDiagnostics
  dsimp only
  rw [hmap, List.filter_append, hcomm, hcomm]

lemma saidOf_sublist {issues' : List Issue} (h : issues.Sublist issues') :
    (saidOf issues).Sublist (saidOf issues') :=
  ((h.map _).filter _).append ((h.map _).filter _)

lemma saidOf_errors (h : ∀ issue ∈ issues, issue.diagnostic.severity = .error) :
    saidOf issues = issues.map Issue.diagnostic := by
  have hall : ∀ d ∈ issues.map Issue.diagnostic, d.severity = .error := by
    intro d hd
    obtain ⟨issue, hissue, rfl⟩ := List.mem_map.mp hd
    exact h issue hissue
  unfold saidOf said Verdict.ofDiagnostics
  rw [List.filter_eq_self.mpr fun d hd => decide_eq_true (hall d hd),
    List.filter_eq_nil_iff.mpr fun d hd => by simp [hall d hd], List.append_nil]

lemma map_report :
    ((issues.filter fun issue => (referenceOf? issue).isSome).map
      fun issue => report issue.diagnostic) =
        (issues.filterMap referenceOf?).map Reference.report := by
  induction issues with
  | nil => rfl
  | cons issue issues ih =>
    cases h : referenceOf? issue with
    | none => simp [h, ih]
    | some r => simp [h, ih, report_of_reference h]

end

section

variable {s t : Story} {e : Entity} {keys : Keys}

lemma remarks_eq (h : e ∈ entities s) : remarks s.entityVerdict e = saidOf (issuesOf s.keys e) := by
  rw [← filter_entityIssues h]
  refine (filter_saidOf _).trans (congrArg saidOf (List.filter_congr fun issue hissue => ?_))
  rw [entityIssues_eq] at hissue
  obtain ⟨e', -, hissue⟩ := List.mem_flatMap.mp hissue
  exact isAbout_diagnostic (ownedBy_issuesOf e' issue hissue)

lemma code_of_mem {issue : Issue} (h : issue ∈ issuesOf keys e) :
    issue.diagnostic.code ∈ ownCodes ∨ issue.diagnostic.code ∈ referenceCodes := by
  cases hr : referenceOf? issue with
  | none => exact .inl (code_of_own (ownedBy_issuesOf e issue h) hr).1
  | some r => exact .inr (code_of_reference hr).1

lemma isOwn_eq {issue : Issue} (h : issue ∈ issuesOf keys e) :
    decide (issue.diagnostic.code ∈ ownCodes) = (referenceOf? issue).isNone := by
  cases hr : referenceOf? issue with
  | none => exact decide_eq_true (code_of_own (ownedBy_issuesOf e issue h) hr).1
  | some r => exact decide_eq_false (code_of_reference hr).2.1

lemma isReference_eq {issue : Issue} (h : issue ∈ issuesOf keys e) :
    decide (issue.diagnostic.code ∈ referenceCodes) = (referenceOf? issue).isSome := by
  cases hr : referenceOf? issue with
  | none => exact decide_eq_false (code_of_own (ownedBy_issuesOf e issue h) hr).2
  | some r => exact decide_eq_true (code_of_reference hr).1

lemma filterMap_stands (issues : List Issue) :
    (issues.filter (stands keys)).filterMap referenceOf? =
      (issues.filterMap referenceOf?).filter fun r => r.key ∉ keysOf keys r.kind := by
  induction issues with
  | nil => rfl
  | cons issue issues ih =>
    cases h : referenceOf? issue with
    | none => simp [stands, h, ih]
    | some r =>
      by_cases hr : r.key ∈ keysOf keys r.kind <;> simp [stands, h, hr, ih]

lemma reports_dangling (h : e ∈ entities s) :
    ((remarks s.entityVerdict e).filter fun d => d.code ∈ referenceCodes).map report =
      ((references e).filter (Reference.Dangles s ·)).map Reference.report := by
  have hreferences : (issuesOf s.keys e).filterMap referenceOf? =
      (references e).filter (Reference.Dangles s ·) := by
    rw [← filter_issuesOf, filterMap_stands, filterMap_issuesOf]
    rfl
  have herrors : ∀ issue ∈ (issuesOf s.keys e).filter fun issue => (referenceOf? issue).isSome,
      issue.diagnostic.severity = .error := by
    intro issue hissue
    obtain ⟨r, hr⟩ := Option.isSome_iff_exists.mp (List.mem_filter.mp hissue).2
    exact (code_of_reference hr).2.2
  rw [remarks_eq h, filter_saidOf, List.filter_congr fun issue hissue => isReference_eq hissue,
    saidOf_errors herrors, List.map_map, ← hreferences]
  exact map_report

/-- The reports on an entity in itself do not depend on the story. -/
lemma reports_own (h : e ∈ entities s) :
    (remarks s.entityVerdict e).filter (fun d => d.code ∈ ownCodes) =
      saidOf ((issuesOf noKeys e).filter fun issue => (referenceOf? issue).isNone) := by
  rw [remarks_eq h, filter_saidOf, List.filter_congr fun issue hissue => isOwn_eq hissue,
    ← filter_issuesOf, List.filter_filter]
  refine congrArg saidOf (List.filter_congr fun issue _ => ?_)
  cases hr : referenceOf? issue <;> simp [stands, hr]

lemma mem_references {issue : Issue} {r : Reference} (h : issue ∈ issuesOf noKeys e)
    (hr : referenceOf? issue = some r) : r ∈ references e := by
  rw [← filterMap_issuesOf]
  exact List.mem_filterMap.mpr ⟨issue, h, hr⟩

lemma stands_iff {issue : Issue} :
    stands s.keys issue = true ↔ ∀ r, referenceOf? issue = some r → r.Dangles s := by
  unfold stands Reference.Dangles
  cases referenceOf? issue <;> simp

lemma mem_remarks (h : e ∈ entities s) {d : Diagnostic} :
    d ∈ remarks s.entityVerdict e ↔ ∃ issue ∈ issuesOf noKeys e, issue.diagnostic = d ∧
      ∀ r, referenceOf? issue = some r → r.Dangles s := by
  simp only [remarks_eq h, mem_saidOf, ← filter_issuesOf s.keys, List.mem_filter, stands_iff]
  exact exists_congr fun issue => by tauto

end

/-! ## Locality -/

/-- What two verdicts on stories report on an entity that both stories have. -/
structure Local (s t : Story) (v w : Verdict) (e : Entity) : Prop where
  codes : ∀ d ∈ remarks w e, d.code ∈ ownCodes ∨ d.code ∈ referenceCodes
  own : (remarks w e).filter (fun d => d.code ∈ ownCodes) =
    (remarks v e).filter fun d => d.code ∈ ownCodes
  dangling : ((remarks w e).filter fun d => d.code ∈ referenceCodes).map report =
    ((references e).filter (Reference.Dangles t ·)).map Reference.report
  /-- Adding entities adds no report. -/
  added : (∀ kind, keysOf s.keys kind ⊆ keysOf t.keys kind) → (remarks w e).Sublist (remarks v e)
  /-- A report comes or goes with the key of a reference. -/
  changed : ∀ d, (d ∈ remarks w e ↔ d ∈ remarks v e) ∨
    ∃ r ∈ references e, report d = r.report ∧ ¬(r.Dangles t ↔ r.Dangles s)
  kept : (∀ r ∈ references e, r.Dangles t ↔ r.Dangles s) → remarks w e = remarks v e

lemma local_entityVerdict {s t : Story} {e : Entity} (hs : e ∈ entities s) (ht : e ∈ entities t) :
    Local s t s.entityVerdict t.entityVerdict e := by
  constructor
  case codes =>
    intro d hd
    rw [remarks_eq ht] at hd
    obtain ⟨issue, hissue, rfl⟩ := mem_saidOf.mp hd
    exact code_of_mem hissue
  case own => rw [reports_own hs, reports_own ht]
  case dangling => exact reports_dangling ht
  case added =>
    intro hkeys
    rw [remarks_eq hs, remarks_eq ht, ← filter_issuesOf s.keys, ← filter_issuesOf t.keys]
    refine saidOf_sublist (List.monotone_filter_right _ fun issue h => ?_)
    rw [stands_iff] at h ⊢
    exact fun r hr hkey => h r hr (hkeys r.kind hkey)
  case changed =>
    intro d
    by_contra hd
    obtain ⟨hne, halike⟩ := not_or.mp hd
    -- Both stories report on the same issues as long as the references of these dangle alike.
    refine hne ?_
    rw [mem_remarks hs, mem_remarks ht]
    refine exists_congr fun issue => and_congr_right fun hissue => and_congr_right fun hdiag => ?_
    refine forall_congr' fun r => forall_congr' fun hr => ?_
    by_contra hdangles
    exact halike ⟨r, mem_references hissue hr, hdiag ▸ report_of_reference hr, hdangles⟩
  case kept =>
    intro h
    rw [remarks_eq hs, remarks_eq ht, ← filter_issuesOf s.keys, ← filter_issuesOf t.keys]
    refine congrArg saidOf (List.filter_congr fun issue hissue => ?_)
    rw [Bool.eq_iff_iff, stands_iff, stands_iff]
    exact forall_congr' fun r => forall_congr' fun hr => h r (mem_references hissue hr)

/-- Checks are local. What they report on an entity that two stories have is told by the entity and
by which of its references lead nowhere. Only dice that cannot be read, in whichever entity, keep
the check from reporting at all. -/
theorem remarks_local (s t : Story) (e : Entity) (hs : e ∈ entities s) (ht : e ∈ entities t) :
    (∀ v w, s.checkEntities = .ok v → t.checkEntities = .ok w → Local s t v w e) ∧
      (t.checkEntities = .error ⟨⟩ ↔ ¬ReadableDice t) := by
  refine ⟨fun v w hv hw => ?_, checkEntities_error_iff⟩
  obtain ⟨-, rfl⟩ := checkEntities_ok_iff.mp hv
  obtain ⟨-, rfl⟩ := checkEntities_ok_iff.mp hw
  exact local_entityVerdict hs ht

/-- A well whose one choice takes a rope and leads down a shaft. -/
def wellNode : Node where
  id := ⟨"well", by decide⟩
  type := "narrative"
  text := "A well"
  image := none
  onEnter := none
  choices := some [
    { id := ⟨"descend", by decide⟩
      label := "Climb down"
      requirements := some [.hasItem ⟨"rope", by decide⟩]
      mechanic := .navigate ⟨"shaft", by decide⟩ }]

def wellStory : Story where
  nodes := ⟨[wellNode], by decide⟩
  items := .empty
  enemies := .empty
  encounters := .empty

def ropeStory : Story where
  nodes := ⟨[wellNode], by decide⟩
  items := ⟨[
    { id := ⟨"rope", by decide⟩
      name := "Rope"
      type := "tool"
      damage := none
      attackBonus := none
      armorBonus := none
      effect := none
      scalingAttribute := none
      areaOfEffect := none }], by decide⟩
  enemies := .empty
  encounters := .empty

theorem remarks_local_well : ∃ v w, wellStory.checkEntities = .ok v ∧
    ropeStory.checkEntities = .ok w ∧
    (remarks v (.node wellNode)).map Diagnostic.code = ["DATA002", "DATA003"] ∧
    (remarks w (.node wellNode)).map Diagnostic.code = ["DATA002"] ∧
    Local wellStory ropeStory v w (.node wellNode) := by
  have hwell : Entity.node wellNode ∈ entities wellStory := List.mem_singleton_self _
  have hrope : Entity.node wellNode ∈ entities ropeStory := List.mem_cons_self
  refine ⟨_, _, rfl, rfl, by decide, by decide, ?_⟩
  exact (remarks_local wellStory ropeStory (.node wellNode) hwell hrope).1 _ _ rfl rfl

/-- The story of the well with an enemy whose damage cannot be read. -/
def giantWellStory : Story := { wellStory with enemies := giantStory.enemies }

/-- The two dangling references of the well are reported in its story by itself, but nothing is once
the enemy is there. -/
theorem giant_silences_well : Entity.node wellNode ∈ entities wellStory ∧
    Entity.node wellNode ∈ entities giantWellStory ∧
    (∃ v, wellStory.checkEntities = .ok v ∧
      (remarks v (.node wellNode)).map Diagnostic.code = ["DATA002", "DATA003"]) ∧
    giantWellStory.checkEntities = .error ⟨⟩ := by
  refine ⟨List.mem_singleton_self _, List.mem_cons_self, ⟨_, rfl, by decide⟩, ?_⟩
  exact checkEntities_error_iff.mpr (not_readableDice_giant List.mem_cons_self)

end Gamebook.Proofs
