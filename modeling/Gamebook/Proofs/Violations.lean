import Gamebook.Proofs.ReadableDice
import Mathlib.Data.Set.Lattice
import Mathlib.Order.CompletePartialOrder

/-!
# Violations of the rules

The rules that a story must keep, told without the checker: each place in a story has its rule, and
breaking it calls for one report. The checker reports exactly the violations, each of them once,
unless dice that cannot be read stop it.
-/

namespace Gamebook.Proofs

/-- What a diagnostic says, but for its wording. -/
structure Report where
  code : String
  severity : Severity
  context : Option (Entries Json)

def report (d : Diagnostic) : Report := ⟨d.code, d.severity, d.context⟩

def errorReport (code : String) (context : Entries Json) : Report := ⟨code, .error, some context⟩

def warningReport (code : String) (context : Entries Json) : Report :=
  ⟨code, .warning, some context⟩

/-! ## The rules -/

/-- The rules for the mechanic of a choice. -/
inductive MechanicRule where
  | navigate
  | combat
  | success
  | failure
  | failureEncounter
  | dice
  | ability

/-- The rules for a requirement of a choice. -/
inductive RequirementRule where
  | item
  | operator
  | stat

inductive ItemRule where
  | type
  | damage
  | effect
  | scaling

inductive EnemyRule where
  | hp
  | armor
  | damage

/-- A place where a rule holds or is broken. Entities and their parts are counted from zero. -/
inductive Site where
  | nodeType (node : ℕ)
  | mechanic (node choice : ℕ) (rule : MechanicRule)
  | requirement (node choice requirement : ℕ) (rule : RequirementRule)
  | onEnter (node action : ℕ)
  | noSpawns (encounter : ℕ)
  | spawn (encounter spawn : ℕ)
  | resolution (encounter : ℕ) (which : EncounterEnd)
  | item (item : ℕ) (rule : ItemRule)
  | enemy (enemy : ℕ) (rule : EnemyRule)

section

variable (s : Story) (n : Node) (c : Choice)

/-- The context of what is wrong with a choice. -/
def choiceContext : Entries Json := [("nodeId", n.id.text), ("choiceId", c.id.text)]

/-- The context of a reference that leads nowhere. -/
def refContext (ref kind : String) : Entries Json := [("ref", ref), ("refType", kind)]

/-- The action gives or takes the item. -/
def TouchesItem (a : Action) (itemId : Arg) : Prop :=
  ∃ quantity, a = .addItem itemId quantity ∨ a = .removeItem itemId quantity

/-- The mechanic of a choice breaks a rule. -/
def MechanicViolation : MechanicRule → Report → Prop
  | .navigate, r => ∃ target, c.mechanic = .navigate target ∧ target.text ∉ s.nodes.keys ∧
    r = errorReport "DATA002" (choiceContext n c ++ refContext target.text "node")
  | .combat, r => ∃ target, c.mechanic = .combat target ∧ target.text ∉ s.encounters.keys ∧
    r = errorReport "DATA005" (choiceContext n c ++ refContext target.text "encounter")
  | .success, r => ∃ check, c.mechanic = .skillCheck check ∧ check.onSuccess ∉ s.nodes.keys ∧
    r = errorReport "DATA002" (choiceContext n c ++ refContext check.onSuccess "node")
  | .failure, r => ∃ check, c.mechanic = .skillCheck check ∧ check.onFailure ∉ s.nodes.keys ∧
    r = errorReport "DATA002" (choiceContext n c ++ refContext check.onFailure "node")
  | .failureEncounter, r => ∃ check, c.mechanic = .skillCheck check ∧
    ∃ target ∈ check.failureEncounter, target ≠ "" ∧ target ∉ s.encounters.keys ∧
      r = errorReport "DATA005" (choiceContext n c ++ refContext target "encounter")
  | .dice, r => ∃ check, c.mechanic = .skillCheck check ∧
    Dice.isExpression check.dice.text = false ∧
    r = warningReport "DATA010" (choiceContext n c ++ [("value", .string check.dice.text)])
  | .ability, r => ∃ check, c.mechanic = .skillCheck check ∧
    ∃ ability ∈ check.ability, ability ≠ "" ∧ ability ∉ abilities ∧
      r = errorReport "DATA006" (choiceContext n c ++ [("attribute", .string ability)])

/-- A requirement of a choice breaks a rule. -/
def RequirementViolation (q : Requirement) : RequirementRule → Report → Prop
  | .item, r => ∃ itemId, q = .hasItem itemId ∧ itemId.text ∉ s.items.keys ∧
    r = errorReport "DATA003" (choiceContext n c ++ refContext itemId.text "item")
  | .operator, r => ∃ stat operator value, q = .statCheck stat operator value ∧
    operator.text ∉ statOperators ∧
    r = errorReport "DATA006" (choiceContext n c ++ [("operator", .string operator.text)])
  | .stat, r => ∃ stat operator value, q = .statCheck stat operator value ∧
    stat.text ∉ statNames ∧
    r = errorReport "DATA006" (choiceContext n c ++ [("stat", .string stat.text)])

/-- An item breaks a rule. -/
def ItemViolation (i : Item) : ItemRule → Report → Prop
  | .type, r => i.type ∉ itemTypes ∧
    r = errorReport "DATA006" [("itemId", i.id.text), ("type", i.type)]
  | .damage, r => i.type = "weapon" ∧ (i.damage = none ∨ i.damage = some "") ∧
    r = warningReport "DATA013" [("itemId", i.id.text)]
  | .effect, r => ∃ a ∈ i.effect, ∃ itemId, TouchesItem a itemId ∧ itemId.text ∉ s.items.keys ∧
    r = errorReport "DATA003" ([("itemId", .string i.id.text)] ++ refContext itemId.text "item")
  | .scaling, r => ∃ ability ∈ i.scalingAttribute, ability ≠ "" ∧ ability ∉ abilities ∧
    r = errorReport "DATA006" [("itemId", i.id.text), ("scalingAttribute", ability)]

/-- An enemy breaks a rule. -/
def EnemyViolation (e : Enemy) : EnemyRule → Report → Prop
  | .hp, r => e.hp.le 0 = true ∧ r = errorReport "DATA012" [("enemyId", e.id.text)]
  | .armor, r => e.armor.lt 0 = true ∧ r = errorReport "DATA012" [("enemyId", e.id.text)]
  | .damage, r => Dice.isExpression e.damage.text = false ∧
    r = warningReport "DATA010" [("enemyId", e.id.text), ("value", e.damage.text)]

/-- The node that an end of an encounter leads to. -/
def endTarget (e : Encounter) : EncounterEnd → String
  | .victory => e.onVictory
  | .defeat => e.onDefeat

/-- A rule is broken at a place, and this is to be reported. -/
def Violation : Site → Report → Prop
  | .nodeType i, r => ∃ n ∈ s.nodes.toList[i]?, n.type ∉ nodeTypes ∧
    r = errorReport "DATA006" [("nodeId", n.id.text), ("type", n.type)]
  | .mechanic i j rule, r => ∃ n ∈ s.nodes.toList[i]?, ∃ c ∈ n.choiceList[j]?,
    MechanicViolation s n c rule r
  | .requirement i j k rule, r => ∃ n ∈ s.nodes.toList[i]?, ∃ c ∈ n.choiceList[j]?,
    ∃ q ∈ c.requirementList[k]?, RequirementViolation s n c q rule r
  | .onEnter i j, r => ∃ n ∈ s.nodes.toList[i]?, ∃ a ∈ n.actionList[j]?,
    ∃ itemId, TouchesItem a itemId ∧ itemId.text ∉ s.items.keys ∧
    r = errorReport "DATA003" ([("nodeId", .string n.id.text)] ++ refContext itemId.text "item")
  | .noSpawns i, r => ∃ e ∈ s.encounters.toList[i]?, e.spawns = [] ∧
    r = errorReport "DATA011" [("encounterId", e.id.text)]
  | .spawn i j, r => ∃ e ∈ s.encounters.toList[i]?, ∃ spawn ∈ e.spawns[j]?,
    spawn.enemyId.text ∉ s.enemies.keys ∧
    r = errorReport "DATA004"
      ([("encounterId", .string e.id.text)] ++ refContext spawn.enemyId.text "enemy")
  | .resolution i which, r => ∃ e ∈ s.encounters.toList[i]?, endTarget e which ∉ s.nodes.keys ∧
    r = errorReport "DATA002"
      ([("encounterId", .string e.id.text)] ++ refContext (endTarget e which) "node")
  | .item i rule, r => ∃ item ∈ s.items.toList[i]?, ItemViolation s item rule r
  | .enemy i rule, r => ∃ enemy ∈ s.enemies.toList[i]?, EnemyViolation enemy rule r

end

/-! ## Exact lists of issues -/

section

variable {s : Story}

/-- The issues report what is broken at some places, each place once, and nothing else. -/
def Exact (s : Story) (scope : Set Site) (issues : List Issue) : Prop :=
  ∃ found : List (Site × Report), (found.map Prod.fst).Nodup ∧
    (∀ site r, (site, r) ∈ found ↔ site ∈ scope ∧ Violation s site r) ∧
    issues.map (fun issue => report issue.diagnostic) = found.map Prod.snd

lemma exact_issueIf {site : Site} {condition : Bool} {issue : Issue}
    (h : ∀ r, Violation s site r ↔ condition = true ∧ r = report issue.diagnostic) :
    Exact s {site} (issueIf condition issue) := by
  cases condition with
  | false =>
    refine ⟨[], by simp, fun place r => ?_, rfl⟩
    simp only [List.not_mem_nil, Set.mem_singleton_iff, false_iff, not_and]
    rintro rfl hr
    exact absurd ((h r).mp hr).1 (by simp)
  | true =>
    refine ⟨[(site, report issue.diagnostic)], by simp, fun place r => ?_, rfl⟩
    simp only [List.mem_singleton, Prod.mk.injEq, Set.mem_singleton_iff]
    constructor
    · rintro ⟨rfl, rfl⟩
      exact ⟨rfl, (h _).mpr ⟨rfl, rfl⟩⟩
    · rintro ⟨rfl, hr⟩
      exact ⟨rfl, ((h r).mp hr).2⟩

/-- Where nothing is broken, places count or not. -/
lemma exact_congr {scope scope' : Set Site} {issues : List Issue} (h : Exact s scope issues)
    (hscope : ∀ site r, Violation s site r → (site ∈ scope ↔ site ∈ scope')) :
    Exact s scope' issues := by
  obtain ⟨found, hnodup, hmem, hissues⟩ := h
  refine ⟨found, hnodup, fun site r => ?_, hissues⟩
  rw [hmem]
  exact and_congr_left fun hr => hscope site r hr

/-- The scope may go beyond what was checked, as long as nothing is broken out there. -/
lemma exact_widen {scope scope' : Set Site} {issues : List Issue} (h : Exact s scope issues)
    (hsub : scope ⊆ scope')
    (hbeyond : ∀ site ∈ scope', ∀ r, Violation s site r → site ∈ scope) :
    Exact s scope' issues :=
  exact_congr h fun site r hr => ⟨@hsub site, fun hsite => hbeyond site hsite r hr⟩

lemma exact_nil {scope : Set Site} (h : ∀ site ∈ scope, ∀ r, ¬Violation s site r) :
    Exact s scope [] := by
  refine ⟨[], by simp, fun site r => ?_, rfl⟩
  simp only [List.not_mem_nil, false_iff, not_and]
  exact fun hsite => h site hsite r

lemma exact_append {scope scope' : Set Site} {issues issues' : List Issue}
    (h : Exact s scope issues) (h' : Exact s scope' issues') (hdisjoint : Disjoint scope scope') :
    Exact s (scope ∪ scope') (issues ++ issues') := by
  obtain ⟨found, hnodup, hmem, hissues⟩ := h
  obtain ⟨found', hnodup', hmem', hissues'⟩ := h'
  refine ⟨found ++ found', ?_, fun site r => ?_, ?_⟩
  · rw [List.map_append, List.nodup_append]
    refine ⟨hnodup, hnodup', ?_⟩
    rintro site hsite _ hsite' rfl
    obtain ⟨⟨_, r⟩, hr, rfl⟩ := List.mem_map.mp hsite
    obtain ⟨⟨_, r'⟩, hr', rfl⟩ := List.mem_map.mp hsite'
    exact Set.disjoint_left.mp hdisjoint ((hmem _ r).mp hr).1 ((hmem' _ r').mp hr').1
  · rw [List.mem_append, hmem, hmem', Set.mem_union]
    tauto
  · rw [List.map_append, List.map_append, hissues, hissues']

/-- The places of the parts of a list. -/
def spread {α : Type} (l : List α) (scope : ℕ → Set Site) : Set Site :=
  {site | ∃ i < l.length, site ∈ scope i}

lemma exact_flatMap {α : Type} {l : List α} {f : α → List Issue} {scope : ℕ → Set Site}
    (h : ∀ i x, l[i]? = some x → Exact s (scope i) (f x))
    (hdisjoint : ∀ i j, i ≠ j → Disjoint (scope i) (scope j)) :
    Exact s (spread l scope) (l.flatMap f) := by
  induction l generalizing scope with
  | nil =>
    refine exact_nil fun site hsite => ?_
    obtain ⟨i, hi, -⟩ := hsite
    exact absurd hi (Nat.not_lt_zero i)
  | cons x l ih =>
    have hrest : Exact s (spread l fun i => scope (i + 1)) (l.flatMap f) :=
      ih (fun i y hy => h (i + 1) y hy) fun i j hij => hdisjoint _ _ (by omega)
    have hfirst : Disjoint (scope 0) (spread l fun i => scope (i + 1)) := by
      rw [Set.disjoint_left]
      rintro site hsite ⟨i, -, hi⟩
      exact Set.disjoint_left.mp (hdisjoint 0 (i + 1) (by omega)) hsite hi
    refine exact_congr (exact_append (h 0 x rfl) hrest hfirst) fun site r _ => ?_
    unfold spread
    simp only [Set.mem_union, Set.mem_ofPred_eq, List.length_cons]
    constructor
    · rintro (hsite | ⟨i, hi, hsite⟩)
      · exact ⟨0, by omega, hsite⟩
      · exact ⟨i + 1, by omega, hsite⟩
    · rintro ⟨i, hi, hsite⟩
      cases i with
      | zero => exact .inl hsite
      | succ i => exact .inr ⟨i, by omega, hsite⟩

lemma exact_parts {α : Type} {l : List α} {f : α → List Issue} {index : Site → Option ℕ}
    (h : ∀ i x, l[i]? = some x → Exact s {site | index site = some i} (f x))
    (hrange : ∀ site r i, Violation s site r → index site = some i → i < l.length) :
    Exact s {site | (index site).isSome = true} (l.flatMap f) := by
  have hspread : Exact s (spread l fun i => {site | index site = some i}) (l.flatMap f) := by
    refine exact_flatMap h fun i j hij => ?_
    rw [Set.disjoint_left]
    intro site hi hj
    exact hij (Option.some.inj (hi.symm.trans hj))
  refine exact_congr hspread fun site r hr => ?_
  constructor
  · rintro ⟨i, -, hi⟩
    exact Option.isSome_iff_exists.mpr ⟨i, hi⟩
  · intro hsome
    obtain ⟨i, hi⟩ := Option.isSome_iff_exists.mp hsome
    exact ⟨i, hrange site r i hr hi, hi⟩

lemma lt_of_getElem? {α : Type} {l : List α} {i : ℕ} {x : α} (h : x ∈ l[i]?) : i < l.length :=
  (List.getElem?_eq_some_iff.mp h).1

/-! ## Nodes -/

variable {i j k : ℕ} {n : Node} {c : Choice}

lemma violation_mechanic (hn : s.nodes.toList[i]? = some n) (hc : n.choiceList[j]? = some c)
    {rule : MechanicRule} {r : Report} :
    Violation s (.mechanic i j rule) r ↔ MechanicViolation s n c rule r := by
  simp [Violation, hn, hc]

/-- The places of the rules for the mechanic of a choice. -/
def mechanicSites (i j : ℕ) : Set Site := {site | ∃ rule, site = .mechanic i j rule}

lemma missing_iff {key : String} {keys : List String} :
    (!keys.contains key) = true ↔ key ∉ keys := by
  simp

/-- A text that may be missing counts only if it is not empty. -/
lemma unknown_iff {o : Option String} {known : List String} {P : String → Prop} :
    (∃ t ∈ o, t ≠ "" ∧ t ∉ known ∧ P t) ↔
      (o.getD "" ≠ "" && !known.contains (o.getD "")) = true ∧ P (o.getD "") := by
  rw [Bool.and_eq_true, missing_iff, decide_eq_true_eq, and_assoc]
  cases o with
  | none => simp
  | some t => simp

lemma exact_navigate (hn : s.nodes.toList[i]? = some n) (hc : n.choiceList[j]? = some c)
    {target : Arg} (hm : c.mechanic = .navigate target) :
    Exact s (mechanicSites i j) (Check.mechanic s.keys ⟨n.id.text, c.id.text⟩ c.mechanic) := by
  have hleaf : Exact s {.mechanic i j .navigate}
      (Check.mechanic s.keys ⟨n.id.text, c.id.text⟩ c.mechanic) := by
    rw [hm]
    refine exact_issueIf fun r => ?_
    rw [violation_mechanic hn hc, missing_iff]
    simp only [MechanicViolation, hm, Mechanic.navigate.injEq, exists_eq_left']
    rfl
  refine exact_widen hleaf (Set.singleton_subset_iff.mpr ⟨_, rfl⟩) ?_
  rintro _ ⟨rule, rfl⟩ r hr
  rw [violation_mechanic hn hc] at hr
  cases rule <;> simp [MechanicViolation, hm] at hr ⊢

lemma exact_combat (hn : s.nodes.toList[i]? = some n) (hc : n.choiceList[j]? = some c)
    {target : Arg} (hm : c.mechanic = .combat target) :
    Exact s (mechanicSites i j) (Check.mechanic s.keys ⟨n.id.text, c.id.text⟩ c.mechanic) := by
  have hleaf : Exact s {.mechanic i j .combat}
      (Check.mechanic s.keys ⟨n.id.text, c.id.text⟩ c.mechanic) := by
    rw [hm]
    refine exact_issueIf fun r => ?_
    rw [violation_mechanic hn hc, missing_iff]
    simp only [MechanicViolation, hm, Mechanic.combat.injEq, exists_eq_left']
    rfl
  refine exact_widen hleaf (Set.singleton_subset_iff.mpr ⟨_, rfl⟩) ?_
  rintro _ ⟨rule, rfl⟩ r hr
  rw [violation_mechanic hn hc] at hr
  cases rule <;> simp [MechanicViolation, hm] at hr ⊢

lemma exact_skillCheck (hn : s.nodes.toList[i]? = some n) (hc : n.choiceList[j]? = some c)
    {check : SkillCheck} (hm : c.mechanic = .skillCheck check) :
    Exact s (mechanicSites i j) (Check.mechanic s.keys ⟨n.id.text, c.id.text⟩ c.mechanic) := by
  rw [hm]
  have hrule : ∀ {rule : MechanicRule} {r : Report},
      Violation s (.mechanic i j rule) r ↔ MechanicViolation s n c rule r :=
    violation_mechanic hn hc
  have hsuccess : Exact s {.mechanic i j .success} (issueIf (!s.keys.nodes.contains check.onSuccess)
      (.choiceTarget ⟨n.id.text, c.id.text⟩ .success check.onSuccess)) := by
    refine exact_issueIf fun r => ?_
    rw [hrule, missing_iff]
    simp only [MechanicViolation, hm, Mechanic.skillCheck.injEq, exists_eq_left']
    rfl
  have hfailure : Exact s {.mechanic i j .failure} (issueIf (!s.keys.nodes.contains check.onFailure)
      (.choiceTarget ⟨n.id.text, c.id.text⟩ .failure check.onFailure)) := by
    refine exact_issueIf fun r => ?_
    rw [hrule, missing_iff]
    simp only [MechanicViolation, hm, Mechanic.skillCheck.injEq, exists_eq_left']
    rfl
  have hencounter : Exact s {.mechanic i j .failureEncounter}
      (issueIf (check.failureEncounter.getD "" ≠ "" &&
          !s.keys.encounters.contains (check.failureEncounter.getD ""))
        (.failureEncounter ⟨n.id.text, c.id.text⟩ (check.failureEncounter.getD ""))) := by
    refine exact_issueIf fun r => ?_
    rw [hrule]
    simp only [MechanicViolation, hm, Mechanic.skillCheck.injEq, exists_eq_left']
    exact unknown_iff
  have hdice : Exact s {.mechanic i j .dice} (issueIf (!Dice.isExpression check.dice.text)
      (.checkDice ⟨n.id.text, c.id.text⟩ check.dice.text)) := by
    refine exact_issueIf fun r => ?_
    rw [hrule, Bool.not_eq_true']
    simp only [MechanicViolation, hm, Mechanic.skillCheck.injEq, exists_eq_left']
    rfl
  have hability : Exact s {.mechanic i j .ability}
      (issueIf (check.ability.getD "" ≠ "" && !abilities.contains (check.ability.getD ""))
        (.checkAbility ⟨n.id.text, c.id.text⟩ (check.ability.getD ""))) := by
    refine exact_issueIf fun r => ?_
    rw [hrule]
    simp only [MechanicViolation, hm, Mechanic.skillCheck.injEq, exists_eq_left']
    exact unknown_iff
  refine exact_widen (exact_append (exact_append (exact_append (exact_append hsuccess hfailure
    (by simp)) hencounter (by simp)) hdice (by simp)) hability (by simp)) ?_ ?_
  · simp only [Set.union_subset_iff, Set.singleton_subset_iff]
    exact ⟨⟨⟨⟨⟨_, rfl⟩, ⟨_, rfl⟩⟩, ⟨_, rfl⟩⟩, ⟨_, rfl⟩⟩, ⟨_, rfl⟩⟩
  · rintro _ ⟨rule, rfl⟩ r hr
    rw [hrule] at hr
    cases rule <;> simp [MechanicViolation, hm] at hr ⊢

lemma exact_mechanic (hn : s.nodes.toList[i]? = some n) (hc : n.choiceList[j]? = some c) :
    Exact s (mechanicSites i j) (Check.mechanic s.keys ⟨n.id.text, c.id.text⟩ c.mechanic) := by
  cases hm : c.mechanic with
  | navigate target => exact hm ▸ exact_navigate hn hc hm
  | combat target => exact hm ▸ exact_combat hn hc hm
  | skillCheck check => exact hm ▸ exact_skillCheck hn hc hm

lemma violation_requirement (hn : s.nodes.toList[i]? = some n) (hc : n.choiceList[j]? = some c)
    {q : Requirement} (hq : c.requirementList[k]? = some q) {rule : RequirementRule} {r : Report} :
    Violation s (.requirement i j k rule) r ↔ RequirementViolation s n c q rule r := by
  simp [Violation, hn, hc, hq]

/-- The places of the rules for a requirement of a choice. -/
def requirementSites (i j k : ℕ) : Set Site := {site | ∃ rule, site = .requirement i j k rule}

lemma exact_flag (hn : s.nodes.toList[i]? = some n) (hc : n.choiceList[j]? = some c)
    {q : Requirement} (hq : c.requirementList[k]? = some q)
    (hflag : ∃ key, q = .hasFlag key ∨ q = .notHasFlag key) :
    Exact s (requirementSites i j k) [] := by
  refine exact_nil ?_
  rintro _ ⟨rule, rfl⟩ r hr
  rw [violation_requirement hn hc hq] at hr
  obtain ⟨key, rfl | rfl⟩ := hflag <;> cases rule <;> simp [RequirementViolation] at hr

lemma exact_hasItem (hn : s.nodes.toList[i]? = some n) (hc : n.choiceList[j]? = some c)
    {itemId : Arg} (hq : c.requirementList[k]? = some (.hasItem itemId)) :
    Exact s (requirementSites i j k)
      (Check.requirement s.keys ⟨n.id.text, c.id.text⟩ (.hasItem itemId)) := by
  have hleaf : Exact s {.requirement i j k .item}
      (Check.requirement s.keys ⟨n.id.text, c.id.text⟩ (.hasItem itemId)) := by
    refine exact_issueIf fun r => ?_
    rw [violation_requirement hn hc hq, missing_iff]
    simp only [RequirementViolation, Requirement.hasItem.injEq, exists_eq_left']
    rfl
  refine exact_widen hleaf (Set.singleton_subset_iff.mpr ⟨_, rfl⟩) ?_
  rintro _ ⟨rule, rfl⟩ r hr
  rw [violation_requirement hn hc hq] at hr
  cases rule <;> simp [RequirementViolation] at hr ⊢

lemma exists_statCheck_iff {stat operator : Arg} {value : Number} {P : Arg → Arg → Prop} :
    (∃ stat' operator' value',
      Requirement.statCheck stat operator value = .statCheck stat' operator' value' ∧
        P stat' operator') ↔ P stat operator := by
  constructor
  · rintro ⟨_, _, _, heq, h⟩
    obtain ⟨rfl, rfl, rfl⟩ := Requirement.statCheck.inj heq
    exact h
  · exact fun h => ⟨stat, operator, value, rfl, h⟩

lemma exact_statCheck (hn : s.nodes.toList[i]? = some n) (hc : n.choiceList[j]? = some c)
    {stat operator : Arg} {value : Number}
    (hq : c.requirementList[k]? = some (.statCheck stat operator value)) :
    Exact s (requirementSites i j k)
      (Check.requirement s.keys ⟨n.id.text, c.id.text⟩ (.statCheck stat operator value)) := by
  have hoperator : Exact s {.requirement i j k .operator}
      (issueIf (!statOperators.contains operator.text)
        (.statOperator ⟨n.id.text, c.id.text⟩ operator.text)) := by
    refine exact_issueIf fun r => ?_
    rw [violation_requirement hn hc hq, missing_iff]
    exact exists_statCheck_iff
  have hstat : Exact s {.requirement i j k .stat}
      (issueIf (!statNames.contains stat.text)
        (.statName ⟨n.id.text, c.id.text⟩ stat.text)) := by
    refine exact_issueIf fun r => ?_
    rw [violation_requirement hn hc hq, missing_iff]
    exact exists_statCheck_iff
  refine exact_widen (exact_append hoperator hstat (by simp)) ?_ ?_
  · simp only [Set.union_subset_iff, Set.singleton_subset_iff]
    exact ⟨⟨_, rfl⟩, ⟨_, rfl⟩⟩
  · rintro _ ⟨rule, rfl⟩ r hr
    rw [violation_requirement hn hc hq] at hr
    cases rule <;> simp [RequirementViolation] at hr ⊢

/-- The requirement of a choice that a place belongs to. -/
def requirementAt? (i j : ℕ) : Site → Option ℕ
  | .requirement i' j' k _ => if i' = i ∧ j' = j then some k else none
  | _ => none

lemma requirementSites_eq : requirementSites i j k = {site | requirementAt? i j site = some k} := by
  ext site
  cases site <;> simp [requirementSites, requirementAt?, and_assoc]

lemma exact_requirement (hn : s.nodes.toList[i]? = some n) (hc : n.choiceList[j]? = some c)
    {q : Requirement} (hq : c.requirementList[k]? = some q) :
    Exact s (requirementSites i j k) (Check.requirement s.keys ⟨n.id.text, c.id.text⟩ q) := by
  cases q with
  | hasFlag key => exact exact_flag hn hc hq ⟨key, .inl rfl⟩
  | notHasFlag key => exact exact_flag hn hc hq ⟨key, .inr rfl⟩
  | hasItem itemId => exact exact_hasItem hn hc hq
  | statCheck stat operator value => exact exact_statCheck hn hc hq

/-- The choice of a node that a place belongs to. -/
def choiceAt? (i : ℕ) : Site → Option ℕ
  | .mechanic i' j _ => if i' = i then some j else none
  | .requirement i' j _ _ => if i' = i then some j else none
  | _ => none

lemma exact_choice (hn : s.nodes.toList[i]? = some n) (hc : n.choiceList[j]? = some c) :
    Exact s {site | choiceAt? i site = some j} (Check.choice s.keys n.id.text c) := by
  have hrequirements : Exact s {site | (requirementAt? i j site).isSome = true}
      (c.requirementList.flatMap (Check.requirement s.keys ⟨n.id.text, c.id.text⟩)) := by
    refine exact_parts (fun k q hq => ?_) fun site r k hr hk => ?_
    · rw [← requirementSites_eq]
      exact exact_requirement hn hc hq
    · cases site <;> simp [requirementAt?] at hk
      obtain ⟨⟨rfl, rfl⟩, rfl⟩ := hk
      obtain ⟨m, hm, d, hd, q, hq, -⟩ := hr
      obtain rfl : n = m := Option.some.inj (hn.symm.trans hm)
      obtain rfl : c = d := Option.some.inj (hc.symm.trans hd)
      exact lt_of_getElem? hq
  have hdisjoint :
      Disjoint (mechanicSites i j) {site | (requirementAt? i j site).isSome = true} := by
    rw [Set.disjoint_left]
    rintro site ⟨rule, rfl⟩
    simp [requirementAt?]
  have hboth := exact_append (exact_mechanic hn hc) hrequirements hdisjoint
  refine exact_congr hboth fun site r _ => ?_
  cases site <;> simp [mechanicSites, requirementAt?, choiceAt?]

/-- The action of a node that a place belongs to. -/
def actionAt? (i : ℕ) : Site → Option ℕ
  | .onEnter i' j => if i' = i then some j else none
  | _ => none

lemma touchesItem_iff {a : Action} {itemId : Arg} :
    TouchesItem a itemId ↔ a.itemId? = some itemId := by
  unfold TouchesItem
  cases a <;> simp [Action.itemId?]

/-- The item of an action is checked at one place. -/
lemma exact_missingItem {site : Site} {a : Action} {issue : String → Issue}
    (h : ∀ r, Violation s site r ↔ ∃ itemId, TouchesItem a itemId ∧ itemId.text ∉ s.items.keys ∧
      r = report (issue itemId.text).diagnostic) :
    Exact s {site} (Check.missingItem s.keys a issue) := by
  unfold Check.missingItem
  simp only [touchesItem_iff] at h
  cases hitem : a.itemId? with
  | none =>
    refine exact_nil fun place hplace r hr => ?_
    rw [Set.mem_singleton_iff.mp hplace, h, hitem] at hr
    simp at hr
  | some itemId =>
    refine exact_issueIf fun r => ?_
    rw [h, hitem, missing_iff]
    simp only [Option.some.injEq, exists_eq_left']
    rfl

/-- The node that a place belongs to. -/
def nodeAt? : Site → Option ℕ
  | .nodeType i => some i
  | .mechanic i _ _ => some i
  | .requirement i _ _ _ => some i
  | .onEnter i _ => some i
  | _ => none

lemma exact_node (hn : s.nodes.toList[i]? = some n) :
    Exact s {site | nodeAt? site = some i} (Check.node s.keys n) := by
  have htype : Exact s {.nodeType i}
      (issueIf (!nodeTypes.contains n.type) (.nodeType n.id.text n.type)) := by
    refine exact_issueIf fun r => ?_
    rw [missing_iff]
    simp only [Violation, hn, Option.mem_def, Option.some.injEq, exists_eq_left']
    rfl
  have hchoices : Exact s {site | (choiceAt? i site).isSome = true}
      (n.choiceList.flatMap (Check.choice s.keys n.id.text)) := by
    refine exact_parts (fun j c hc => exact_choice hn hc) fun site r j hr hj => ?_
    cases site <;> simp [choiceAt?] at hj
    all_goals
      obtain ⟨rfl, rfl⟩ := hj
      obtain ⟨m, hm, c, hc, -⟩ := hr
      obtain rfl : n = m := Option.some.inj (hn.symm.trans hm)
      exact lt_of_getElem? hc
  have hactions : Exact s {site | (actionAt? i site).isSome = true}
      (n.actionList.flatMap fun a => Check.missingItem s.keys a (.enterItem n.id.text a.name)) := by
    refine exact_parts (fun j a ha => ?_) fun site r j hr hj => ?_
    · have hat : {site | actionAt? i site = some j} = {Site.onEnter i j} := by
        ext site
        cases site <;> simp [actionAt?]
      rw [hat]
      refine exact_missingItem fun r => ?_
      simp only [Violation, hn, ha, Option.mem_def, Option.some.injEq, exists_eq_left']
      rfl
    · cases site <;> simp [actionAt?] at hj
      obtain ⟨rfl, rfl⟩ := hj
      obtain ⟨m, hm, a, ha, -⟩ := hr
      obtain rfl : n = m := Option.some.inj (hn.symm.trans hm)
      exact lt_of_getElem? ha
  refine exact_congr (exact_append (exact_append htype hchoices ?_) hactions ?_) fun site r _ => ?_
  · simp [choiceAt?]
  · rw [Set.disjoint_left]
    intro site
    cases site <;> simp [choiceAt?, actionAt?]
  · cases site <;> simp [choiceAt?, actionAt?, nodeAt?]

/-! ## Encounters, items and enemies -/

/-- The spawn of an encounter that a place belongs to. -/
def spawnAt? (i : ℕ) : Site → Option ℕ
  | .spawn i' j => if i' = i then some j else none
  | _ => none

/-- The encounter that a place belongs to. -/
def encounterAt? : Site → Option ℕ
  | .noSpawns i => some i
  | .spawn i _ => some i
  | .resolution i _ => some i
  | _ => none

lemma exact_encounter {e : Encounter} (he : s.encounters.toList[i]? = some e) :
    Exact s {site | encounterAt? site = some i} (Check.encounter s.keys e) := by
  have hempty : Exact s {.noSpawns i} (issueIf e.spawns.isEmpty (.noSpawns e.id.text)) := by
    refine exact_issueIf fun r => ?_
    simp only [Violation, he, Option.mem_def, Option.some.injEq, exists_eq_left',
      List.isEmpty_iff]
    rfl
  have hspawns : Exact s {site | (spawnAt? i site).isSome = true} (e.spawns.flatMap fun spawn =>
      issueIf (!s.keys.enemies.contains spawn.enemyId.text)
        (.spawnEnemy e.id.text spawn.enemyId.text)) := by
    refine exact_parts (fun j spawn hspawn => ?_) fun site r j hr hj => ?_
    · have hat : {site | spawnAt? i site = some j} = {Site.spawn i j} := by
        ext site
        cases site <;> simp [spawnAt?]
      rw [hat]
      refine exact_issueIf fun r => ?_
      rw [missing_iff]
      simp only [Violation, he, hspawn, Option.mem_def, Option.some.injEq, exists_eq_left']
      rfl
    · cases site <;> simp [spawnAt?] at hj
      obtain ⟨rfl, rfl⟩ := hj
      obtain ⟨f, hf, spawn, hspawn, -⟩ := hr
      obtain rfl : e = f := Option.some.inj (he.symm.trans hf)
      exact lt_of_getElem? hspawn
  have hend : ∀ which, Exact s {.resolution i which}
      (issueIf (!s.keys.nodes.contains (endTarget e which))
        (.resolutionTarget e.id.text which (endTarget e which))) := by
    intro which
    refine exact_issueIf fun r => ?_
    rw [missing_iff]
    simp only [Violation, he, Option.mem_def, Option.some.injEq, exists_eq_left']
    rfl
  refine exact_congr (exact_append (exact_append (exact_append hempty hspawns ?_)
    (hend .victory) ?_) (hend .defeat) ?_) fun site r _ => ?_
  · simp [spawnAt?]
  · simp [spawnAt?]
  · simp [spawnAt?]
  · cases site with
    | resolution i' which => cases which <;> simp [spawnAt?, encounterAt?]
    | _ => simp [spawnAt?, encounterAt?]

/-- The item that a place belongs to. -/
def itemAt? : Site → Option ℕ
  | .item i _ => some i
  | _ => none

lemma exact_item {item : Item} (hi : s.items.toList[i]? = some item) :
    Exact s {site | itemAt? site = some i} (Check.item s.keys item) := by
  have hrule : ∀ {rule : ItemRule} {r : Report},
      Violation s (.item i rule) r ↔ ItemViolation s item rule r := by
    simp [Violation, hi]
  have htype : Exact s {.item i .type}
      (issueIf (!itemTypes.contains item.type) (.itemType item.id.text item.type)) := by
    refine exact_issueIf fun r => ?_
    rw [hrule, missing_iff]
    rfl
  have hdamage : Exact s {.item i .damage}
      (issueIf (item.type = "weapon" && item.damage.getD "" = "")
        (.weaponDamage item.id.text)) := by
    refine exact_issueIf fun r => ?_
    have hnone : (item.damage = none ∨ item.damage = some "") ↔ item.damage.getD "" = "" := by
      cases item.damage <;> simp
    rw [hrule, Bool.and_eq_true, decide_eq_true_eq, decide_eq_true_eq, ← hnone, and_assoc]
    rfl
  have heffect : Exact s {.item i .effect} (item.effect.toList.flatMap fun a =>
      Check.missingItem s.keys a (.effectItem item.id.text a.name)) := by
    cases heffect : item.effect with
    | none =>
      refine exact_nil fun site hsite r hr => ?_
      rw [Set.mem_singleton_iff.mp hsite, hrule] at hr
      simp [ItemViolation, heffect] at hr
    | some a =>
      have hone : Exact s {.item i .effect}
          (Check.missingItem s.keys a (.effectItem item.id.text a.name)) := by
        refine exact_missingItem fun r => ?_
        rw [hrule]
        simp only [ItemViolation, heffect, Option.mem_def, Option.some.injEq, exists_eq_left']
        rfl
      simpa using hone
  have hscaling : Exact s {.item i .scaling}
      (issueIf (item.scalingAttribute.getD "" ≠ "" &&
          !abilities.contains (item.scalingAttribute.getD ""))
        (.scaling item.id.text (item.scalingAttribute.getD ""))) := by
    refine exact_issueIf fun r => ?_
    rw [hrule]
    exact unknown_iff
  refine exact_congr (exact_append (exact_append (exact_append htype hdamage (by simp)) heffect
    (by simp)) hscaling (by simp)) fun site r _ => ?_
  cases site with
  | item i' rule => cases rule <;> simp [itemAt?]
  | _ => simp [itemAt?]

/-- The enemy that a place belongs to. -/
def enemyAt? : Site → Option ℕ
  | .enemy i _ => some i
  | _ => none

lemma exact_enemy {e : Enemy} (he : s.enemies.toList[i]? = some e) :
    Exact s {site | enemyAt? site = some i} (Check.enemy e) := by
  have hrule : ∀ {rule : EnemyRule} {r : Report},
      Violation s (.enemy i rule) r ↔ EnemyViolation e rule r := by
    simp [Violation, he]
  have hhp : Exact s {.enemy i .hp} (issueIf (e.hp.le 0) (.enemyHp e.id.text)) := by
    refine exact_issueIf fun r => ?_
    rw [hrule]
    rfl
  have harmor : Exact s {.enemy i .armor} (issueIf (e.armor.lt 0) (.enemyArmor e.id.text)) := by
    refine exact_issueIf fun r => ?_
    rw [hrule]
    rfl
  have hdamage : Exact s {.enemy i .damage} (issueIf (!Dice.isExpression e.damage.text)
      (.enemyDamage e.id.text e.damage.text)) := by
    refine exact_issueIf fun r => ?_
    rw [hrule, Bool.not_eq_true']
    rfl
  refine exact_congr (exact_append (exact_append hhp harmor (by simp)) hdamage (by simp))
    fun site r _ => ?_
  cases site with
  | enemy i' rule => cases rule <;> simp [enemyAt?]
  | _ => simp [enemyAt?]

/-! ## Stories -/

lemma exact_entityIssues (s : Story) : Exact s Set.univ s.entityIssues := by
  have hnodes : Exact s {site | (nodeAt? site).isSome = true}
      (s.nodes.toList.flatMap (Check.node s.keys)) := by
    refine exact_parts (fun i n hn => exact_node hn) fun site r i hr hi => ?_
    cases site <;> simp [nodeAt?] at hi
    all_goals
      subst hi
      obtain ⟨n, hn, -⟩ := hr
      exact lt_of_getElem? hn
  have hencounters : Exact s {site | (encounterAt? site).isSome = true}
      (s.encounters.toList.flatMap (Check.encounter s.keys)) := by
    refine exact_parts (fun i e he => exact_encounter he) fun site r i hr hi => ?_
    cases site <;> simp [encounterAt?] at hi
    all_goals
      subst hi
      obtain ⟨e, he, -⟩ := hr
      exact lt_of_getElem? he
  have hitems : Exact s {site | (itemAt? site).isSome = true}
      (s.items.toList.flatMap (Check.item s.keys)) := by
    refine exact_parts (fun i item hi => exact_item hi) fun site r i hr hi => ?_
    cases site <;> simp [itemAt?] at hi
    subst hi
    obtain ⟨item, hitem, -⟩ := hr
    exact lt_of_getElem? hitem
  have henemies : Exact s {site | (enemyAt? site).isSome = true}
      (s.enemies.toList.flatMap Check.enemy) := by
    refine exact_parts (fun i e he => exact_enemy he) fun site r i hr hi => ?_
    cases site <;> simp [enemyAt?] at hi
    subst hi
    obtain ⟨e, he, -⟩ := hr
    exact lt_of_getElem? he
  refine exact_congr (exact_append (exact_append (exact_append hnodes hencounters ?_) hitems ?_)
    henemies ?_) fun site r _ => ?_
  all_goals try
    rw [Set.disjoint_left]
    intro site
    cases site <;> simp [nodeAt?, encounterAt?, itemAt?, enemyAt?]
  cases site <;> simp [nodeAt?, encounterAt?, itemAt?, enemyAt?]

lemma exists_issue_of_violation {site : Site} {r : Report} (h : Violation s site r) :
    ∃ issue ∈ s.entityIssues, report issue.diagnostic = r := by
  obtain ⟨found, -, hmem, hissues⟩ := exact_entityIssues s
  have hfound : r ∈ found.map Prod.snd :=
    List.mem_map_of_mem ((hmem site r).mpr ⟨Set.mem_univ site, h⟩)
  rw [← hissues, List.mem_map] at hfound
  exact hfound

/-- A verdict is exact if its errors and warnings, in their order, report the violations of the
rules, each of them once and nothing else. -/
def ExactVerdict (s : Story) (v : Verdict) : Prop :=
  ∃ found : List (Site × Report), (found.map Prod.fst).Nodup ∧
    (∀ site r, (site, r) ∈ found ↔ Violation s site r) ∧
    v.errors.map report = (found.map Prod.snd).filter (fun r => r.severity = .error) ∧
    v.warnings.map report = (found.map Prod.snd).filter (fun r => r.severity = .warning)

lemma exact_entityVerdict (s : Story) : ExactVerdict s s.entityVerdict := by
  obtain ⟨found, hnodup, hmem, hissues⟩ := exact_entityIssues s
  have hreports : (s.entityIssues.map Issue.diagnostic).map report = found.map Prod.snd := by
    rw [List.map_map]
    exact hissues
  refine ⟨found, hnodup, fun site r => ?_, ?_, ?_⟩
  · rw [hmem]
    exact and_iff_right (Set.mem_univ site)
  · rw [← hreports, List.filter_map]
    rfl
  · have hseverity : ∀ d : Diagnostic,
        (d.severity ≠ .error : Bool) = ((report d).severity = .warning : Bool) := by
      intro d
      obtain ⟨code, severity, _⟩ := d
      cases severity <;> rfl
    rw [← hreports, List.filter_map]
    exact congrArg (List.map report) (List.filter_congr fun d _ => hseverity d)

end

/-- The checker is exact on every story whose dice it can read, and on no other does it come to a
verdict. -/
theorem checkEntities_exact (s : Story) :
    (ReadableDice s → ∃ v, s.checkEntities = .ok v ∧ ExactVerdict s v) ∧
      (¬ReadableDice s → s.checkEntities = .error ⟨⟩) :=
  ⟨fun hread => ⟨_, checkEntities_ok_iff.mpr ⟨hread, rfl⟩, exact_entityVerdict s⟩,
    checkEntities_error_iff.mpr⟩

/-- There is no verdict on a story with one enemy whose damage cannot be read. -/
theorem giantStory_unchecked : giantStory.checkEntities = .error ⟨⟩ :=
  checkEntities_error_iff.mpr (not_readableDice_giant List.mem_cons_self)

end Gamebook.Proofs
