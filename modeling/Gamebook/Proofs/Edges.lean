import Gamebook.Check.Graph
import Gamebook.Proofs.TokenRoundTrip
import Gamebook.Proofs.Violations

/-!
# Edges of the graph

The vertices with an edge to a vertex are the nodes that lead to it and the encounters that end
there. Orphans and dead ends are read off these edges. A node whose id is not taken for the vertex
of an encounter is an orphan exactly if nothing in the story names it.
-/

namespace Gamebook.Proofs

/-! ## Entities under their keys -/

lemma get?_eq_some {α : Type} [Keyed α] {c : Collection α} {key : String} {x : α} :
    c.get? key = some x ↔ x ∈ c.toList ∧ Keyed.key x = key := by
  unfold Collection.get?
  constructor
  · intro h
    exact ⟨List.mem_of_find?_eq_some h, by simpa using List.find?_some h⟩
  · rintro ⟨hx, rfl⟩
    cases h : c.toList.find? fun y => Keyed.key y = Keyed.key x with
    | none => exact absurd (List.find?_eq_none.mp h x hx) (by simp)
    | some y =>
      have hkey : Keyed.key y = Keyed.key x := by simpa using List.find?_some h
      rw [List.inj_on_of_nodup_map c.distinct (List.mem_of_find?_eq_some h) hx hkey]

lemma mem_keys {α : Type} [Keyed α] {c : Collection α} {key : String} :
    key ∈ c.keys ↔ ∃ x, c.get? key = some x := by
  unfold Collection.keys
  simp only [get?_eq_some, List.mem_map]

/-- The keys that meet a condition, in the order of the keys and once each. -/
structure Selects (keys chosen : List String) (P : String → Prop) : Prop where
  ordered : chosen.Sublist keys
  once : chosen.Nodup
  mem_iff : ∀ key, key ∈ chosen ↔ key ∈ keys ∧ P key

lemma selects_of_sublist {α : Type} [Keyed α] {c : Collection α} {chosen : List String}
    {P : String → Prop} (h : chosen.Sublist c.keys)
    (hmem : ∀ key, key ∈ chosen ↔ key ∈ c.keys ∧ P key) : Selects c.keys chosen P :=
  ⟨h, h.nodup c.distinct, hmem⟩

/-! ## Edges -/

section

variable {s : Story}

/-- An edge from one vertex to another, told from the entity that it leaves. The vertex of a node is
its id, the vertex of an encounter its id behind a prefix. -/
inductive Enters (s : Story) : String → String → Prop
  | node {source target : String} {n : Node} (hn : s.nodes.get? source = some n)
      (ht : target ∈ n.targets) : Enters s source target
  | encounter {encounterId target : String} {e : Encounter}
      (he : s.encounters.get? encounterId = some e)
      (ht : e.onVictory = target ∨ e.onDefeat = target) (hne : target ≠ "") :
      Enters s ("enc:" ++ encounterId) target

lemma encounterVertex_eq (encounterId : String) :
    encounterVertex encounterId = "enc:" ++ encounterId := rfl

lemma mem_nodeEdges {source target : String} :
    (⟨source, target⟩ : Edge) ∈ s.nodes.toList.flatMap Node.edges ↔
      ∃ n, s.nodes.get? source = some n ∧ target ∈ n.targets := by
  simp only [List.mem_flatMap, Node.edges, List.mem_map, Edge.mk.injEq, get?_eq_some]
  constructor
  · rintro ⟨n, hn, t, ht, rfl, rfl⟩
    exact ⟨n, ⟨hn, rfl⟩, ht⟩
  · rintro ⟨n, ⟨hn, rfl⟩, ht⟩
    exact ⟨n, hn, target, ht, rfl, rfl⟩

lemma mem_encounterEdges {source target : String} :
    (⟨source, target⟩ : Edge) ∈ s.encounters.toList.flatMap Encounter.edges ↔
      ∃ encounterId e, s.encounters.get? encounterId = some e ∧
        source = "enc:" ++ encounterId ∧ (e.onVictory = target ∨ e.onDefeat = target) ∧
        target ≠ "" := by
  simp only [List.mem_flatMap, Encounter.edges, encounterVertex_eq, List.mem_map, List.mem_filter,
    List.mem_cons, List.not_mem_nil, or_false, decide_eq_true_eq, Edge.mk.injEq, get?_eq_some]
  constructor
  · rintro ⟨e, he, t, ⟨ht, hne⟩, rfl, rfl⟩
    exact ⟨e.id.text, e, ⟨he, rfl⟩, rfl, ht.imp Eq.symm Eq.symm, hne⟩
  · rintro ⟨_, e, ⟨he, rfl⟩, rfl, ht, hne⟩
    exact ⟨e, he, target, ⟨ht.imp Eq.symm Eq.symm, hne⟩, rfl, rfl⟩

@[simp] lemma mem_edges {source target : String} :
    (⟨source, target⟩ : Edge) ∈ s.edges ↔ Enters s source target := by
  unfold Story.edges
  rw [List.mem_append, mem_nodeEdges, mem_encounterEdges]
  constructor
  · rintro (⟨n, hn, ht⟩ | ⟨encounterId, e, he, rfl, ht, hne⟩)
    · exact .node hn ht
    · exact .encounter he ht hne
  · rintro (⟨hn, ht⟩ | ⟨he, ht, hne⟩)
    · exact .inl ⟨_, hn, ht⟩
    · exact .inr ⟨_, _, he, rfl, ht, hne⟩

@[simp] lemma mem_sources {source target : String} :
    source ∈ s.sources target ↔ Enters s source target := by
  unfold Story.sources
  rw [List.mem_eraseDups, List.mem_map, ← mem_edges]
  constructor
  · rintro ⟨⟨source', target'⟩, he, rfl⟩
    rw [List.mem_filter, decide_eq_true_eq] at he
    obtain ⟨he, rfl⟩ := he
    exact he
  · intro he
    exact ⟨_, List.mem_filter.mpr ⟨he, decide_eq_true rfl⟩, rfl⟩

/-! ## Orphans and dead ends -/

lemma mem_orphans {starts : List String} {id : String} :
    id ∈ s.orphans starts ↔ id ∈ s.nodes.keys ∧ id ∉ starts ∧ ∀ source, ¬Enters s source id := by
  have hedges : (s.edges.any fun e => e.target = id) = true ↔ ∃ source, Enters s source id := by
    rw [List.any_eq_true]
    constructor
    · rintro ⟨e, he, ht⟩
      rw [decide_eq_true_eq] at ht
      exact ⟨e.source, mem_edges.mp (by rwa [← ht])⟩
    · rintro ⟨source, he⟩
      exact ⟨_, mem_edges.mpr he, decide_eq_true rfl⟩
  unfold Story.orphans
  rw [List.mem_filter, Bool.and_eq_true, Bool.not_eq_true', Bool.not_eq_true', ← Bool.not_eq_true,
    ← Bool.not_eq_true, hedges, List.contains_iff_mem, not_exists]
  exact and_congr_right fun _ => and_comm

@[simp] lemma leadsOn_eq_true (m : Mechanic) : m.leadsOn = true := by
  cases m with
  | navigate nodeId => exact decide_eq_true (arg_ne_empty nodeId)
  | combat encounterId => rfl
  | skillCheck check => rfl

lemma hasExit_iff (n : Node) : n.hasExit = true ↔ n.choiceList ≠ [] := by
  unfold Node.hasExit
  rw [List.any_eq_true]
  constructor
  · rintro ⟨c, hc, -⟩
    exact List.ne_nil_of_mem hc
  · intro hne
    obtain ⟨c, hc⟩ := List.exists_mem_of_ne_nil _ hne
    exact ⟨c, hc, leadsOn_eq_true c.mechanic⟩

lemma mem_deadEnds {allowed : List String} {id : String} :
    id ∈ s.deadEnds allowed ↔ id ∈ s.nodes.keys ∧ id ∉ allowed ∧
      ∀ n, s.nodes.get? id = some n → n.type ≠ "ending" ∧ n.choiceList = [] := by
  have hcondition : ∀ n : Node,
      (!allowed.contains n.id.text && n.type ≠ "ending" && !n.hasExit) = true ↔
        n.id.text ∉ allowed ∧ n.type ≠ "ending" ∧ n.choiceList = [] := by
    intro n
    rw [Bool.and_eq_true, Bool.and_eq_true, Bool.not_eq_true', Bool.not_eq_true',
      ← Bool.not_eq_true, ← Bool.not_eq_true, hasExit_iff, List.contains_iff_mem, not_not,
      decide_eq_true_eq, and_assoc]
  unfold Story.deadEnds
  simp only [List.mem_map, List.mem_filter, hcondition]
  constructor
  · rintro ⟨n, ⟨hn, hallowed, hn'⟩, rfl⟩
    have hget : s.nodes.get? n.id.text = some n := get?_eq_some.mpr ⟨hn, rfl⟩
    refine ⟨mem_keys.mpr ⟨n, hget⟩, hallowed, fun m hm => ?_⟩
    rwa [← Option.some.inj (hget.symm.trans hm)]
  · rintro ⟨hkey, hallowed, hall⟩
    obtain ⟨n, hget⟩ := mem_keys.mp hkey
    obtain ⟨hn, rfl⟩ := get?_eq_some.mp hget
    exact ⟨n, ⟨hn, hallowed, hall n hget⟩, rfl⟩

end

/-- The graph of a story is what its entities say: edges are those of the choices and of the ends of
encounters, the orphans are the nodes that no edge enters, the dead ends are the nodes without a
choice, and there is one warning for each of them. -/
theorem graph_exact (s : Story) (starts allowed : List String) :
    (∀ source target, source ∈ s.sources target ↔ Enters s source target) ∧
    Selects s.nodes.keys (s.orphans starts)
      (fun id => id ∉ starts ∧ ∀ source, ¬Enters s source id) ∧
    Selects s.nodes.keys (s.deadEnds allowed)
      (fun id => id ∉ allowed ∧
        ∀ n, s.nodes.get? id = some n → n.type ≠ "ending" ∧ n.choiceList = []) ∧
    (s.graphIssues starts allowed).map (fun issue => report issue.diagnostic) =
      (s.orphans starts).map (fun id => warningReport "DATA008" [("nodeId", .string id)]) ++
      (s.deadEnds allowed).map (fun id => warningReport "DATA009" [("nodeId", .string id)]) := by
  refine ⟨fun source target => mem_sources, ?_, ?_, ?_⟩
  · exact selects_of_sublist List.filter_sublist fun id => mem_orphans
  · exact selects_of_sublist (List.filter_sublist.map _) fun id => mem_deadEnds
  · unfold Story.graphIssues
    rw [List.map_append, List.map_map, List.map_map]
    rfl

/-! ## References to nodes -/

/-- The mechanic names a node to go to. -/
inductive LeadsToNode : Mechanic → String → Prop
  | navigate (nodeId : Arg) : LeadsToNode (.navigate nodeId) nodeId.text
  | success (check : SkillCheck) : LeadsToNode (.skillCheck check) check.onSuccess
  | failure (check : SkillCheck) : LeadsToNode (.skillCheck check) check.onFailure

/-- The mechanic names an encounter to go to. -/
inductive LeadsToEncounter : Mechanic → String → Prop
  | combat (encounterId : Arg) : LeadsToEncounter (.combat encounterId) encounterId.text
  | failure {check : SkillCheck} {encounterId : String}
      (h : check.failureEncounter = some encounterId) (hne : encounterId ≠ "") :
      LeadsToEncounter (.skillCheck check) encounterId

/-- A choice or an end of an encounter names the node. -/
inductive Refers (s : Story) (id : String) : Prop
  | choice {n : Node} {c : Choice} (hn : n ∈ s.nodes.toList) (hc : c ∈ n.choiceList)
      (h : LeadsToNode c.mechanic id)
  | encounter {e : Encounter} (he : e ∈ s.encounters.toList) (which : EncounterEnd)
      (h : endTarget e which = id)

/-- The id of a node is not taken for the vertex of an encounter. -/
structure ApartFromEncounters (s : Story) (id : String) : Prop where
  ne_prefix : id ≠ encounterVertex ""
  ne_vertex : ∀ n ∈ s.nodes.toList, ∀ c ∈ n.choiceList, ∀ encounterId,
    LeadsToEncounter c.mechanic encounterId → id ≠ encounterVertex encounterId

lemma mem_mechanicTargets {m : Mechanic} {target : String} :
    target ∈ m.targets ↔ LeadsToNode m target ∨
      ∃ encounterId, target = encounterVertex encounterId ∧ LeadsToEncounter m encounterId := by
  constructor
  · intro h
    cases m with
    | navigate nodeId =>
      rw [Mechanic.targets, List.mem_singleton] at h
      exact .inl (h ▸ .navigate nodeId)
    | combat encounterId =>
      rw [Mechanic.targets, List.mem_singleton] at h
      exact .inr ⟨_, h, .combat encounterId⟩
    | skillCheck check =>
      simp only [Mechanic.targets, List.mem_append, List.mem_cons, List.not_mem_nil, or_false] at h
      rcases h with (rfl | rfl) | h
      · exact .inl (.success check)
      · exact .inl (.failure check)
      · cases hencounter : check.failureEncounter with
        | none => simp [hencounter] at h
        | some encounterId =>
          by_cases hne : encounterId = ""
          · simp [hencounter, hne] at h
          · exact .inr ⟨encounterId, by simpa [hencounter, hne] using h, .failure hencounter hne⟩
  · rintro (h | ⟨encounterId, rfl, h⟩)
    · cases h <;> simp [Mechanic.targets]
    · cases h with
      | combat encounterId => exact List.mem_singleton_self _
      | failure h hne => simp [Mechanic.targets, h, hne]

lemma mem_nodeTargets {n : Node} {target : String} :
    target ∈ n.targets ↔ (∃ c ∈ n.choiceList, target ∈ c.mechanic.targets) ∧
      target ≠ "" ∧ target ≠ encounterVertex "" := by
  unfold Node.targets
  rw [List.mem_filter, List.mem_flatMap, Bool.and_eq_true, decide_eq_true_eq, decide_eq_true_eq]

section

variable {s : Story} {id : String}

lemma exists_enters_iff (hid : id ≠ "") (hapart : ApartFromEncounters s id) :
    (∃ source, Enters s source id) ↔ Refers s id := by
  constructor
  · rintro ⟨_, ⟨hn, ht⟩ | ⟨he, ht, -⟩⟩
    · obtain ⟨⟨c, hc, hc'⟩, -⟩ := mem_nodeTargets.mp ht
      rcases mem_mechanicTargets.mp hc' with h | ⟨encounterId, h, hleads⟩
      · exact .choice (get?_eq_some.mp hn).1 hc h
      · exact absurd h (hapart.ne_vertex _ (get?_eq_some.mp hn).1 _ hc _ hleads)
    · rcases ht with h | h
      · exact .encounter (get?_eq_some.mp he).1 .victory h
      · exact .encounter (get?_eq_some.mp he).1 .defeat h
  · rintro (⟨hn, hc, h⟩ | ⟨he, which, h⟩)
    · have htarget := mem_nodeTargets.mpr
        ⟨⟨_, hc, mem_mechanicTargets.mpr (.inl h)⟩, hid, hapart.ne_prefix⟩
      exact ⟨_, .node (get?_eq_some.mpr ⟨hn, rfl⟩) htarget⟩
    · refine ⟨_, .encounter (get?_eq_some.mpr ⟨he, rfl⟩) ?_ hid⟩
      cases which with
      | victory => exact .inl h
      | defeat => exact .inr h

lemma ne_empty_of_mem_keys (h : id ∈ s.nodes.keys) : id ≠ "" := by
  obtain ⟨n, -, rfl⟩ := List.mem_map.mp h
  exact n.id.filled

end

/-- A node whose id is apart from those of the encounters is an orphan exactly if it is no start and
neither a choice nor an end of an encounter refers to it. -/
theorem mem_orphans_iff_not_refers (s : Story) (starts : List String) (id : String)
    (hapart : ApartFromEncounters s id) :
    id ∈ s.orphans starts ↔ id ∈ s.nodes.keys ∧ id ∉ starts ∧ ¬Refers s id := by
  rw [mem_orphans, ← not_exists]
  refine and_congr_right fun hkey => and_congr_right fun _ => not_congr ?_
  exact exists_enters_iff (ne_empty_of_mem_keys hkey) hapart

/-- A hall with a nest of rats, and a node whose id is the vertex of that nest. -/
def nestStory : Story where
  nodes := ⟨[
    { id := ⟨"hall", by decide⟩
      type := "narrative"
      text := "A hall"
      image := none
      onEnter := none
      choices := some [
        { id := ⟨"fight", by decide⟩
          label := "Fight"
          requirements := none
          mechanic := .combat ⟨"nest", by decide⟩ }] },
    { id := ⟨"attic", by decide⟩
      type := "ending"
      text := "An attic"
      image := none
      onEnter := none
      choices := none },
    { id := ⟨"enc:nest", by decide⟩
      type := "ending"
      text := "A nest"
      image := none
      onEnter := none
      choices := none }], by decide⟩
  items := .empty
  enemies := .empty
  encounters := ⟨[
    { id := ⟨"nest", by decide⟩
      name := none
      spawns := []
      onVictory := "hall"
      onDefeat := "hall" }], by decide⟩

lemma attic_apart : ApartFromEncounters nestStory "attic" := by
  have hne : ∀ encounterId, "attic" ≠ encounterVertex encounterId := by
    intro encounterId h
    have hhead := congrArg (fun t => t.toList.head?) h
    simp [encounterVertex] at hhead
  exact ⟨hne "", fun n _ c _ encounterId _ => hne encounterId⟩

theorem attic_not_referred :
    ApartFromEncounters nestStory "attic" ∧ "attic" ∈ nestStory.orphans ["hall"] ∧
      ¬Refers nestStory "attic" := by
  have horphan : "attic" ∈ nestStory.orphans ["hall"] := by decide
  refine ⟨attic_apart, horphan, ?_⟩
  exact ((mem_orphans_iff_not_refers nestStory ["hall"] "attic" attic_apart).mp horphan).2.2

/-- The node that shares its id with the vertex of an encounter counts as entered, although nothing
refers to it. -/
theorem nest_not_orphan :
    "enc:nest" ∈ nestStory.nodes.keys ∧ "enc:nest" ∉ ["hall"] ∧ ¬Refers nestStory "enc:nest" ∧
      "enc:nest" ∉ nestStory.orphans ["hall"] := by
  refine ⟨by decide, by decide, ?_, by decide⟩
  rintro (⟨hn, hc, h⟩ | ⟨he, which, h⟩)
  · simp only [nestStory, List.mem_cons, List.not_mem_nil, or_false] at hn
    rcases hn with rfl | rfl | rfl
    · simp only [Node.choiceList, Option.getD_some, List.mem_singleton] at hc
      subst hc
      cases h
    · cases hc
    · cases hc
  · simp only [nestStory, List.mem_singleton] at he
    subst he
    cases which <;> exact absurd h (by decide)

end Gamebook.Proofs
