import Gamebook.Check.Verdict
import Gamebook.Proofs.CompiledRows
import Gamebook.Proofs.Edges
import Gamebook.Story.Artifacts

/-!
# The order of rows

Tables that differ in the order of their rows give the same entities under the same ids, the same
diagnostics up to their order, and the same artifacts. A row with an id that another row has would
spoil this, since the first one counts.
-/

namespace Gamebook.Proofs

/-! ## Collections -/

section

variable {α : Type} [Keyed α] {c d : Collection α}

lemma get?_of_perm (h : c.toList.Perm d.toList) (id : String) : c.get? id = d.get? id := by
  ext x
  rw [get?_eq_some, get?_eq_some, h.mem_iff]

lemma perm_keys (h : c.toList.Perm d.toList) : c.keys.Perm d.keys := h.map _

lemma perm_sorted (c : Collection α) : c.sorted.Perm c.toList := List.mergeSort_perm _ _

lemma pairwise_sorted (c : Collection α) :
    c.sorted.Pairwise fun a b => Keyed.key a ≤ Keyed.key b := by
  have h : c.sorted.Pairwise fun a b => decide (Keyed.key a ≤ Keyed.key b) = true := by
    apply List.pairwise_mergeSort
    · intro x y z hxy hyz
      exact decide_eq_true (String.le_trans (of_decide_eq_true hxy) (of_decide_eq_true hyz))
    · intro x y
      simpa using String.le_total (Keyed.key x) (Keyed.key y)
  exact h.imp of_decide_eq_true

/-- Distinct keys leave one way to sort. -/
lemma sorted_of_perm (h : c.toList.Perm d.toList) : c.sorted = d.sorted := by
  have hperm : c.sorted.Perm d.sorted :=
    (perm_sorted c).trans (h.trans (perm_sorted d).symm)
  -- Two sorted lists can only differ in entities of one key, and there are none.
  refine hperm.eq_of_pairwise ?_ (pairwise_sorted c) (pairwise_sorted d)
  intro x y hx hy hxy hyx
  have hxc : x ∈ c.toList := (perm_sorted c).mem_iff.mp hx
  have hyc : y ∈ c.toList := h.mem_iff.mpr ((perm_sorted d).mem_iff.mp hy)
  exact List.inj_on_of_nodup_map c.distinct hxc hyc (String.le_antisymm hxy hyx)

lemma artifact_of_perm (h : c.toList.Perm d.toList) (write : α → Json) :
    c.artifact write = d.artifact write := by
  unfold Collection.artifact
  rw [sorted_of_perm h]

end

/-! ## Checks -/

/-- References resolve alike among two sets of keys. -/
structure SameKeys (k l : Keys) : Prop where
  nodes : ∀ id, k.nodes.contains id = l.nodes.contains id
  items : ∀ id, k.items.contains id = l.items.contains id
  enemies : ∀ id, k.enemies.contains id = l.enemies.contains id
  encounters : ∀ id, k.encounters.contains id = l.encounters.contains id

namespace SameKeys

variable {k l : Keys} (h : SameKeys k l)
include h

lemma mechanic : Check.mechanic k = Check.mechanic l := by
  funext place m
  cases m with
  | navigate nodeId => simp only [Check.mechanic, h.nodes]
  | combat encounterId => simp only [Check.mechanic, h.encounters]
  | skillCheck c => simp only [Check.mechanic, Check.skillCheck, h.nodes, h.encounters]

lemma requirement : Check.requirement k = Check.requirement l := by
  funext place r
  cases r with
  | hasItem itemId => simp only [Check.requirement, h.items]
  | hasFlag | notHasFlag | statCheck => rfl

lemma choice : Check.choice k = Check.choice l := by
  funext nodeId c
  unfold Check.choice
  rw [h.mechanic, h.requirement]

lemma missingItem : Check.missingItem k = Check.missingItem l := by
  funext a issue
  unfold Check.missingItem
  cases a.itemId? with
  | none => rfl
  | some itemId => simp only [h.items]

lemma node : Check.node k = Check.node l := by
  funext n
  unfold Check.node
  rw [h.choice, h.missingItem]

lemma encounter : Check.encounter k = Check.encounter l := by
  funext e
  simp only [Check.encounter, h.nodes, h.enemies]

lemma item : Check.item k = Check.item l := by
  funext i
  unfold Check.item
  rw [h.missingItem]

end SameKeys

/-! ## Stories -/

/-- Two stories have the same entities, in any order. -/
structure Reordered (s r : Story) : Prop where
  nodes : s.nodes.toList.Perm r.nodes.toList
  items : s.items.toList.Perm r.items.toList
  enemies : s.enemies.toList.Perm r.enemies.toList
  encounters : s.encounters.toList.Perm r.encounters.toList

namespace Reordered

variable {s r : Story} (h : Reordered s r)
include h

lemma keys : SameKeys s.keys r.keys where
  nodes _ := (perm_keys h.nodes).contains_eq
  items _ := (perm_keys h.items).contains_eq
  enemies _ := (perm_keys h.enemies).contains_eq
  encounters _ := (perm_keys h.encounters).contains_eq

lemma entityIssues : s.entityIssues.Perm r.entityIssues := by
  unfold Story.entityIssues
  rw [h.keys.node, h.keys.encounter, h.keys.item]
  exact (((h.nodes.flatMap_right _).append (h.encounters.flatMap_right _)).append
    (h.items.flatMap_right _)).append (h.enemies.flatMap_right _)

lemma edges : s.edges.Perm r.edges :=
  (h.nodes.flatMap_right _).append (h.encounters.flatMap_right _)

lemma orphans (starts : List String) : (s.orphans starts).Perm (r.orphans starts) := by
  unfold Story.orphans
  have hentered : ∀ id, s.edges.any (fun e => e.target = id) = r.edges.any fun e => e.target = id :=
    fun _ => h.edges.any_eq
  simp only [hentered]
  exact (perm_keys h.nodes).filter _

lemma deadEnds (allowed : List String) : (s.deadEnds allowed).Perm (r.deadEnds allowed) :=
  (h.nodes.filter _).map _

lemma graphIssues (starts allowed : List String) :
    (s.graphIssues starts allowed).Perm (r.graphIssues starts allowed) :=
  ((h.orphans starts).map _).append ((h.deadEnds allowed).map _)

lemma diagnostics (starts allowed : List String) :
    ((s.entityIssues ++ s.graphIssues starts allowed).map Issue.diagnostic).Perm
      ((r.entityIssues ++ r.graphIssues starts allowed).map Issue.diagnostic) :=
  (h.entityIssues.append (h.graphIssues starts allowed)).map _

lemma artifacts : s.artifacts = r.artifacts := by
  unfold Story.artifacts
  rw [artifact_of_perm h.nodes, artifact_of_perm h.items, artifact_of_perm h.enemies,
    artifact_of_perm h.encounters]

end Reordered

/-! ## Rows -/

/-- No two rows have the same id. -/
def DistinctIds (rows : List Row) : Prop :=
  ((rows.map fun row => row.cell "id").filter (· ≠ "")).Nodup

instance : DecidablePred DistinctIds := fun _ => inferInstanceAs (Decidable (List.Nodup _))

/-- The row with its id, if it has one. -/
def identified? (row : Row) : Option (Filled × Row) := row.id?.map fun id => (id, row)

lemma firstRows_of_distinct {seen : List String} {rows : List Row} (h : DistinctIds rows)
    (hseen : ∀ row ∈ rows, row.cell "id" ∉ seen) :
    firstRows seen rows = rows.filterMap identified? := by
  induction rows generalizing seen with
  | nil => rfl
  | cons row rows ih =>
    obtain ⟨hfresh, hseen⟩ := List.forall_mem_cons.mp hseen
    unfold DistinctIds at h
    rw [List.map_cons] at h
    by_cases hid : row.cell "id" = ""
    · have hnone : identified? row = none := by
        rw [identified?, id?_eq_none hid, Option.map_none]
      rw [List.filter_cons_of_neg (by simpa using hid)] at h
      rw [firstRows_of_unidentified hid, List.filterMap_cons_none hnone, ih h hseen]
    · have hsome : identified? row = some (⟨row.cell "id", hid⟩, row) := by
        rw [identified?, id?_eq_some hid, Option.map_some]
      rw [List.filter_cons_of_pos (by simpa using hid), List.nodup_cons] at h
      rw [firstRows_of_first hid hfresh, List.filterMap_cons_some hsome, ih h.2]
      intro other hother hmem
      rcases List.mem_cons.mp hmem with heq | hmem
      · refine h.1 (List.mem_filter.mpr ⟨?_, by simpa using hid⟩)
        rw [← heq]
        exact List.mem_map_of_mem hother
      · exact hseen other hother hmem

lemma distinctIds_of_perm {rows others : List Row} (hperm : rows.Perm others)
    (h : DistinctIds rows) : DistinctIds others :=
  ((hperm.map _).filter _).nodup_iff.mp h

lemma perm_firstRows {rows others : List Row} (hperm : rows.Perm others) (h : DistinctIds rows) :
    (firstRows [] others).Perm (firstRows [] rows) := by
  rw [firstRows_of_distinct h fun _ _ => List.not_mem_nil,
    firstRows_of_distinct (distinctIds_of_perm hperm h) fun _ _ => List.not_mem_nil]
  exact hperm.symm.filterMap _

lemma exists_gives_of_perm {α : Type} [Keyed α] {kind : EntityKind}
    {compile : Filled → Row → Compiling α} {rows others : List Row} {xs : List α}
    (hperm : rows.Perm others) (hdistinct : DistinctIds rows)
    (h : Gives (compileRows kind compile rows) xs)
    (hkey : ∀ id row x, Gives (compile id row) x → Keyed.key x = id.text) :
    ∃ ys, Gives (compileRows kind compile others) ys ∧
      (Collection.ofList xs).toList.Perm (Collection.ofList ys).toList := by
  obtain ⟨ys, hys, hyx⟩ :=
    List.perm_comp_forall₂ (perm_firstRows hperm hdistinct) (gives_compileRows_iff.mp h)
  have hgives : Gives (compileRows kind compile others) ys := gives_compileRows_iff.mpr hys
  rw [toList_of_gives h hkey]
  refine ⟨ys, hgives, ?_⟩
  rw [toList_of_gives hgives hkey]
  exact hyx.symm

/-! ## Tables -/

section

variable {t u : Tables}

lemma exists_reordered {s : Story} (hperm : ∀ kind, (t.rows kind).Perm (u.rows kind))
    (hdistinct : ∀ kind, DistinctIds (t.rows kind)) (h : Gives t.compile s) :
    ∃ r, Gives u.compile r ∧ Reordered s r := by
  obtain ⟨nodes, items, enemies, encounters, hnodes, hitems, henemies, hencounters, rfl⟩ :=
    gives_compile_iff.mp h
  obtain ⟨nodes', hnodes', pnodes⟩ :=
    exists_gives_of_perm (hperm .node) (hdistinct .node) hnodes fun _ _ _ => key_node
  obtain ⟨items', hitems', pitems⟩ :=
    exists_gives_of_perm (hperm .item) (hdistinct .item) hitems fun _ _ _ => key_item
  obtain ⟨enemies', henemies', penemies⟩ :=
    exists_gives_of_perm (hperm .enemy) (hdistinct .enemy) henemies fun _ _ _ => key_enemy
  obtain ⟨encounters', hencounters', pencounters⟩ :=
    exists_gives_of_perm (hperm .encounter) (hdistinct .encounter) hencounters
      fun _ _ _ => key_encounter
  exact ⟨_, gives_compile_iff.mpr ⟨nodes', items', enemies', encounters', hnodes', hitems',
    henemies', hencounters', rfl⟩, pnodes, pitems, penemies, pencounters⟩

/-- What an author can see of two stories is the same, but for the order of the diagnostics. -/
structure AgreeUpToOrder (s r : Story) : Prop where
  nodes : ∀ id, s.nodes.get? id = r.nodes.get? id
  items : ∀ id, s.items.get? id = r.items.get? id
  enemies : ∀ id, s.enemies.get? id = r.enemies.get? id
  encounters : ∀ id, s.encounters.get? id = r.encounters.get? id
  errors : ∀ starts allowed,
    (s.verdict starts allowed).errors.Perm (r.verdict starts allowed).errors
  warnings : ∀ starts allowed,
    (s.verdict starts allowed).warnings.Perm (r.verdict starts allowed).warnings
  artifacts : s.artifacts = r.artifacts

/-- Tables without repeated ids compile to the same story in every order of their rows. -/
theorem rowOrder_free {s : Story} (hperm : ∀ kind, (t.rows kind).Perm (u.rows kind))
    (hdistinct : ∀ kind, DistinctIds (t.rows kind)) (hs : Gives t.compile s) :
    ∃ r, Gives u.compile r ∧ AgreeUpToOrder s r := by
  obtain ⟨r, hr, h⟩ := exists_reordered hperm hdistinct hs
  refine ⟨r, hr, ?_⟩
  constructor
  case nodes => exact get?_of_perm h.nodes
  case items => exact get?_of_perm h.items
  case enemies => exact get?_of_perm h.enemies
  case encounters => exact get?_of_perm h.encounters
  case errors => exact fun starts allowed => (h.diagnostics starts allowed).filter _
  case warnings => exact fun starts allowed => (h.diagnostics starts allowed).filter _
  case artifacts => exact h.artifacts

end

/-- Two rooms that lead to each other, and two enemies. -/
def hallTables : Tables where
  nodes := [
    [("id", some "hall"), ("type", some "narrative"), ("choice1_id", some "down"),
      ("choice1_mechanic", some "navigate:vault")],
    [("id", some "vault"), ("type", some "narrative"), ("choice1_id", some "up"),
      ("choice1_mechanic", some "navigate:hall")]]
  items := []
  enemies := [[("id", some "rat")], [("id", some "bat"), ("hp", some "0")]]
  encounters := []

/-- The same rows from the last to the first. -/
def turnedHallTables : Tables := .ofKinds fun kind => (hallTables.rows kind).reverse

theorem rowOrder_free_hallTables :
    (∀ kind, (hallTables.rows kind).Perm (turnedHallTables.rows kind)) ∧
      (∀ kind, DistinctIds (hallTables.rows kind)) ∧
      ∃ s r, Gives hallTables.compile s ∧ Gives turnedHallTables.compile r ∧
        AgreeUpToOrder s r := by
  have hperm : ∀ kind, (hallTables.rows kind).Perm (turnedHallTables.rows kind) := by
    intro kind
    cases kind <;> exact (List.reverse_perm _).symm
  have hdistinct : ∀ kind, DistinctIds (hallTables.rows kind) := by
    intro kind
    cases kind <;> decide
  have hnodes : ∀ row, FirstRow hallTables.nodes row → ShortSlots row := by
    have hrows : ∀ row ∈ hallTables.nodes, ShortSlots row := by decide
    exact fun row hrow => hrows row (List.mem_of_find?_eq_some hrow.2)
  have hitems : ∀ row, FirstRow hallTables.items row → ¬BarInEffect row :=
    fun row hrow => absurd hrow.2 (by simp [hallTables])
  obtain ⟨s, hs⟩ := exists_gives_compile.mpr ⟨shortColumns_iff.mpr hnodes, hitems⟩
  obtain ⟨r, hr, h⟩ := rowOrder_free hperm hdistinct hs
  exact ⟨hperm, hdistinct, s, r, hs, hr, h⟩

end Gamebook.Proofs
