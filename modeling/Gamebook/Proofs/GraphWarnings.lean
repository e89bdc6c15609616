import Gamebook.Proofs.Edges
import Gamebook.Proofs.LocalChecks
import Gamebook.Proofs.Services

/-!
# What settings and extensions change

Settings name the starts of a story and the nodes that may be dead ends. They decide on warnings of
the graph and on nothing else, one node at a time; saving a story comes to the same under all of
them. A story that is extended by choices, nodes and encounters keeps its edges, so no node of it
becomes an orphan or a dead end.
-/

namespace Gamebook.Proofs

/-! ## Diagnostics of the graph -/

/-- The diagnostic has the code and is about one of the nodes. -/
def tellsOf (code : String) (ids : List String) (d : Diagnostic) : Bool :=
  d.code = code && (idNamed? .node d).any ids.contains

/-- The ids that come in by enlarging a list of ids. -/
def broughtIn (ids more : List String) : List String := more.filter fun id => !ids.contains id

section

variable {s : Story} {starts more allowed : List String}

/-- The diagnostics of orphans and of dead ends. -/
def graphDiagnostics (s : Story) (starts allowed : List String) : List Diagnostic :=
  (s.orphans starts).map (fun id => (Issue.orphan id).diagnostic) ++
    (s.deadEnds allowed).map fun id => (Issue.deadEnd id).diagnostic

lemma graphDiagnostics_eq :
    (s.graphIssues starts allowed).map Issue.diagnostic = graphDiagnostics s starts allowed := by
  unfold Story.graphIssues graphDiagnostics
  rw [List.map_append, List.map_map, List.map_map]
  rfl

lemma severity_graph {d : Diagnostic} (h : d ∈ graphDiagnostics s starts allowed) :
    d.severity = .warning := by
  rcases List.mem_append.mp h with h | h
  all_goals
    obtain ⟨id, -, rfl⟩ := List.mem_map.mp h
    rfl

@[simp] lemma verdict_errors : (s.verdict starts allowed).errors = s.entityVerdict.errors := by
  unfold Story.verdict Story.entityVerdict Verdict.ofDiagnostics
  dsimp only
  have hnone : (graphDiagnostics s starts allowed).filter (fun d => d.severity = .error) = [] :=
    List.filter_eq_nil_iff.mpr fun d hd => by simp [severity_graph hd]
  rw [List.map_append, List.filter_append, graphDiagnostics_eq, hnone, List.append_nil]

@[simp] lemma verdict_warnings : (s.verdict starts allowed).warnings =
    s.entityVerdict.warnings ++ graphDiagnostics s starts allowed := by
  unfold Story.verdict Story.entityVerdict Verdict.ofDiagnostics
  dsimp only
  rw [List.map_append, List.filter_append, graphDiagnostics_eq]
  congr 1
  exact List.filter_eq_self.mpr fun d hd => by simp [severity_graph hd]

lemma filter_entityWarnings {code : String} (hcode : code ∉ ownCodes ∧ code ∉ referenceCodes)
    (ids : List String) :
    s.entityVerdict.warnings.filter (fun d => !tellsOf code ids d) = s.entityVerdict.warnings := by
  refine List.filter_eq_self.mpr fun d hd => ?_
  obtain ⟨issue, hissue, rfl⟩ := List.mem_map.mp (List.mem_of_mem_filter hd)
  rw [entityIssues_eq] at hissue
  obtain ⟨e, -, hissue⟩ := List.mem_flatMap.mp hissue
  have hne : issue.diagnostic.code ≠ code := by
    rintro rfl
    exact (code_of_mem hissue).elim hcode.1 hcode.2
  unfold tellsOf
  rw [decide_eq_false hne]
  rfl

lemma filter_map_other {code : String} {ids l : List String} {f : String → Diagnostic}
    (h : ∀ id, (f id).code ≠ code) :
    (l.map f).filter (fun d => !tellsOf code ids d) = l.map f := by
  refine List.filter_eq_self.mpr fun d hd => ?_
  obtain ⟨id, -, rfl⟩ := List.mem_map.mp hd
  unfold tellsOf
  rw [decide_eq_false (h id)]
  rfl

lemma filter_map_same {code : String} {ids l : List String} {f : String → Diagnostic}
    (h : ∀ id, (f id).code = code ∧ idNamed? .node (f id) = some id) :
    (l.map f).filter (fun d => !tellsOf code ids d) =
      (l.filter fun id => !ids.contains id).map f := by
  have htells : ∀ id, tellsOf code ids (f id) = ids.contains id := by
    intro id
    unfold tellsOf
    rw [decide_eq_true (h id).1, (h id).2]
    rfl
  rw [List.filter_map]
  exact congrArg (List.map f) (List.filter_congr fun id _ => congrArg Bool.not (htells id))

lemma not_contains_more {ids more : List String} (h : ids ⊆ more) (id : String) :
    (!more.contains id) = (!ids.contains id && !(broughtIn ids more).contains id) := by
  rw [Bool.eq_iff_iff]
  simp only [broughtIn, Bool.and_eq_true, missing_iff, List.mem_filter]
  constructor
  · exact fun hmore => ⟨fun hids => hmore (h hids), fun hnew => hmore hnew.1⟩
  · exact fun hboth hmore => hboth.2 ⟨hmore, hboth.1⟩

lemma orphans_more (h : starts ⊆ more) : s.orphans more =
    (s.orphans starts).filter fun id => !(broughtIn starts more).contains id := by
  unfold Story.orphans
  rw [List.filter_filter]
  refine List.filter_congr fun id _ => ?_
  rw [not_contains_more h id]
  ac_rfl

lemma deadEnds_more (h : allowed ⊆ more) : s.deadEnds more =
    (s.deadEnds allowed).filter fun id => !(broughtIn allowed more).contains id := by
  unfold Story.deadEnds
  rw [List.filter_map, List.filter_filter]
  refine congrArg _ (List.filter_congr fun n _ => ?_)
  rw [not_contains_more h n.id.text, Function.comp_apply]
  ac_rfl

lemma orphan_named (id : String) : (Issue.orphan id).diagnostic.code = "DATA008" ∧
    idNamed? .node (Issue.orphan id).diagnostic = some id := ⟨rfl, rfl⟩

lemma deadEnd_named (id : String) : (Issue.deadEnd id).diagnostic.code = "DATA009" ∧
    idNamed? .node (Issue.deadEnd id).diagnostic = some id := ⟨rfl, rfl⟩

/-- More starts take away the warnings about orphans that they name. -/
lemma warnings_starts (h : starts ⊆ more) :
    (s.verdict more allowed).warnings =
      (s.verdict starts allowed).warnings.filter
        fun d => !tellsOf "DATA008" (broughtIn starts more) d := by
  have hother : ∀ id, (Issue.deadEnd id).diagnostic.code ≠ "DATA008" := by
    intro id
    rw [(deadEnd_named id).1]
    decide
  rw [verdict_warnings, verdict_warnings, List.filter_append, filter_entityWarnings (by decide)]
  unfold graphDiagnostics
  rw [List.filter_append, filter_map_same orphan_named, filter_map_other hother, ← orphans_more h]

lemma warnings_allowed (h : allowed ⊆ more) :
    (s.verdict starts more).warnings =
      (s.verdict starts allowed).warnings.filter
        fun d => !tellsOf "DATA009" (broughtIn allowed more) d := by
  have hother : ∀ id, (Issue.orphan id).diagnostic.code ≠ "DATA009" := by
    intro id
    rw [(orphan_named id).1]
    decide
  rw [verdict_warnings, verdict_warnings, List.filter_append, filter_entityWarnings (by decide)]
  unfold graphDiagnostics
  rw [List.filter_append, filter_map_other hother, filter_map_same deadEnd_named,
    ← deadEnds_more h]

end

/-! ## Saving -/

/-- What became of saving a story, but for the warnings. -/
def unwarned : Saved → Saved
  | .rejected v => .rejected ⟨v.errors, []⟩
  | .written tables backups _ => .written tables backups []

lemma save_alike (set : Settings) (starts allowed : List String) (now : Instant) (s : Story)
    (desk : Desk) :
    (outcome (Desk.save { set with starts := starts, allowedDeadEnds := allowed } now s) desk).map
        (Except.map unwarned) id =
      (outcome (Desk.save set now s) desk).map (Except.map unwarned) id := by
  have herrors : ((({ set with starts := starts, allowedDeadEnds := allowed } : Settings).judge
      s).errors) = (set.judge s).errors := verdict_errors.trans verdict_errors.symm
  rw [outcome_save, outcome_save]
  unfold Verdict.isSound Verdict.attributed
  rw [herrors]
  -- Neither list is read in writing the tables or in keeping the old ones.
  have hwrite : Desk.writeTables { set with starts := starts, allowedDeadEnds := allowed }
      now.millis s desk.files = Desk.writeTables set now.millis s desk.files := rfl
  rw [hwrite]
  cases s.isReadable with
  | false => rfl
  | true =>
    cases (set.judge s).errors.isEmpty with
    | false => rfl
    | true =>
      cases s.isWritable with
      | false => rfl
      | true => rcases Desk.writeTables set now.millis s desk.files with failure | result <;> rfl

/-! ## Extensions -/

/-- The node is the same, but for more choices after its own. -/
structure NodeExtends (n m : Node) : Prop where
  same : { n with choices := m.choices } = m
  choices : n.choiceList <+: m.choiceList

/-- The story has all nodes, maybe with more choices, and all encounters, and maybe more of them. -/
structure Extends (s t : Story) : Prop where
  nodes : ∀ key n, s.nodes.get? key = some n → ∃ m, t.nodes.get? key = some m ∧ NodeExtends n m
  encounters : ∀ key e, s.encounters.get? key = some e → t.encounters.get? key = some e

section

variable {s t : Story} {source target id : String}

lemma targets_extends {n m : Node} (h : NodeExtends n m) : n.targets ⊆ m.targets := by
  intro target ht
  obtain ⟨⟨c, hc, hc'⟩, hne⟩ := mem_nodeTargets.mp ht
  exact mem_nodeTargets.mpr ⟨⟨c, h.choices.subset hc, hc'⟩, hne⟩

lemma enters_extends (h : Extends s t) (he : Enters s source target) : Enters t source target := by
  cases he with
  | node hn ht =>
    obtain ⟨m, hm, hextends⟩ := h.nodes _ _ hn
    exact .node hm (targets_extends hextends ht)
  | encounter he ht hne => exact .encounter (h.encounters _ _ he) ht hne

lemma orphan_extends {starts : List String} (h : Extends s t) (hid : id ∈ s.nodes.keys)
    (horphan : id ∈ t.orphans starts) : id ∈ s.orphans starts := by
  obtain ⟨-, hstart, hnone⟩ := mem_orphans.mp horphan
  exact mem_orphans.mpr ⟨hid, hstart, fun source he => hnone source (enters_extends h he)⟩

lemma deadEnd_extends {allowed : List String} (h : Extends s t) (hid : id ∈ s.nodes.keys)
    (hdead : id ∈ t.deadEnds allowed) : id ∈ s.deadEnds allowed := by
  obtain ⟨-, hallowed, hall⟩ := mem_deadEnds.mp hdead
  refine mem_deadEnds.mpr ⟨hid, hallowed, fun n hn => ?_⟩
  obtain ⟨m, hm, hextends⟩ := h.nodes _ _ hn
  obtain ⟨htype, hchoices⟩ := hall m hm
  have hsame : m.type = n.type := by rw [← hextends.same]
  -- Choices only come in, so a node without any in the extension had none before.
  exact ⟨hsame ▸ htype, List.prefix_nil.mp (hchoices ▸ hextends.choices)⟩

end

/-! ## The verdict -/

/-- What the starts of a story and the nodes that may be dead ends have to do with the verdict on
it: they decide on warnings of the graph, each of them on those of its own nodes, and not on whether
there is a verdict at all. -/
structure SteadyVerdict (s : Story) : Prop where
  checked : (∀ starts allowed, s.check starts allowed = .ok (s.verdict starts allowed)) ∨
    ∀ starts allowed, s.check starts allowed = .error ⟨⟩
  errors : ∀ starts allowed, (s.verdict starts allowed).errors = s.entityVerdict.errors
  warnings : ∀ starts allowed, (s.verdict starts allowed).warnings =
    s.entityVerdict.warnings ++ (s.graphIssues starts allowed).map Issue.diagnostic
  starts : ∀ starts more allowed, starts ⊆ more →
    (s.verdict more allowed).warnings = (s.verdict starts allowed).warnings.filter
      fun d => !tellsOf "DATA008" (broughtIn starts more) d
  allowed : ∀ starts allowed more, allowed ⊆ more →
    (s.verdict starts more).warnings = (s.verdict starts allowed).warnings.filter
      fun d => !tellsOf "DATA009" (broughtIn allowed more) d
  saving : ∀ (set : Settings) (starts allowed : List String) (now : Instant) (desk : Desk),
    (outcome (Desk.save { set with starts := starts, allowedDeadEnds := allowed } now s) desk).map
        (Except.map unwarned) id =
      (outcome (Desk.save set now s) desk).map (Except.map unwarned) id

/-- The verdict on a story is steady, and a node that has been neither an orphan nor a dead end does
not become one as the story is extended. -/
theorem verdict_steady (s : Story) :
    SteadyVerdict s ∧ ∀ t, Extends s t → ∀ starts allowed, ∀ id ∈ s.nodes.keys,
      (id ∈ t.orphans starts → id ∈ s.orphans starts) ∧
      (id ∈ t.deadEnds allowed → id ∈ s.deadEnds allowed) := by
  refine ⟨?_, fun t h starts allowed id hid => ⟨orphan_extends h hid, deadEnd_extends h hid⟩⟩
  constructor
  case checked =>
    by_cases hread : s.isReadable = true
    · exact .inl fun starts allowed => (check_eq s starts allowed).trans (if_pos hread)
    · exact .inr fun starts allowed => (check_eq s starts allowed).trans (if_neg hread)
  case errors => exact fun starts allowed => verdict_errors
  case warnings =>
    intro starts allowed
    rw [verdict_warnings, graphDiagnostics_eq]
  case starts => exact fun starts more allowed h => warnings_starts h
  case allowed => exact fun starts allowed more h => warnings_allowed h
  case saving => exact fun set starts allowed now desk => save_alike set starts allowed now s desk

def wayUp : Choice where
  id := ⟨"stairs", by decide⟩
  label := "Go up"
  requirements := none
  mechanic := .navigate ⟨"attic", by decide⟩

/-- The node with a way to the attic. -/
def withWayUp (n : Node) : Node := { n with choices := some (n.choiceList ++ [wayUp]) }

def loftNode : Node where
  id := ⟨"loft", by decide⟩
  type := "narrative"
  text := "A loft"
  image := none
  onEnter := none
  choices := none

/-- The hall and its nest, a way to the attic from everywhere, and a loft. -/
def tallStory : Story where
  nodes := ⟨nestStory.nodes.toList.map withWayUp ++ [loftNode], by decide⟩
  items := .empty
  enemies := .empty
  encounters := nestStory.encounters

lemma extends_tallStory : Extends nestStory tallStory := by
  constructor
  case nodes =>
    intro key n hn
    obtain ⟨hmem, hkey⟩ := get?_eq_some.mp hn
    have htall : withWayUp n ∈ tallStory.nodes.toList :=
      List.mem_append_left _ (List.mem_map_of_mem hmem)
    exact ⟨withWayUp n, get?_eq_some.mpr ⟨htall, hkey⟩, rfl, List.prefix_append _ _⟩
  case encounters => exact fun key e he => he

theorem verdict_steady_nest :
    Extends nestStory tallStory ∧
    (nestStory.verdict ["hall"] []).warnings.map Diagnostic.code = ["DATA008"] ∧
    (nestStory.verdict ["hall", "attic"] []).warnings =
      (nestStory.verdict ["hall"] []).warnings.filter
        (fun d => !tellsOf "DATA008" (broughtIn ["hall"] ["hall", "attic"]) d) ∧
    ("hall" ∈ tallStory.deadEnds [] → "hall" ∈ nestStory.deadEnds []) := by
  obtain ⟨hsteady, hextends⟩ := verdict_steady nestStory
  refine ⟨extends_tallStory, by decide, hsteady.starts _ _ _ (by decide), ?_⟩
  exact (hextends tallStory extends_tallStory [] [] "hall" (by decide)).2

end Gamebook.Proofs
