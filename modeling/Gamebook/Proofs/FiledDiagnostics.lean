import Gamebook.Proofs.GraphWarnings

/-!
# Diagnostics and their files

Whatever a diagnostic refers to, its file is the table of the entity in which the fault lies. The
attribution looks for keys in the context; every fault names the entity that has it under the key
that is found first.
-/

namespace Gamebook.Proofs

/-! ## Causes -/

/-- The kind of the entity that a place lies in. -/
def Site.owner : Site → EntityKind
  | nodeType _ => .node
  | mechanic _ _ _ => .node
  | requirement _ _ _ _ => .node
  | onEnter _ _ => .node
  | noSpawns _ => .encounter
  | spawn _ _ => .encounter
  | resolution _ _ => .encounter
  | item _ _ => .item
  | enemy _ _ => .enemy

/-- What calls for a report: a broken rule, a node that nothing leads to, or one that leads
nowhere. -/
inductive Cause where
  | broken (site : Site)
  | orphan (nodeId : String)
  | deadEnd (nodeId : String)

/-- The kind of the entity that the cause lies in. -/
def Cause.owner : Cause → EntityKind
  | broken site => site.owner
  | orphan _ => .node
  | deadEnd _ => .node

/-- The story holds the cause, and this is to be reported. -/
def Calls (s : Story) (starts allowed : List String) : Cause → Report → Prop
  | .broken site, r => Violation s site r
  | .orphan id, r => id ∈ s.orphans starts ∧ r = warningReport "DATA008" [("nodeId", .string id)]
  | .deadEnd id, r => id ∈ s.deadEnds allowed ∧ r = warningReport "DATA009" [("nodeId", .string id)]

/-- A diagnostic with its cause. -/
structure Finding where
  cause : Cause
  diagnostic : Diagnostic

namespace Finding

def isError (f : Finding) : Bool := f.diagnostic.severity = .error

/-- The cause and what is said of it. -/
def tells (f : Finding) : Cause × Report := (f.cause, report f.diagnostic)

/-- The diagnostic in the file of the entity that the cause lies in. -/
def filed (f : Finding) : Diagnostic := { f.diagnostic with file := some f.cause.owner.file }

end Finding

/-! ## The subject of a diagnostic -/

section

variable {s : Story} {starts allowed : List String} {d : Diagnostic}

/-- A diagnostic that says what the report says and nothing else. -/
def bare (r : Report) : Diagnostic := ⟨r.code, r.severity, none, none, none, "", none, r.context⟩

lemma subject?_of_report {r : Report} {kind : EntityKind} (h : report d = r)
    (hsubject : (bare r).subject? = some kind) : d.subject? = some kind := by
  rw [← h] at hsubject
  exact hsubject

lemma subject?_of_mechanic {n : Node} {c : Choice} {rule : MechanicRule}
    (h : MechanicViolation s n c rule (report d)) : d.subject? = some .node := by
  cases rule with
  | navigate =>
    obtain ⟨_, -, -, hr⟩ := h
    exact subject?_of_report hr rfl
  | combat =>
    obtain ⟨_, -, -, hr⟩ := h
    exact subject?_of_report hr rfl
  | success =>
    obtain ⟨_, -, -, hr⟩ := h
    exact subject?_of_report hr rfl
  | failure =>
    obtain ⟨_, -, -, hr⟩ := h
    exact subject?_of_report hr rfl
  | failureEncounter =>
    obtain ⟨_, -, _, -, -, -, hr⟩ := h
    exact subject?_of_report hr rfl
  | dice =>
    obtain ⟨_, -, -, hr⟩ := h
    exact subject?_of_report hr rfl
  | ability =>
    obtain ⟨_, -, _, -, -, -, hr⟩ := h
    exact subject?_of_report hr rfl

lemma subject?_of_requirement {n : Node} {c : Choice} {q : Requirement} {rule : RequirementRule}
    (h : RequirementViolation s n c q rule (report d)) : d.subject? = some .node := by
  cases rule with
  | item =>
    obtain ⟨_, -, -, hr⟩ := h
    exact subject?_of_report hr rfl
  | operator =>
    obtain ⟨_, _, _, -, -, hr⟩ := h
    exact subject?_of_report hr rfl
  | stat =>
    obtain ⟨_, _, _, -, -, hr⟩ := h
    exact subject?_of_report hr rfl

lemma subject?_of_item {i : Item} {rule : ItemRule} (h : ItemViolation s i rule (report d)) :
    d.subject? = some .item := by
  cases rule with
  | type =>
    obtain ⟨-, hr⟩ := h
    exact subject?_of_report hr rfl
  | damage =>
    obtain ⟨-, -, hr⟩ := h
    exact subject?_of_report hr rfl
  | effect =>
    obtain ⟨_, -, _, -, -, hr⟩ := h
    exact subject?_of_report hr rfl
  | scaling =>
    obtain ⟨_, -, -, -, hr⟩ := h
    exact subject?_of_report hr rfl

lemma subject?_of_enemy {e : Enemy} {rule : EnemyRule} (h : EnemyViolation e rule (report d)) :
    d.subject? = some .enemy := by
  cases rule with
  | hp => exact subject?_of_report h.2 rfl
  | armor => exact subject?_of_report h.2 rfl
  | damage => exact subject?_of_report h.2 rfl

/-- What is reported of a broken rule names the entity that breaks it before any other one. -/
lemma subject?_of_violation {site : Site} (h : Violation s site (report d)) :
    d.subject? = some site.owner := by
  cases site with
  | nodeType i =>
    obtain ⟨_, -, -, hr⟩ := h
    exact subject?_of_report hr rfl
  | mechanic i j rule =>
    obtain ⟨_, -, _, -, hrule⟩ := h
    exact subject?_of_mechanic hrule
  | requirement i j k rule =>
    obtain ⟨_, -, _, -, _, -, hrule⟩ := h
    exact subject?_of_requirement hrule
  | onEnter i j =>
    obtain ⟨_, -, _, -, _, -, -, hr⟩ := h
    exact subject?_of_report hr rfl
  | noSpawns i =>
    obtain ⟨_, -, -, hr⟩ := h
    exact subject?_of_report hr rfl
  | spawn i j =>
    obtain ⟨_, -, _, -, -, hr⟩ := h
    exact subject?_of_report hr rfl
  | resolution i which =>
    obtain ⟨_, -, -, hr⟩ := h
    exact subject?_of_report hr rfl
  | item i rule =>
    obtain ⟨_, -, hrule⟩ := h
    exact subject?_of_item hrule
  | enemy i rule =>
    obtain ⟨_, -, hrule⟩ := h
    exact subject?_of_enemy hrule

lemma subject?_of_calls {cause : Cause} (h : Calls s starts allowed cause (report d)) :
    d.subject? = some cause.owner := by
  cases cause with
  | broken site => exact subject?_of_violation h
  | orphan id => exact subject?_of_report h.2 rfl
  | deadEnd id => exact subject?_of_report h.2 rfl

end

/-! ## Attribution -/

section

variable {d : Diagnostic}

lemma attributed_of_file (h : d.file.getD "" ≠ "") : d.attributed = d := if_pos h

lemma attributed_of_subject {kind : EntityKind} (hfile : ¬d.file.getD "" ≠ "")
    (h : d.subject? = some kind) : d.attributed = { d with file := some kind.file } := by
  unfold Diagnostic.attributed
  rw [if_neg hfile]
  simp only [h]

lemma attributed_of_no_subject (h : d.subject? = none) : d.attributed = d := by
  unfold Diagnostic.attributed
  simp only [h, ite_self]

@[simp] lemma attributed_attributed (d : Diagnostic) : d.attributed.attributed = d.attributed := by
  by_cases hfile : d.file.getD "" ≠ ""
  · rw [attributed_of_file hfile, attributed_of_file hfile]
  · cases hsubject : d.subject? with
    | none => rw [attributed_of_no_subject hsubject, attributed_of_no_subject hsubject]
    | some kind =>
      have hnamed : kind.file ≠ "" := by cases kind <;> decide
      rw [attributed_of_subject hfile hsubject]
      exact attributed_of_file hnamed

@[simp] lemma file_diagnostic (issue : Issue) : issue.diagnostic.file = none := by
  cases issue <;> rfl

end

/-! ## Findings -/

section

variable {s : Story} {starts allowed : List String}

lemma exists_findings {found : List (Cause × Report)} {ds : List Diagnostic}
    (h : ds.map report = found.map Prod.snd) :
    ∃ findings : List Finding, findings.map Finding.diagnostic = ds ∧
      findings.map Finding.tells = found := by
  induction found generalizing ds with
  | nil =>
    obtain rfl := List.map_eq_nil_iff.mp h
    exact ⟨[], rfl, rfl⟩
  | cons first found ih =>
    obtain ⟨d, ds, rfl, hfirst, hrest⟩ := List.map_eq_cons_iff.mp h
    obtain ⟨findings, hds, hfound⟩ := ih hrest
    refine ⟨⟨first.1, d⟩ :: findings, congrArg (d :: ·) hds, ?_⟩
    rw [List.map_cons, hfound, Finding.tells, hfirst]

/-- What the graph calls for. -/
def graphCalls (s : Story) (starts allowed : List String) : List (Cause × Report) :=
  (s.orphans starts).map
      (fun id => (.orphan id, warningReport "DATA008" [("nodeId", .string id)])) ++
    (s.deadEnds allowed).map
      fun id => (.deadEnd id, warningReport "DATA009" [("nodeId", .string id)])

lemma reports_graph : ((s.graphIssues starts allowed).map Issue.diagnostic).map report =
    (graphCalls s starts allowed).map Prod.snd := by
  rw [graphDiagnostics_eq]
  unfold graphDiagnostics graphCalls
  simp only [List.map_append, List.map_map]
  rfl

lemma nodup_graphCalls : ((graphCalls s starts allowed).map Prod.fst).Nodup := by
  have hkeys : s.nodes.keys.Nodup := s.nodes.distinct
  have horphans : (s.orphans starts).Nodup := hkeys.filter _
  have hdeadEnds : (s.deadEnds allowed).Nodup := hkeys.sublist (List.filter_sublist.map _)
  unfold graphCalls
  rw [List.map_append, List.map_map, List.map_map, List.nodup_append]
  refine ⟨horphans.map fun _ _ => Cause.orphan.inj, hdeadEnds.map fun _ _ => Cause.deadEnd.inj, ?_⟩
  simp

lemma broken_notMem_graphCalls (site : Site) :
    .broken site ∉ (graphCalls s starts allowed).map Prod.fst := by
  simp [graphCalls]

lemma exists_findings_verdict (s : Story) (starts allowed : List String) :
    ∃ findings : List Finding,
      findings.map Finding.diagnostic =
        (s.entityIssues ++ s.graphIssues starts allowed).map Issue.diagnostic ∧
      (findings.map Finding.cause).Nodup ∧
      ∀ cause r, (cause, r) ∈ findings.map Finding.tells ↔ Calls s starts allowed cause r := by
  obtain ⟨found, hnodup, hmem, hissues⟩ := exact_entityIssues s
  have hentities : (s.entityIssues.map Issue.diagnostic).map report =
      (found.map (Prod.map Cause.broken id)).map Prod.snd := by
    rw [List.map_map, List.map_map]
    exact hissues
  have hreports :
      ((s.entityIssues ++ s.graphIssues starts allowed).map Issue.diagnostic).map report =
        (found.map (Prod.map Cause.broken id) ++ graphCalls s starts allowed).map Prod.snd := by
    rw [List.map_append, List.map_append, List.map_append, reports_graph, hentities]
  obtain ⟨findings, hds, htells⟩ := exists_findings hreports
  have hcauses : findings.map Finding.cause =
      (found.map Prod.fst).map .broken ++ (graphCalls s starts allowed).map Prod.fst := by
    have hfst : findings.map Finding.cause = (findings.map Finding.tells).map Prod.fst := by
      rw [List.map_map]
      rfl
    rw [hfst, htells, List.map_append, List.map_map, List.map_map]
    rfl
  refine ⟨findings, hds, ?_, fun cause r => ?_⟩
  · rw [hcauses, List.nodup_append]
    refine ⟨hnodup.map fun _ _ => Cause.broken.inj, nodup_graphCalls, ?_⟩
    rintro cause hcause _ hgraph rfl
    obtain ⟨site, -, rfl⟩ := List.mem_map.mp hcause
    exact broken_notMem_graphCalls site hgraph
  · rw [htells, List.mem_append]
    cases cause <;> simp +contextual [graphCalls, Calls, hmem, eq_comm]

end

/-- The findings are one for each cause in the story. The verdict gives their diagnostics, and
attribution puts each of them in the file of the entity that the cause lies in. -/
structure FiledByOwner (s : Story) (starts allowed : List String) (findings : List Finding) : Prop
    where
  once : (findings.map Finding.cause).Nodup
  complete : ∀ cause r, (cause, r) ∈ findings.map Finding.tells ↔ Calls s starts allowed cause r
  errors : (s.verdict starts allowed).errors =
    (findings.filter Finding.isError).map Finding.diagnostic
  warnings : (s.verdict starts allowed).warnings =
    (findings.filter fun f => !f.isError).map Finding.diagnostic
  filedErrors : (s.verdict starts allowed).attributed.errors =
    (findings.filter Finding.isError).map Finding.filed
  filedWarnings : (s.verdict starts allowed).attributed.warnings =
    (findings.filter fun f => !f.isError).map Finding.filed

/-- Every diagnostic goes to the table of the entity that it is about, and there it stays. -/
theorem attributed_byOwner (s : Story) (starts allowed : List String) :
    (∃ findings, FiledByOwner s starts allowed findings) ∧
      ∀ d : Diagnostic, d.attributed.attributed = d.attributed ∧
        ∀ file ∈ d.file, file ≠ "" → d.attributed = d := by
  obtain ⟨findings, hds, hnodup, hcomplete⟩ := exists_findings_verdict s starts allowed
  have herrors : (s.verdict starts allowed).errors =
      (findings.filter Finding.isError).map Finding.diagnostic := by
    unfold Story.verdict Verdict.ofDiagnostics
    dsimp only
    rw [← hds, List.filter_map]
    rfl
  have hwarnings : (s.verdict starts allowed).warnings =
      (findings.filter fun f => !f.isError).map Finding.diagnostic := by
    unfold Story.verdict Verdict.ofDiagnostics
    have hnot : ∀ f : Finding, decide (f.diagnostic.severity ≠ .error) = !f.isError :=
      fun _ => decide_not
    dsimp only
    rw [← hds, List.filter_map]
    exact congrArg _ (List.filter_congr fun f _ => hnot f)
  have hfiled : ∀ f ∈ findings, f.diagnostic.attributed = f.filed := by
    intro f hf
    have hcalls : Calls s starts allowed f.cause (report f.diagnostic) :=
      (hcomplete _ _).mp (List.mem_map_of_mem hf)
    obtain ⟨issue, -, hissue⟩ := List.mem_map.mp (hds ▸ List.mem_map_of_mem hf)
    have hfile : f.diagnostic.file = none := hissue ▸ file_diagnostic issue
    exact attributed_of_subject (by simp [hfile]) (subject?_of_calls hcalls)
  refine ⟨⟨findings, hnodup, hcomplete, herrors, hwarnings, ?_, ?_⟩, fun d => ?_⟩
  · unfold Verdict.attributed
    rw [herrors, List.map_map]
    exact List.map_congr_left fun f hf => hfiled f (List.mem_of_mem_filter hf)
  · unfold Verdict.attributed
    rw [hwarnings, List.map_map]
    exact List.map_congr_left fun f hf => hfiled f (List.mem_of_mem_filter hf)
  · refine ⟨attributed_attributed d, fun file hfile hne => attributed_of_file ?_⟩
    rw [Option.mem_def.mp hfile]
    exact hne

/-- A marsh whose one choice takes boots and leads into the reeds. -/
def marshNode : Node where
  id := ⟨"marsh", by decide⟩
  type := "narrative"
  text := "A marsh"
  image := none
  onEnter := none
  choices := some [
    { id := ⟨"wade", by decide⟩
      label := "Wade in"
      requirements := some [.hasItem ⟨"boots", by decide⟩]
      mechanic := .navigate ⟨"reeds", by decide⟩ }]

/-- The marsh without the boots and the reeds, and a pond without its frogs and its bog. -/
def pondStory : Story where
  nodes := ⟨[marshNode], by decide⟩
  items := .empty
  enemies := .empty
  encounters := ⟨[
    { id := ⟨"pond", by decide⟩
      name := none
      spawns := [⟨⟨"frog", by decide⟩, 2⟩]
      onVictory := "marsh"
      onDefeat := "bog" }], by decide⟩

theorem attributed_byOwner_pond :
    (pondStory.verdict ["marsh"] []).attributed.errors.map Diagnostic.file =
        [some "nodes.csv", some "nodes.csv", some "encounters.csv", some "encounters.csv"] ∧
      (∃ findings, FiledByOwner pondStory ["marsh"] [] findings) ∧
      ((Issue.orphan "bog").diagnostic.attributed).attributed =
        (Issue.orphan "bog").diagnostic.attributed := by
  obtain ⟨hfindings, hstays⟩ := attributed_byOwner pondStory ["marsh"] []
  exact ⟨by decide, hfindings, (hstays (Issue.orphan "bog").diagnostic).1⟩

end Gamebook.Proofs
