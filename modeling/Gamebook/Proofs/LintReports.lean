import Gamebook.Proofs.OneVerdict
import Gamebook.Proofs.ReportTable

/-!
# Lint reports

A strict report tells all that the other one tells, and all of it as errors. The exit code is zero
for a report without errors and with as many warnings as the cap allows, so a looser cap turns
nothing down. The table of a report lists every diagnostic. There is a report on exactly the stories
whose dice can be read.
-/

namespace Gamebook.Proofs

/-! ## Exit codes -/

section

variable {errors warnings : List Diagnostic} {cap looser : Option ℤ}

lemma exitCode_eq_zero_iff {r : LintReport} :
    r.exitCode = 0 ↔ r.errors = [] ∧ ∀ cap ∈ r.maxWarnings, (r.warnings.length : ℤ) ≤ cap := by
  unfold LintReport.exitCode LintReport.success LintReport.overLimit
  cases r.maxWarnings with
  | none => cases r.errors <;> simp
  | some cap => cases r.errors <;> simp

/-- A looser cap is a higher one or none at all. -/
inductive Looser : Option ℤ → Option ℤ → Prop
  | raised {cap higher : ℤ} (h : cap ≤ higher) : Looser (some cap) (some higher)
  | removed (cap : Option ℤ) : Looser cap none

lemma exitCode_looser (h : Looser cap looser)
    (hzero : (LintReport.mk errors warnings cap).exitCode = 0) :
    (LintReport.mk errors warnings looser).exitCode = 0 := by
  rw [exitCode_eq_zero_iff] at hzero ⊢
  refine ⟨hzero.1, fun higher hhigher => ?_⟩
  cases h with
  | raised hle =>
    obtain rfl := Option.some.inj hhigher
    exact (hzero.2 _ rfl).trans hle
  | removed => cases hhigher

end

/-! ## Strict reports -/

/-- The diagnostic as an error. -/
def promoted (d : Diagnostic) : Diagnostic := { d with severity := .error }

/-- The diagnostics of a report have the severity under which it lists them. -/
structure Graded (r : LintReport) : Prop where
  errors : ∀ d ∈ r.errors, d.severity = .error
  warnings : ∀ d ∈ r.warnings, d.severity = .warning

@[simp] lemma severity_attributed (d : Diagnostic) : d.attributed.severity = d.severity := by
  unfold Diagnostic.attributed
  split
  · rfl
  · split <;> rfl

lemma severity_duplicates (t : Tables) : ∀ d ∈ t.duplicates, d.severity = .warning := by
  intro d hd
  obtain ⟨kind, -, hd⟩ := List.mem_flatMap.mp hd
  obtain ⟨repeated, -, rfl⟩ := List.mem_map.mp hd
  rfl

lemma graded_ofVerdict {duplicates : List Diagnostic}
    (h : ∀ d ∈ duplicates, d.severity = .warning) (ds : List Diagnostic) (cap : Option ℤ) :
    Graded (.ofVerdict duplicates (.ofDiagnostics ds) false cap) := by
  constructor
  case errors =>
    intro d hd
    obtain ⟨found, hfound, rfl⟩ := List.mem_map.mp hd
    rw [severity_attributed]
    exact of_decide_eq_true (List.mem_filter.mp hfound).2
  case warnings =>
    intro d hd
    rcases List.mem_append.mp hd with hd | hd
    · exact h d hd
    · obtain ⟨found, hfound, rfl⟩ := List.mem_map.mp hd
      have hne : found.severity ≠ .error := of_decide_eq_true (List.mem_filter.mp hfound).2
      rw [severity_attributed]
      cases hseverity : found.severity with
      | error => exact absurd hseverity hne
      | warning => rfl

/-- What a strict report and the other one have to do with each other, under each cap. -/
structure Coherent (plain strict : Option ℤ → LintReport) : Prop where
  errors : ∀ cap, (strict cap).errors = (plain cap).errors ++ (plain cap).warnings.map promoted
  warnings : ∀ cap, (strict cap).warnings = []
  graded : ∀ cap, Graded (plain cap) ∧ Graded (strict cap)
  strictExit : ∀ cap, (∀ c ∈ cap, 0 ≤ c) → ((strict cap).exitCode = 0 ↔ IsClean (plain cap))
  plainExit : ∀ cap, (plain cap).exitCode = 0 ↔
    (plain cap).errors = [] ∧ ∀ c ∈ cap, ((plain cap).warnings.length : ℤ) ≤ c
  looser : ∀ cap looser, Looser cap looser →
    ((plain cap).exitCode = 0 → (plain looser).exitCode = 0) ∧
      ((strict cap).exitCode = 0 → (strict looser).exitCode = 0)

lemma coherent_ofVerdict {duplicates : List Diagnostic}
    (h : ∀ d ∈ duplicates, d.severity = .warning) (ds : List Diagnostic) :
    Coherent (.ofVerdict duplicates (.ofDiagnostics ds) false)
      (.ofVerdict duplicates (.ofDiagnostics ds) true) := by
  have hplain := graded_ofVerdict h ds
  constructor
  case errors => exact fun _ => rfl
  case warnings => exact fun _ => rfl
  case graded =>
    refine fun cap => ⟨hplain cap, fun d hd => ?_, by simp [LintReport.ofVerdict]⟩
    rcases List.mem_append.mp hd with hd | hd
    · exact (hplain cap).errors d hd
    · obtain ⟨d, -, rfl⟩ := List.mem_map.mp hd
      rfl
  case strictExit =>
    intro cap hcap
    rw [exitCode_eq_zero_iff]
    unfold IsClean
    simp only [LintReport.ofVerdict, if_true, Bool.false_eq_true, if_false, List.append_eq_nil_iff,
      List.map_eq_nil_iff, List.length_nil, Nat.cast_zero]
    exact and_iff_left hcap
  case plainExit => exact fun _ => exitCode_eq_zero_iff
  case looser => exact fun _ _ hlooser => ⟨exitCode_looser hlooser, exitCode_looser hlooser⟩

/-! ## What linting comes to -/

/-- Linting a directory gives this report, and the command prints it and exits with its code. -/
def LintsTo (s : Settings) (desk : Desk) (directory : Path) (strict : Bool) (cap : Option ℤ)
    (r : LintReport) : Prop :=
  ∃ after, Answers (Desk.lint s directory strict cap) desk r after ∧
    ∀ asJson, Answers (Command.lint s ⟨directory, asJson, cap, strict⟩) desk
      ⟨r.exitCode, Outcome.lines [if asJson then r.toJson.toLine else r.table], ""⟩ after

section

variable {s : Settings} {desk : Desk} {directory : Path} {t : Tables} {story : Story}

lemma lintsTo_ofVerdict (ht : desk.files.readTables directory = .ok t) (hs : Gives t.compile story)
    (hdice : ReadableDice story) (strict : Bool) (cap : Option ℤ) :
    LintsTo s desk directory strict cap (.ofVerdict t.duplicates (s.judge story) strict cap) := by
  have hlint := answers_lint (s := s) ht hs (story_isReadable_iff.mpr hdice) strict cap
  refine ⟨_, hlint, fun asJson => ?_⟩
  unfold Command.lint
  exact answers_orFatal.mpr (.inl (answers_bind.mpr ⟨_, _, hlint, rfl⟩))

lemma LintsTo.unique {strict : Bool} {cap : Option ℤ} {r other : LintReport}
    (h : LintsTo s desk directory strict cap r)
    (hother : LintsTo s desk directory strict cap other) :
    r = other := by
  obtain ⟨after, h, -⟩ := h
  obtain ⟨after', hother, -⟩ := hother
  exact Except.ok.inj (congrArg Prod.fst (h.symm.trans hother))

end

/-- The reports on a story that can be read, compiled and checked are coherent, linting a story that
cannot be checked is stopped, and the table of a report tells all of it. -/
theorem lint_losesNothing (s : Settings) (desk : Desk) (directory : Path) (r : LintReport) :
    (∀ t story, desk.files.readTables directory = .ok t → Gives t.compile story →
      (ReadableDice story → ∃ plain strict : Option ℤ → LintReport,
        (∀ cap, LintsTo s desk directory false cap (plain cap) ∧
          LintsTo s desk directory true cap (strict cap)) ∧ Coherent plain strict) ∧
      (¬ReadableDice story → ∀ strict cap, BreaksOff (Desk.lint s directory strict cap) desk)) ∧
    Tabulated r r.table := by
  refine ⟨fun t story ht hs => ⟨fun hdice => ?_, fun hdice => ?_⟩, tabulated_table r⟩
  · exact ⟨_, _, fun cap => ⟨lintsTo_ofVerdict ht hs hdice false cap,
      lintsTo_ofVerdict ht hs hdice true cap⟩, coherent_ofVerdict (severity_duplicates t) _⟩
  · exact breaksOff_lint ht hs (mt story_isReadable_iff.mp hdice)

theorem lint_losesNothing_attic :
    ∃ plain strict : Option ℤ → LintReport,
      (∀ cap, LintsTo .standard atticDesk Settings.standard.tables false cap (plain cap) ∧
        LintsTo .standard atticDesk Settings.standard.tables true cap (strict cap)) ∧
      Coherent plain strict ∧ (plain none).errors ≠ [] ∧ (plain none).warnings ≠ [] ∧
      Tabulated (plain none) (plain none).table := by
  have hread : atticDesk.files.readTables Settings.standard.tables = .ok atticTables := rfl
  obtain ⟨story, hs, hdice, herrors, hwarnings⟩ := compile_atticTables
  have hlaw := lint_losesNothing .standard atticDesk Settings.standard.tables
  obtain ⟨plain, strict, hlint, hcoherent⟩ := ((hlaw ⟨[], [], none⟩).1 _ _ hread hs).1 hdice
  have hplain : plain none = .ofVerdict atticTables.duplicates (Settings.standard.judge story) false
      none := (hlint none).1.unique (lintsTo_ofVerdict hread hs hdice false none)
  refine ⟨plain, strict, hlint, hcoherent, ?_, ?_, (hlaw (plain none)).2⟩
  · rw [hplain]
    exact herrors
  · rw [hplain]
    exact fun h => hwarnings (List.append_eq_nil_iff.mp h).2

/-- Tables that are read and compile need not have a report, strict or not. -/
theorem lint_giantDesk_unreported :
    ∃ t story, giantDesk.files.readTables Settings.standard.tables = .ok t ∧
      Gives t.compile story ∧
      ∀ strict cap r, ¬LintsTo .standard giantDesk Settings.standard.tables strict cap r := by
  obtain ⟨t, hread, hs⟩ := compile_giantDesk
  refine ⟨t, giantLoaded, hread, hs, fun strict cap r h => ?_⟩
  obtain ⟨after, hanswer, -⟩ := h
  exact (breaksOff_lint hread hs giantLoaded_unreadable strict cap).not_answers hanswer

end Gamebook.Proofs
