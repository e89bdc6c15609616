import Gamebook.Api.Endpoint
import Gamebook.Command.Build
import Gamebook.Command.Lint
import Gamebook.Proofs.LoadSave
import Gamebook.Proofs.RowAccount

/-!
# One verdict everywhere

Loading, validating, saving, building and linting each assemble what they report. All of them report
one verdict on the story in the tables and turn it down for the same reason. None of them reports
anything where a table cannot be read, nor where the check is stopped by dice that have too long a
number.
-/

namespace Gamebook.Proofs

/-! ## Failures -/

lemma answers_orFatal {service : Service Outcome} {desk after : Desk} {o : Outcome} :
    Answers (Command.orFatal service) desk o after ↔
      Answers service desk o after ∨
        ∃ f, outcome service desk = (.error (.failure f), after) ∧
          o = ⟨2, "", Outcome.lines ["Fatal: " ++ f.message]⟩ :=
  answers_tryCatch

lemma answers_guarded {service : Service Response} {desk after : Desk} {response : Response} :
    Answers (Endpoint.guarded service) desk response after ↔
      Answers service desk response after ∨
        ∃ f, outcome service desk = (.error (.failure f), after) ∧
          response = .error (Endpoint.failureStatus f) f.toJson :=
  answers_tryCatch

/-! ## Stops -/

/-- The service is stopped by a number that is too long, and leaves the files as they are. -/
def BreaksOff {α : Type} (service : Service α) (desk : Desk) : Prop :=
  ∃ after, outcome service desk = (.error .oversized, after) ∧ after.files = desk.files

section

variable {α β : Type} {desk : Desk}

lemma BreaksOff.bind {service : Service α} (h : BreaksOff service desk) (next : α → Service β) :
    BreaksOff (service >>= next) desk := by
  obtain ⟨after, hstop, hfiles⟩ := h
  exact ⟨after, by rw [outcome_bind, hstop], hfiles⟩

/-- A stop is no failure, so no command answers it. -/
lemma BreaksOff.orFatal {service : Service Outcome} (h : BreaksOff service desk) :
    BreaksOff (Command.orFatal service) desk := by
  obtain ⟨after, hstop, hfiles⟩ := h
  refine ⟨after, ?_, hfiles⟩
  unfold Command.orFatal
  rw [outcome_tryCatch, hstop]
  rfl

lemma BreaksOff.not_answers {service : Service α} (h : BreaksOff service desk) {a : α}
    {after : Desk} : ¬Answers service desk a after := by
  obtain ⟨stopped, hstop, -⟩ := h
  unfold Answers
  rw [hstop]
  simp

end

/-! ## The story in the tables -/

section

variable {s : Settings} {desk : Desk} {directory : Path} {t : Tables} {story : Story}

/-- The desk after a compilation. -/
def compiledDesk (desk : Desk) (t : Tables) : Desk :=
  noticed desk (t.compile.run.warnings.map .compiler)

lemma outcome_compiled (ht : desk.files.readTables directory = .ok t) (hs : Gives t.compile story) :
    outcome (Desk.compiled directory) desk = (.ok (story, t.duplicates), compiledDesk desk t) := by
  have h : Answers (Desk.compiled directory) desk (story, t.duplicates) (compiledDesk desk t) := by
    unfold Desk.compiled
    simp only [answers_bind, answers_pure, answers_files, answers_ofStorage, answers_ofCompiling]
    exact ⟨_, _, ⟨rfl, rfl⟩, t, _, ⟨ht, rfl⟩, story, _, ⟨hs, rfl⟩, rfl, rfl⟩
  exact h

lemma outcome_compiled_error {failure : StorageFailure}
    (ht : desk.files.readTables directory = .error failure) :
    outcome (Desk.compiled directory) desk = (.error (.failure (.storage failure)), desk) := by
  have hfiles : outcome Service.files desk = (.ok desk.files, desk) := rfl
  unfold Desk.compiled
  rw [outcome_bind, hfiles]
  dsimp only
  rw [outcome_bind, ht]
  rfl

lemma readTable_error {w : Workspace} {p : Path} {failure : StorageFailure}
    (h : w.readTable p = .error failure) : ∃ cause, failure = .unreadable p cause := by
  unfold Workspace.readTable at h
  split at h
  · exact ⟨_, (Except.error.inj h).symm⟩
  · split at h
    · exact ⟨_, (Except.error.inj h).symm⟩
    · split at h
      · exact ⟨_, (Except.error.inj h).symm⟩
      · exact absurd h (by simp)

/-- Reading the four tables gives all of them or fails as one of them does. -/
lemma readTables_cases (w : Workspace) (directory : Path) :
    (∃ t, w.readTables directory = .ok t ∧
      ∀ kind : EntityKind, ∃ rows, w.readTable (directory.child kind.file) = .ok rows) ∨
    ∃ (kind : EntityKind) (failure : StorageFailure),
      w.readTables directory = .error failure ∧
        w.readTable (directory.child kind.file) = .error failure := by
  unfold Workspace.readTables
  dsimp only
  cases hnodes : w.readTable (directory.child EntityKind.node.file) with
  | error failure => exact .inr ⟨.node, failure, rfl, hnodes⟩
  | ok nodes =>
  cases hitems : w.readTable (directory.child EntityKind.item.file) with
  | error failure => exact .inr ⟨.item, failure, rfl, hitems⟩
  | ok items =>
  cases henemies : w.readTable (directory.child EntityKind.enemy.file) with
  | error failure => exact .inr ⟨.enemy, failure, rfl, henemies⟩
  | ok enemies =>
  cases hencounters : w.readTable (directory.child EntityKind.encounter.file) with
  | error failure => exact .inr ⟨.encounter, failure, rfl, hencounters⟩
  | ok encounters =>
    refine .inl ⟨⟨nodes, items, enemies, encounters⟩, rfl, fun kind => ?_⟩
    cases kind with
    | node => exact ⟨nodes, hnodes⟩
    | item => exact ⟨items, hitems⟩
    | enemy => exact ⟨enemies, henemies⟩
    | encounter => exact ⟨encounters, hencounters⟩

lemma readTables_error {w : Workspace} {kind : EntityKind} {failure : StorageFailure}
    (h : w.readTable (directory.child kind.file) = .error failure) :
    ∃ p cause, w.readTables directory = .error (.unreadable p cause) := by
  rcases readTables_cases w directory with ⟨t, -, hrows⟩ | ⟨first, cause, herror, hfirst⟩
  · obtain ⟨rows, hrows⟩ := hrows kind
    rw [h] at hrows
    exact absurd hrows (by simp)
  · obtain ⟨cause, rfl⟩ := readTable_error hfirst
    exact ⟨_, cause, herror⟩

lemma attributed_duplicates (t : Tables) :
    t.duplicates.map Diagnostic.attributed = t.duplicates := by
  refine list_map_eq_self fun d hd => ?_
  obtain ⟨kind, -, hd⟩ := List.mem_flatMap.mp hd
  rw [repeatedIds_eq] at hd
  obtain ⟨r, hr, rfl⟩ := List.mem_map.mp hd
  obtain ⟨place, -, rfl⟩ := List.mem_map.mp hr
  have hfile : kind.file ≠ "" := by cases kind <;> decide
  exact if_pos hfile

end

/-! ## What the surfaces report -/

section

variable {s : Settings} {desk : Desk} {t : Tables} {story : Story}

lemma isSound_iff_errors :
    (s.judge story).isSound = true ↔ (s.judge story).attributed.errors = [] := by
  rw [← isSound_attributed]
  exact List.isEmpty_iff

lemma outcome_validate (s : Settings) (story : Story) (desk : Desk) :
    outcome (Desk.validate s story) desk =
      (if story.isReadable then .ok (s.judge story).attributed else .error .oversized, desk) := by
  unfold Desk.validate
  rw [outcome_bind, outcome_check]
  cases story.isReadable <;> rfl

lemma outcome_load (ht : desk.files.readTables s.tables = .ok t) (hs : Gives t.compile story) :
    outcome (Desk.load s) desk =
      (if story.isReadable then .ok ⟨story, t.duplicates, s.judge story⟩ else .error .oversized,
        compiledDesk desk t) := by
  unfold Desk.load
  rw [outcome_bind, outcome_compiled ht hs]
  dsimp only
  rw [outcome_bind, outcome_check]
  cases story.isReadable <;> rfl

lemma outcome_lint {directory : Path} {cap : Option ℤ} {strict : Bool}
    (ht : desk.files.readTables directory = .ok t) (hs : Gives t.compile story) :
    outcome (Desk.lint s directory strict cap) desk =
      (if story.isReadable then .ok (.ofVerdict t.duplicates (s.judge story) strict cap)
        else .error .oversized, compiledDesk desk t) := by
  unfold Desk.lint
  rw [outcome_bind, outcome_compiled ht hs]
  dsimp only
  rw [outcome_bind, outcome_check]
  cases story.isReadable <;> rfl

lemma answers_lint {directory : Path} (ht : desk.files.readTables directory = .ok t)
    (hs : Gives t.compile story) (hreadable : story.isReadable = true) (strict : Bool)
    (cap : Option ℤ) :
    Answers (Desk.lint s directory strict cap) desk
      (.ofVerdict t.duplicates (s.judge story) strict cap) (compiledDesk desk t) := by
  unfold Answers
  rw [outcome_lint ht hs, if_pos hreadable]

/-- Dice that cannot be read stop linting, strict or not, before there is a report. -/
lemma breaksOff_lint {directory : Path} (ht : desk.files.readTables directory = .ok t)
    (hs : Gives t.compile story) (hunreadable : ¬story.isReadable = true) (strict : Bool)
    (cap : Option ℤ) : BreaksOff (Desk.lint s directory strict cap) desk := by
  refine ⟨compiledDesk desk t, ?_, rfl⟩
  rw [outcome_lint ht hs, if_neg hunreadable]

/-- Building a story that can be checked. -/
lemma outcome_build {source target : Path} {validateOnly force : Bool}
    (ht : desk.files.readTables source = .ok t) (hs : Gives t.compile story)
    (hreadable : story.isReadable = true) :
    outcome (Desk.build s source target validateOnly force) desk =
      if validateOnly then (.ok ⟨story, s.judge story, []⟩, compiledDesk desk t)
      else if (s.judge story).isSound || force then
        match Desk.writeInto target desk.files story.artifacts with
        | .ok (written, w) =>
          (.ok ⟨story, s.judge story, written⟩, { compiledDesk desk t with files := w })
        | .error (failure, w) =>
          (.error (.failure (.storage failure)), { compiledDesk desk t with files := w })
      else
        (.ok ⟨story, s.judge story, []⟩,
          noticed (compiledDesk desk t) [.buildSkipped (s.judge story).errors.length]) := by
  unfold Desk.build
  rw [outcome_bind, outcome_compiled ht hs]
  dsimp only
  rw [outcome_bind, outcome_check, if_pos hreadable]
  dsimp only
  by_cases honly : validateOnly = true
  · rw [if_pos honly, if_pos honly]
    rfl
  · rw [if_neg honly, if_neg honly]
    by_cases hwrites : ((s.judge story).isSound || force) = true
    · rw [if_pos hwrites, if_pos hwrites, outcome_bind, outcome_filing]
      have hfiles : (compiledDesk desk t).files = desk.files := rfl
      rw [hfiles]
      rcases Desk.writeInto target desk.files story.artifacts with
        ⟨failure, w⟩ | ⟨written, w⟩ <;> rfl
    · rw [if_neg hwrites, if_neg hwrites]
      rfl

lemma breaksOff_build {source : Path} (target : Path) (validateOnly force : Bool)
    (ht : desk.files.readTables source = .ok t) (hs : Gives t.compile story)
    (hunreadable : ¬story.isReadable = true) :
    BreaksOff (Desk.build s source target validateOnly force) desk := by
  refine ⟨compiledDesk desk t, ?_, rfl⟩
  unfold Desk.build
  rw [outcome_bind, outcome_compiled ht hs]
  dsimp only
  rw [outcome_bind, outcome_check, if_neg hunreadable]

/-- The response tells about an error with a code. -/
def Tells (status : ℕ) (code : String) (response : Response) : Prop :=
  ∃ rest, response = .error status (.object (("code", .string code) :: rest))

lemma answer_save {now : Instant} {r : Request} {j : Json} (hbody : r.body = some j)
    (hj : Story.ofJson j = .ok story) :
    Endpoint.answer s now r .save =
      Endpoint.guarded (Desk.save s now story >>= Endpoint.sendSaved) := by
  have hcarried : Endpoint.body Story.ofJson r = .ok story := by
    unfold Endpoint.body
    rw [hbody]
    dsimp only
    rw [hj]
    rfl
  unfold Endpoint.answer
  dsimp only
  rw [hcarried]
  rfl

lemma status_of_send {j : Json} {desk after : Desk} {response : Response}
    (h : Answers (Endpoint.send j) desk response after) : response.status = 200 := by
  unfold Endpoint.send at h
  by_cases hj : j.isSendable = true
  · rw [if_pos hj] at h
    rw [← (answers_pure.mp h).1]
  · rw [if_neg hj] at h
    unfold Answers at h
    rw [outcome_throw] at h
    exact absurd (congrArg Prod.fst h) (by simp)

lemma written_of_sound {now : Instant} {desk after : Desk} {saved : Saved}
    (hsound : (s.judge story).isSound = true)
    (h : Answers (Desk.save s now story) desk saved after) :
    ∃ tables backups warnings, saved = .written tables backups warnings := by
  cases saved with
  | written tables backups warnings => exact ⟨tables, backups, warnings, rfl⟩
  | rejected verdict =>
    unfold Answers at h
    rw [outcome_save, if_pos hsound] at h
    split at h
    · split at h
      · split at h <;> exact absurd (congrArg Prod.fst h) (by simp)
      · exact absurd (congrArg Prod.fst h) (by simp)
    · exact absurd (congrArg Prod.fst h) (by simp)

/-- A story that can be checked is turned down exactly if it has errors. A failure to write it is
told otherwise. -/
lemma turnedDown_iff {now : Instant} {desk : Desk} (hreadable : story.isReadable = true) :
    (∃ response after,
      Answers (Endpoint.guarded (Desk.save s now story >>= Endpoint.sendSaved)) desk response
        after ∧
        Tells 400 "VALIDATION_FAILED" response) ↔ (s.judge story).attributed.errors ≠ [] := by
  rw [ne_eq, ← isSound_iff_errors]
  by_cases hsound : (s.judge story).isSound = true
  · refine iff_of_false ?_ (not_not_intro hsound)
    rintro ⟨response, after, h, rest, rfl⟩
    -- Whoever saves a sound story is told of success, or of a failure that has another status.
    rcases answers_guarded.mp h with h | ⟨f, -, hf⟩
    · obtain ⟨saved, between, hsaved, hsend⟩ := answers_bind.mp h
      obtain ⟨tables, backups, warnings, rfl⟩ := written_of_sound hsound hsaved
      have hstatus : 400 = 200 := status_of_send hsend
      exact absurd hstatus (by decide)
    · have hstatus : 400 = Endpoint.failureStatus f := congrArg Response.status hf
      cases f <;> simp [Endpoint.failureStatus] at hstatus
  · refine iff_of_true ?_ hsound
    have hrejected : Answers (Desk.save s now story) desk (.rejected (s.judge story).attributed)
        (noticed desk [.saveRejected (s.judge story).attributed.errors.length]) := by
      unfold Answers
      rw [outcome_save, if_pos hreadable, if_neg hsound]
    exact ⟨_, _, answers_guarded.mpr (.inl (answers_bind.mpr ⟨_, _, hrejected, rfl⟩)), _, rfl⟩

/-- Building reports the verdict on the story, unless artifacts are to be written and cannot be.
What is turned down is not written unless the author insists. -/
lemma build_reports {source : Path} (target : Path) (validateOnly force : Bool)
    (ht : desk.files.readTables source = .ok t) (hs : Gives t.compile story)
    (hreadable : story.isReadable = true) :
    (∃ built after, Answers (Desk.build s source target validateOnly force) desk built after ∧
      built.story = story ∧ built.verdict = s.judge story ∧
      (¬(s.judge story).isSound = true → force = false → after.files = desk.files)) ∨
    (validateOnly = false ∧ ((s.judge story).isSound || force) = true ∧
      ∃ failure w, Desk.writeInto target desk.files story.artifacts = .error (failure, w) ∧
        outcome (Desk.build s source target validateOnly force) desk =
          (.error (.failure (.storage failure)), { compiledDesk desk t with files := w })) := by
  unfold Answers
  rw [outcome_build ht hs hreadable]
  by_cases honly : validateOnly = true
  · rw [if_pos honly]
    exact .inl ⟨_, _, rfl, rfl, rfl, fun _ _ => rfl⟩
  rw [if_neg honly]
  by_cases hwrites : ((s.judge story).isSound || force) = true
  · rw [if_pos hwrites]
    cases hwrite : Desk.writeInto target desk.files story.artifacts with
    | ok result =>
      refine .inl ⟨_, _, rfl, rfl, rfl, fun hunsound hforce => ?_⟩
      rcases Bool.or_eq_true_iff.mp hwrites with h | h
      · exact absurd h hunsound
      · exact absurd (hforce.symm.trans h) (by decide)
    | error result =>
      exact .inr ⟨Bool.eq_false_iff.mpr honly, hwrites, result.1, result.2, rfl, rfl⟩
  · rw [if_neg hwrites]
    exact .inl ⟨_, _, rfl, rfl, rfl, fun _ _ => rfl⟩

lemma buildCommand_of_answers {order : BuildOrder} {built : Built} {desk after : Desk}
    (h : Answers (Desk.build s order.source order.target order.validateOnly order.force) desk built
      after) :
    ∃ o, Answers (Command.build s order) desk o after ∧
      o.exitCode = if built.verdict.isSound then 0 else 1 := by
  unfold Command.build
  exact ⟨_, answers_orFatal.mpr (.inl (answers_bind.mpr ⟨built, after, h, rfl⟩)), rfl⟩

lemma buildCommand_of_failure {order : BuildOrder} {f : Failure} {desk after : Desk}
    (h : outcome (Desk.build s order.source order.target order.validateOnly order.force) desk =
      (.error (.failure f), after)) :
    ∃ o, Answers (Command.build s order) desk o after ∧ o.exitCode = 2 := by
  refine ⟨_, answers_orFatal.mpr (.inr ⟨f, ?_, rfl⟩), rfl⟩
  rw [outcome_bind, h]

lemma lintCommand_of_answers {order : LintOrder} {report : LintReport} {desk after : Desk}
    (h : Answers (Desk.lint s order.directory order.strict order.maxWarnings) desk report after) :
    ∃ o, Answers (Command.lint s order) desk o after ∧ o.exitCode = report.exitCode := by
  unfold Command.lint
  exact ⟨_, answers_orFatal.mpr (.inl (answers_bind.mpr ⟨report, after, h, rfl⟩)), rfl⟩

lemma lintCommand_of_failure {order : LintOrder} {f : Failure} {desk after : Desk}
    (h : outcome (Desk.lint s order.directory order.strict order.maxWarnings) desk =
      (.error (.failure f), after)) :
    ∃ o, Answers (Command.lint s order) desk o after ∧ o.exitCode = 2 := by
  refine ⟨_, answers_orFatal.mpr (.inr ⟨f, ?_, rfl⟩), rfl⟩
  rw [outcome_bind, h]

lemma exitCode_iff (duplicates : List Diagnostic) (v : Verdict) :
    (LintReport.ofVerdict duplicates v false none).exitCode = 1 ↔ v.attributed.errors ≠ [] := by
  have hreport : LintReport.ofVerdict duplicates v false none =
      ⟨v.attributed.errors, duplicates ++ v.attributed.warnings, none⟩ := rfl
  rw [hreport]
  unfold LintReport.exitCode LintReport.success LintReport.overLimit
  cases v.attributed.errors <;> simp

/-- Without force, building a story ends in an error exactly if the story has errors, and no file is
changed then. -/
lemma buildCommand_of_gives {order : BuildOrder}
    (ht : desk.files.readTables order.source = .ok t) (hs : Gives t.compile story)
    (hreadable : story.isReadable = true) (hforce : order.force = false) :
    ∃ o after, Answers (Command.build s order) desk o after ∧
      (o.exitCode = 1 ↔ (s.judge story).attributed.errors ≠ []) ∧
      ((s.judge story).attributed.errors ≠ [] → after.files = desk.files) := by
  rw [ne_eq, ← isSound_iff_errors]
  rcases build_reports order.target order.validateOnly order.force ht hs hreadable with
    ⟨built, after, hbuilt, -, hverdict, hfiles⟩ | ⟨-, hwrites, failure, w, -, hbuild⟩
  · obtain ⟨o, ho, hcode⟩ := buildCommand_of_answers hbuilt
    refine ⟨o, after, ho, ?_, fun h => hfiles h hforce⟩
    rw [hcode, hverdict]
    by_cases hsound : (s.judge story).isSound = true <;> simp [hsound]
  · obtain ⟨o, ho, hcode⟩ := buildCommand_of_failure hbuild
    have hsound : (s.judge story).isSound = true := by simpa [hforce] using hwrites
    exact ⟨o, _, ho, by simp [hcode, hsound], fun h => absurd hsound h⟩

lemma lintCommand_of_gives {order : LintOrder}
    (ht : desk.files.readTables order.directory = .ok t) (hs : Gives t.compile story)
    (hreadable : story.isReadable = true) (hstrict : order.strict = false)
    (hcap : order.maxWarnings = none) :
    ∃ o after, Answers (Command.lint s order) desk o after ∧
      (o.exitCode = 1 ↔ (s.judge story).attributed.errors ≠ []) := by
  obtain ⟨o, ho, hcode⟩ :=
    lintCommand_of_answers (answers_lint (s := s) ht hs hreadable order.strict order.maxWarnings)
  refine ⟨o, _, ho, ?_⟩
  rw [hcode, hstrict, hcap]
  exact exitCode_iff t.duplicates (s.judge story)

end

/-! ## Agreement -/

/-- All surfaces report one verdict on the story that was loaded, and turn it down for its
errors. -/
structure OneVerdict (s : Settings) (desk : Desk) (duplicates : List Diagnostic) (l : Loaded)
    (v : Verdict) : Prop where
  errors : l.errors = v.errors
  warnings : l.warnings = duplicates ++ v.warnings
  sent : Story.ofJson l.toJson = .ok l.story
  validate : ∀ other, Answers (Desk.validate s l.story) other v other
  lint : ∀ cap, ∃ report after, Answers (Desk.lint s s.tables false cap) desk report after ∧
    report.errors = v.errors ∧ report.warnings = duplicates ++ v.warnings
  build : ∀ target validateOnly force,
    (∃ built after, Answers (Desk.build s s.tables target validateOnly force) desk built after ∧
      built.story = l.story ∧ built.verdict.attributed = v) ∨
    (validateOnly = false ∧ (v.errors = [] ∨ force = true) ∧
      ∃ failure, Desk.writeInto target desk.files l.story.artifacts = .error failure)
  saving : ∀ (now : Instant) (r : Request) (other : Desk), r.body = some l.toJson →
    ((∃ response after, Answers (Endpoint.answer s now r .save) other response after ∧
      Tells 400 "VALIDATION_FAILED" response) ↔ v.errors ≠ [])
  building : ∀ order : BuildOrder, order.source = s.tables → order.force = false →
    ∃ o after, Answers (Command.build s order) desk o after ∧ (o.exitCode = 1 ↔ v.errors ≠ []) ∧
      (v.errors ≠ [] → after.files = desk.files)
  linting : ∀ order : LintOrder, order.directory = s.tables → order.strict = false →
    order.maxWarnings = none →
    ∃ o after, Answers (Command.lint s order) desk o after ∧ (o.exitCode = 1 ↔ v.errors ≠ [])

/-- The check of the story is stopped, so no surface reports anything on it, and no file is
changed. -/
structure NoVerdict (s : Settings) (desk : Desk) (story : Story) : Prop where
  load : BreaksOff (Desk.load s) desk
  validate : ∀ other, BreaksOff (Desk.validate s story) other
  save : ∀ now other, BreaksOff (Desk.save s now story) other
  lint : ∀ strict cap, BreaksOff (Desk.lint s s.tables strict cap) desk
  build : ∀ target validateOnly force,
    BreaksOff (Desk.build s s.tables target validateOnly force) desk
  building : ∀ order : BuildOrder, order.source = s.tables → BreaksOff (Command.build s order) desk
  linting : ∀ order : LintOrder, order.directory = s.tables → BreaksOff (Command.lint s order) desk

/-- A table cannot be read: loading fails, and both commands give up. -/
structure GivesUp (s : Settings) (desk : Desk) : Prop where
  loading : ∀ (now : Instant) (r : Request), ∃ response,
    Answers (Endpoint.answer s now r .load) desk response desk ∧
      Tells 500 "TABLE_READ_FAILED" response
  building : ∀ order : BuildOrder, order.source = s.tables →
    ∃ o, Answers (Command.build s order) desk o desk ∧ o.exitCode = 2
  linting : ∀ order : LintOrder, order.directory = s.tables →
    ∃ o, Answers (Command.lint s order) desk o desk ∧ o.exitCode = 2

section

variable {s : Settings} {desk : Desk} {t : Tables} {story : Story}

lemma oneVerdict_of_gives (ht : desk.files.readTables s.tables = .ok t)
    (hs : Gives t.compile story) (hreadable : story.isReadable = true) :
    OneVerdict s desk t.duplicates ⟨story, t.duplicates, s.judge story⟩
      (s.judge story).attributed := by
  constructor
  case errors => rfl
  case warnings =>
    unfold Loaded.warnings
    rw [attributed_duplicates]
  case sent => exact story_ofJson_loaded _
  case validate =>
    intro other
    unfold Answers
    rw [outcome_validate, if_pos hreadable]
  case lint => exact fun cap => ⟨_, _, answers_lint ht hs hreadable false cap, rfl, rfl⟩
  case build =>
    intro target validateOnly force
    rcases build_reports target validateOnly force ht hs hreadable with
      ⟨built, after, hbuilt, hstory, hverdict, -⟩ | ⟨honly, hwrites, failure, w, hwrite, -⟩
    · refine .inl ⟨built, after, hbuilt, hstory, ?_⟩
      rw [hverdict]
    · rw [Bool.or_eq_true, isSound_iff_errors] at hwrites
      exact .inr ⟨honly, hwrites, _, hwrite⟩
  case saving =>
    intro now r other hbody
    rw [answer_save hbody (story_ofJson_loaded _)]
    exact turnedDown_iff hreadable
  case building =>
    exact fun order hsource hforce => buildCommand_of_gives (hsource ▸ ht) hs hreadable hforce
  case linting =>
    exact fun order hdirectory hstrict hcap =>
      lintCommand_of_gives (hdirectory ▸ ht) hs hreadable hstrict hcap

lemma noVerdict_of_gives (ht : desk.files.readTables s.tables = .ok t)
    (hs : Gives t.compile story) (hunreadable : ¬story.isReadable = true) :
    NoVerdict s desk story := by
  constructor
  case load => exact ⟨compiledDesk desk t, by rw [outcome_load ht hs, if_neg hunreadable], rfl⟩
  case validate => exact fun other => ⟨other, by rw [outcome_validate, if_neg hunreadable], rfl⟩
  case save => exact fun now other => ⟨other, by rw [outcome_save, if_neg hunreadable], rfl⟩
  case lint => exact breaksOff_lint ht hs hunreadable
  case build =>
    intro target validateOnly force
    exact breaksOff_build target validateOnly force ht hs hunreadable
  case building =>
    intro order hsource
    refine BreaksOff.orFatal (BreaksOff.bind ?_ _)
    rw [hsource]
    exact breaksOff_build order.target order.validateOnly order.force ht hs hunreadable
  case linting =>
    intro order hdirectory
    refine BreaksOff.orFatal (BreaksOff.bind ?_ _)
    rw [hdirectory]
    exact breaksOff_lint ht hs hunreadable order.strict order.maxWarnings

lemma givesUp_of_error {kind : EntityKind} {failure : StorageFailure}
    (h : desk.files.readTable (s.table kind) = .error failure) : GivesUp s desk := by
  obtain ⟨p, cause, hread⟩ := readTables_error h
  have hcompiled := outcome_compiled_error hread
  constructor
  case loading =>
    intro now r
    have hload : outcome (Desk.load s >>= fun l => Endpoint.send l.toJson) desk =
        (.error (.failure (.storage (.unreadable p cause))), desk) := by
      unfold Desk.load
      rw [outcome_bind, outcome_bind, hcompiled]
    exact ⟨_, answers_guarded.mpr (.inr ⟨_, hload, rfl⟩), _, rfl⟩
  case building =>
    intro order hsource
    refine buildCommand_of_failure (f := .storage (.unreadable p cause)) ?_
    unfold Desk.build
    rw [outcome_bind, hsource, hcompiled]
  case linting =>
    intro order hdirectory
    refine lintCommand_of_failure (f := .storage (.unreadable p cause)) ?_
    unfold Desk.lint
    rw [outcome_bind, hdirectory, hcompiled]

end

/-- Whatever the tables hold, all surfaces agree on it: on the verdict, if the dice of the story can
be read, and otherwise on none. -/
theorem surfaces_agree (s : Settings) (desk : Desk) :
    (∀ t story, desk.files.readTables s.tables = .ok t → Gives t.compile story →
      (ReadableDice story → ∃ l after v, Answers (Desk.load s) desk l after ∧ l.story = story ∧
        OneVerdict s desk t.duplicates l v) ∧
      (¬ReadableDice story → NoVerdict s desk story)) ∧
    ∀ kind failure, desk.files.readTable (s.table kind) = .error failure → GivesUp s desk := by
  refine ⟨fun t story ht hs => ⟨fun hdice => ?_, fun hdice => ?_⟩, fun kind failure h =>
    givesUp_of_error h⟩
  · have hreadable : story.isReadable = true := story_isReadable_iff.mpr hdice
    have hload : Answers (Desk.load s) desk ⟨story, t.duplicates, s.judge story⟩
        (compiledDesk desk t) := by
      unfold Answers
      rw [outcome_load ht hs, if_pos hreadable]
    exact ⟨_, _, _, hload, rfl, oneVerdict_of_gives ht hs hreadable⟩
  · exact noVerdict_of_gives ht hs (mt story_isReadable_iff.mp hdice)

/-- Texts of tables with one node, whose type is none. -/
def atticTexts : EntityKind → String
  | .node => "id,type\nattic,loft\n"
  | _ => "id\n"

def atticTables : Tables := ⟨[[("id", some "attic"), ("type", some "loft")]], [], [], []⟩

/-- A desk with these tables. -/
def atticDesk : Desk where
  files := ⟨[(⟨["data"]⟩, .directory), (⟨["data", "csv"]⟩, .directory)] ++
    EntityKind.all.map fun kind =>
      (Settings.standard.table kind, .file (Text.encode (atticTexts kind)))⟩
  notices := []

/-- A desk without any files. -/
def bareDesk : Desk := ⟨⟨[]⟩, []⟩

lemma compile_atticTables : ∃ story, Gives atticTables.compile story ∧ ReadableDice story ∧
    (Settings.standard.judge story).attributed.errors ≠ [] ∧
    (Settings.standard.judge story).attributed.warnings ≠ [] :=
  ⟨_, rfl, story_isReadable_iff.mp (by decide +kernel), by decide, by decide +kernel⟩

theorem surfaces_agree_atticDesk :
    (∃ l after v, Answers (Desk.load .standard) atticDesk l after ∧ v.errors ≠ [] ∧
      OneVerdict .standard atticDesk atticTables.duplicates l v) ∧
    GivesUp .standard bareDesk := by
  have hread : atticDesk.files.readTables Settings.standard.tables = .ok atticTables := rfl
  have hunread : ∃ failure,
      bareDesk.files.readTable (Settings.standard.table .node) = .error failure := ⟨_, rfl⟩
  obtain ⟨story, hs, hdice, herrors, -⟩ := compile_atticTables
  obtain ⟨failure, hfailure⟩ := hunread
  refine ⟨?_, (surfaces_agree .standard bareDesk).2 .node failure hfailure⟩
  obtain ⟨l, after, v, hload, rfl, h⟩ :=
    ((surfaces_agree .standard atticDesk).1 _ _ hread hs).1 hdice
  have hverdict : (Settings.standard.judge l.story).attributed = v := by
    have hvalidate := h.validate atticDesk
    unfold Answers at hvalidate
    rw [outcome_validate, if_pos (story_isReadable_iff.mpr hdice)] at hvalidate
    exact Except.ok.inj (congrArg Prod.fst hvalidate)
  exact ⟨l, after, v, hload, hverdict ▸ herrors, h⟩

/-! ## Tables that no surface reports on -/

lemma mem_longDice {c : Char} (h : c ∈ longDice.text.toList) : c = '1' ∨ c = 'd' ∨ c = '6' := by
  rw [longDice, String.toList_ofList] at h
  rcases List.mem_append.mp h with h | h
  · exact .inl (List.eq_of_mem_replicate h)
  · exact .inr (by simpa using h)

lemma representable_giant : RepresentableEnemy giant := by
  have hblank : ∀ c ∈ longDice.text.toList, Text.isBlank c = false := by
    intro c hc
    obtain rfl | rfl | rfl := mem_longDice hc <;> decide
  have hdamage : Trimmed longDice.text :=
    trimmed_iff.mpr (trimmedChars_iff.mpr ⟨fun c hc => hblank c (List.mem_of_mem_head? hc),
      fun c hc => hblank c (List.mem_of_mem_getLast? hc)⟩)
  constructor
  case damage => exact hdamage
  all_goals decide +kernel

lemma representable_giantStory : RepresentableStory giantStory where
  nodes := List.forall_mem_nil _
  items := List.forall_mem_nil _
  enemies := List.forall_mem_singleton.mpr representable_giant
  encounters := List.forall_mem_nil _

lemma fitsTables_giantStory : FitsTables giantStory := by
  have hdamage : FitsField longDice.text := by
    unfold FitsField
    rw [longDice, String.toList_ofList, List.length_append, length_longCount]
    decide
  have hcells : ∀ f ∈ giant.cells, FitsField f := by
    intro f hf
    simp only [Enemy.cells, List.mem_cons, List.not_mem_nil, or_false] at hf
    obtain rfl | rfl | rfl | rfl | rfl | rfl | rfl | rfl := hf
    case inr.inr.inr.inr.inr.inr.inl => exact hdamage
    all_goals decide +kernel
  refine ⟨by decide +kernel, fun kind => ?_⟩
  cases kind with
  | enemy =>
    intro l hl
    rcases List.mem_cons.mp hl with rfl | hl
    · decide +kernel
    · obtain rfl := List.mem_singleton.mp hl
      exact hcells
  | node | item | encounter => decide +kernel

/-- A desk with the tables of the giant alone. -/
def giantDesk : Desk := tablesDesk giantStory

/-- The story that these tables give. -/
def giantLoaded : Story := settledStory (normalStory giantStory)

lemma giantLoaded_unreadable : ¬giantLoaded.isReadable = true := by
  have hdice : ¬giantStory.isReadable = true :=
    mt story_isReadable_iff.mp (not_readableDice_giant (List.mem_singleton_self giant))
  unfold Story.isReadable at hdice ⊢
  unfold giantLoaded
  rwa [diceTexts_settled]

lemma compile_giantDesk : ∃ t,
    giantDesk.files.readTables Settings.standard.tables = .ok t ∧ Gives t.compile giantLoaded := by
  have hread := (readTables_of_holdsTables (holdsTables_tablesDesk giantStory)).mpr
    ⟨fitsTables_giantStory.fields, rfl⟩
  have hcompile := compile_of_hold
    (tablesHold_storyLines (trimmedIds_of_representable representable_giantStory))
    (hasNumberedSlots_iff.mp fitsTables_giantStory.numbered) representable_giantStory
  refine ⟨_, hread, ?_⟩
  rw [hcompile]
  rfl

/-- Tables that are read and compile need not be reported on. -/
theorem surfaces_stop_giantDesk :
    ∃ t story, giantDesk.files.readTables Settings.standard.tables = .ok t ∧
      Gives t.compile story ∧ NoVerdict .standard giantDesk story := by
  obtain ⟨t, hread, hs⟩ := compile_giantDesk
  exact ⟨t, giantLoaded, hread, hs, noVerdict_of_gives hread hs giantLoaded_unreadable⟩

end Gamebook.Proofs
