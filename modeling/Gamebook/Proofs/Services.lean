import Gamebook.Desk.Save
import Gamebook.Proofs.ReadableDice
import Mathlib.Tactic.Lemma

/-!
# What services answer

A service that answers has answered at each of its steps. Loading answers exactly when the tables
can be read and compile to a story that can be checked. Saving a story writes it exactly when it can
be checked, is sound, has no number that is too long, and its tables can be written.
-/

namespace Gamebook.Proofs

section

variable {α β : Type}

/-- What working at a desk comes to, and the desk that it leaves. -/
def outcome (service : Service α) (desk : Desk) : Except Stop α × Desk := service.run.run desk

/-- Working at a desk, the service answers and leaves another desk. -/
def Answers (service : Service α) (desk : Desk) (a : α) (after : Desk) : Prop :=
  outcome service desk = (.ok a, after)

lemma outcome_bind (service : Service α) (next : α → Service β) (desk : Desk) :
    outcome (service >>= next) desk =
      match outcome service desk with
      | (.ok a, between) => outcome (next a) between
      | (.error stop, between) => (.error stop, between) := by
  change (match outcome service desk with
    | (first, between) => (ExceptT.bindCont next first).run between) = _
  generalize outcome service desk = first
  obtain ⟨first, between⟩ := first
  cases first <;> rfl

lemma answers_bind {service : Service α} {next : α → Service β} {desk after : Desk} {b : β} :
    Answers (service >>= next) desk b after ↔
      ∃ a between, Answers service desk a between ∧ Answers (next a) between b after := by
  unfold Answers
  rw [outcome_bind]
  generalize outcome service desk = first
  obtain ⟨first, between⟩ := first
  cases first with
  | ok a =>
    dsimp only
    constructor
    · exact fun h => ⟨a, between, rfl, h⟩
    · rintro ⟨a', between', heq, h⟩
      rw [Prod.mk.injEq, Except.ok.injEq] at heq
      rw [heq.1, heq.2]
      exact h
  | error stop => simp

@[simp] lemma answers_pure {a b : α} {desk after : Desk} :
    Answers (pure a : Service α) desk b after ↔ a = b ∧ desk = after := by
  have hrun : outcome (pure a) desk = (.ok a, desk) := rfl
  unfold Answers
  rw [hrun, Prod.mk.injEq, Except.ok.injEq]

@[simp] lemma answers_files {w : Workspace} {desk after : Desk} :
    Answers Service.files desk w after ↔ desk.files = w ∧ desk = after := by
  have hrun : outcome Service.files desk = (.ok desk.files, desk) := rfl
  unfold Answers
  rw [hrun, Prod.mk.injEq, Except.ok.injEq]

@[simp] lemma answers_ofStorage {read : Except StorageFailure α} {a : α} {desk after : Desk} :
    Answers (Service.ofStorage read) desk a after ↔ read = .ok a ∧ desk = after := by
  cases read with
  | ok b =>
    rw [Except.ok.injEq]
    exact answers_pure
  | error failure =>
    have hrun : outcome (Service.ofStorage (.error failure) : Service α) desk =
        (.error (.failure (.storage failure)), desk) := rfl
    unfold Answers
    rw [hrun]
    simp

/-- The desk with further notices. -/
def noticed (desk : Desk) (notices : List Notice) : Desk :=
  { desk with notices := desk.notices ++ notices }

lemma answers_ofCompiling {c : Compiling α} {a : α} {desk after : Desk} :
    Answers (Service.ofCompiling c) desk a after ↔
      c.run.value = .ok a ∧ noticed desk (c.run.warnings.map .compiler) = after := by
  unfold Answers
  cases h : c.run.value with
  | ok b =>
    have hrun : outcome (Service.ofCompiling c) desk =
        (.ok b, noticed desk (c.run.warnings.map .compiler)) := by
      unfold Service.ofCompiling
      simp only [h]
      rfl
    rw [hrun]
    simp
  | error halt =>
    obtain ⟨stop, hrun⟩ : ∃ stop, outcome (Service.ofCompiling c) desk =
        (.error stop, noticed desk (c.run.warnings.map .compiler)) := by
      unfold Service.ofCompiling
      simp only [h]
      cases halt with
      | refused problems => exact ⟨_, rfl⟩
      | oversized => exact ⟨_, rfl⟩
    rw [hrun]
    simp

lemma outcome_filing (f : Workspace → Except (StorageFailure × Workspace) (α × Workspace))
    (desk : Desk) :
    outcome (Service.filing f) desk =
      match f desk.files with
      | .ok (a, w) => (.ok a, { desk with files := w })
      | .error (failure, w) =>
        (.error (.failure (.storage failure)), { desk with files := w }) := by
  have hfiles : ∀ next : Workspace → Service α,
      outcome (Service.files >>= next) desk = outcome (next desk.files) desk := fun _ => rfl
  unfold Service.filing
  rw [hfiles]
  rcases f desk.files with ⟨failure, w⟩ | ⟨a, w⟩ <;> rfl

lemma outcome_tryCatch (service : Service α) (handle : Stop → Service α) (desk : Desk) :
    outcome (tryCatch service handle) desk =
      match outcome service desk with
      | (.ok a, after) => (.ok a, after)
      | (.error stop, after) => outcome (handle stop) after := by
  rcases h : outcome service desk with ⟨first, after⟩
  have hrun : StateT.run service desk = (first, after) := h
  unfold outcome
  simp only [tryCatch, tryCatchThe, MonadExceptOf.tryCatch, ExceptT.tryCatch, ExceptT.run_mk,
    StateT.run_bind]
  rw [hrun]
  cases first <;> rfl

@[simp] lemma outcome_throw (stop : Stop) (desk : Desk) :
    outcome (throw stop : Service α) desk = (.error stop, desk) := rfl

/-- Where failures alone are answered, an answer is one of the service or one to its failure. -/
lemma answers_tryCatch {service : Service α} {answer : Failure → α} {desk after : Desk} {a : α} :
    Answers (tryCatch service fun stop =>
      match stop with
      | .failure f => return answer f
      | stop => throw stop) desk a after ↔
    Answers service desk a after ∨
      ∃ f, outcome service desk = (.error (.failure f), after) ∧ a = answer f := by
  unfold Answers
  rw [outcome_tryCatch]
  generalize outcome service desk = first
  obtain ⟨first, between⟩ := first
  cases first with
  | ok b => simp
  | error stop =>
    cases stop with
    | failure f =>
      have hanswer : outcome (pure (answer f)) between = (.ok (answer f), between) := rfl
      dsimp only
      rw [hanswer]
      simp [and_comm, eq_comm]
    | refused | file | undecodable | oversized | tooDeep | unsendable =>
      dsimp only
      rw [outcome_throw]
      simp

end

/-! ## Loading and saving -/

variable {s : Settings} {desk after : Desk}

/-- A check that comes to a verdict leaves the desk as it is, and so does one that is stopped. -/
lemma settings_check_eq (s : Settings) (story : Story) :
    s.check story = if story.isReadable then .ok (s.judge story) else .error ⟨⟩ :=
  check_eq story s.starts s.allowedDeadEnds

lemma outcome_check (s : Settings) (story : Story) (desk : Desk) :
    outcome (Service.ofRead (s.check story)) desk =
      (if story.isReadable then .ok (s.judge story) else .error .oversized, desk) := by
  rw [settings_check_eq]
  cases story.isReadable <;> rfl

lemma answers_check {story : Story} {v : Verdict} :
    Answers (Service.ofRead (s.check story)) desk v after ↔
      story.isReadable = true ∧ s.judge story = v ∧ desk = after := by
  unfold Answers
  rw [outcome_check]
  cases story.isReadable <;> simp

/-- Tables compile to the story that a load gives, and what the compiler says becomes notices. -/
theorem answers_load {l : Loaded} :
    Answers (Desk.load s) desk l after ↔
      ∃ t, desk.files.readTables s.tables = .ok t ∧ t.compile.run.value = .ok l.story ∧
        l.story.isReadable = true ∧ l = ⟨l.story, t.duplicates, s.judge l.story⟩ ∧
        noticed desk (t.compile.run.warnings.map .compiler) = after := by
  unfold Desk.load Desk.compiled
  simp only [answers_bind, answers_pure, answers_files, answers_ofStorage, answers_ofCompiling,
    answers_check, Prod.exists, Prod.mk.injEq]
  constructor
  · rintro ⟨story, duplicates, _, ⟨_, _, ⟨rfl, rfl⟩, t, _, ⟨ht, rfl⟩, a, _, ⟨ha, rfl⟩,
      ⟨rfl, rfl⟩, rfl⟩, _, _, ⟨hread, rfl, rfl⟩, rfl, rfl⟩
    exact ⟨t, ht, ha, hread, rfl, rfl⟩
  · rintro ⟨t, ht, hstory, hread, hl, rfl⟩
    exact ⟨l.story, t.duplicates, _, ⟨_, _, ⟨rfl, rfl⟩, t, _, ⟨ht, rfl⟩, l.story, _,
      ⟨hstory, rfl⟩, ⟨rfl, rfl⟩, rfl⟩, _, _, ⟨hread, rfl, rfl⟩, hl.symm, rfl⟩

@[simp] lemma isSound_attributed (v : Verdict) : v.attributed.isSound = v.isSound := by
  unfold Verdict.attributed Verdict.isSound
  cases v.errors <;> rfl

/-- What lets a story through to the writing of its tables. -/
structure Savable (s : Settings) (story : Story) : Prop where
  readable : story.isReadable = true
  sound : (s.judge story).isSound = true
  writable : story.isWritable = true

instance {s : Settings} {story : Story} : Decidable (Savable s story) :=
  decidable_of_iff (story.isReadable = true ∧ (s.judge story).isSound = true ∧
    story.isWritable = true)
    ⟨fun h => ⟨h.1, h.2.1, h.2.2⟩, fun h => ⟨h.readable, h.sound, h.writable⟩⟩

/-- Everything that saving a story can come to. -/
lemma outcome_save (s : Settings) (now : Instant) (story : Story) (desk : Desk) :
    outcome (Desk.save s now story) desk =
      if story.isReadable then
        if (s.judge story).isSound then
          if story.isWritable then
            match Desk.writeTables s now.millis story desk.files with
            | .ok (backups, w) =>
              (.ok (.written (EntityKind.all.map s.table) backups
                (s.judge story).attributed.warnings), { desk with files := w })
            | .error (failure, w) =>
              (.error (.failure (.storage failure)), { desk with files := w })
          else (.error .oversized, desk)
        else
          (.ok (.rejected (s.judge story).attributed),
            noticed desk [.saveRejected (s.judge story).attributed.errors.length])
      else (.error .oversized, desk) := by
  unfold Desk.save
  rw [outcome_bind, outcome_check]
  cases story.isReadable with
  | false => rfl
  | true =>
    simp only [if_true, isSound_attributed]
    cases (s.judge story).isSound with
    | false => rfl
    | true =>
      cases story.isWritable with
      | false => rfl
      | true =>
        simp only [if_true]
        change outcome (Service.filing _ >>= _) desk = _
        rw [outcome_bind, outcome_filing]
        rcases Desk.writeTables s now.millis story desk.files with
          ⟨failure, w⟩ | ⟨backups, w⟩ <;> rfl

lemma outcome_save_of_savable {now : Instant} {story : Story} (h : Savable s story) :
    outcome (Desk.save s now story) desk =
      match Desk.writeTables s now.millis story desk.files with
      | .ok (backups, w) =>
        (.ok (.written (EntityKind.all.map s.table) backups (s.judge story).attributed.warnings),
          { desk with files := w })
      | .error (failure, w) =>
        (.error (.failure (.storage failure)), { desk with files := w }) := by
  rw [outcome_save, if_pos h.readable, if_pos h.sound, if_pos h.writable]

/-- What is not written leaves the files alone. -/
lemma files_save_of_not_savable {now : Instant} {story : Story} (h : ¬Savable s story) :
    (outcome (Desk.save s now story) desk).2.files = desk.files ∧
      ∀ tables backups warnings,
        (outcome (Desk.save s now story) desk).1 ≠ .ok (.written tables backups warnings) := by
  rw [outcome_save]
  split
  · split
    · split
      · exact absurd ⟨‹_›, ‹_›, ‹_›⟩ h
      · exact ⟨rfl, nofun⟩
    · exact ⟨rfl, nofun⟩
  · exact ⟨rfl, nofun⟩

/-- A story that is written passed the check, and its tables were written. -/
theorem answers_save {now : Instant} {story : Story} {tables backups : List Path}
    {warnings : List Diagnostic} :
    Answers (Desk.save s now story) desk (.written tables backups warnings) after ↔
      Savable s story ∧
        (∃ w, Desk.writeTables s now.millis story desk.files = .ok (backups, w) ∧
          { desk with files := w } = after) ∧
        tables = EntityKind.all.map s.table ∧ warnings = (s.judge story).attributed.warnings := by
  by_cases h : Savable s story
  · unfold Answers
    rw [outcome_save_of_savable h]
    rcases Desk.writeTables s now.millis story desk.files with ⟨failure, w⟩ | ⟨written, w⟩
    · simp
    · simp only [Prod.mk.injEq, Except.ok.injEq, Saved.written.injEq]
      constructor
      · rintro ⟨⟨rfl, rfl, rfl⟩, rfl⟩
        exact ⟨h, ⟨w, ⟨rfl, rfl⟩, rfl⟩, rfl, rfl⟩
      · rintro ⟨-, ⟨_, ⟨rfl, rfl⟩, rfl⟩, rfl, rfl⟩
        exact ⟨⟨rfl, rfl, rfl⟩, rfl⟩
  · refine iff_of_false (fun hanswer => ?_) fun hwritten => h hwritten.1
    exact (files_save_of_not_savable h).2 tables backups warnings (congrArg Prod.fst hanswer)

end Gamebook.Proofs
