import Gamebook.Proofs.TableFiles

/-!
# Places and trees

A path leads to one place only, whatever stands there. In a workspace in which everything stands in
a directory, and for a path that leads back only from directories that are there, what stands at the
path is what stands at that place.
-/

namespace Gamebook.Proofs

variable {w w' : Workspace} {p q : Path} {content : ByteArray}

/-! ## Where paths lead -/

/-- The place that a path leads to, if it leads anywhere. -/
def destination (p : Path) : Path := p.names.foldl Path.step .here

lemma foldl_step_of_enter {names : List String} (h : w.enter p names = .ok q) :
    names.foldl Path.step p = q := by
  induction names generalizing p with
  | nil => exact Except.ok.inj h
  | cons name names ih =>
    rw [Workspace.enter] at h
    split at h
    · exact ih h
    · exact absurd h (by simp)
    · exact absurd h (by simp)

lemma enter_append_of_enter {names rest : List String} (h : w.enter p names = .ok q) :
    w.enter p (names ++ rest) = w.enter q rest := by
  induction names generalizing p with
  | nil =>
    obtain rfl := Except.ok.inj h
    rfl
  | cons name names ih =>
    rw [Workspace.enter] at h
    split at h
    · rename_i hentry
      rw [List.cons_append, Workspace.enter, hentry]
      exact ih h
    · exact absurd h (by simp)
    · exact absurd h (by simp)

lemma names_eq_of_ne_here (h : p ≠ .here) : p.names = p.parent.names ++ [p.name] := by
  have hnil : p.names ≠ [] := fun heq => h (by cases p; exact congrArg Path.mk heq)
  have hlast : p.name = p.names.getLast hnil := by
    unfold Path.name
    rw [List.getLastD_eq_getLast?, List.getLast?_eq_getLast_of_ne_nil hnil, Option.getD_some]
  rw [hlast]
  exact (List.dropLast_append_getLast hnil).symm

lemma destination_of_ne_here (h : p ≠ .here) :
    destination p = (destination p.parent).step p.name := by
  unfold destination
  rw [names_eq_of_ne_here h, List.foldl_append]
  rfl

lemma locate_of_enter (h : w.enter .here p.parent.names = .ok q) :
    w.locate p = .ok (destination p) := by
  unfold Workspace.locate
  by_cases hp : p = .here
  · rw [if_pos hp, hp]
    rfl
  · rw [if_neg hp, h, destination_of_ne_here hp]
    exact congrArg (fun r => Except.ok (Path.step r p.name)) (foldl_step_of_enter h).symm

lemma exists_enter_of_locate (h : w.locate p = .ok q) (hp : p ≠ .here) :
    w.enter .here p.parent.names = .ok (destination p.parent) := by
  unfold Workspace.locate at h
  rw [if_neg hp] at h
  cases henter : w.enter .here p.parent.names with
  | error cause =>
    rw [henter] at h
    exact absurd h (by simp [Except.map])
  | ok r => exact congrArg Except.ok (foldl_step_of_enter henter).symm

lemma destination_of_locate (h : w.locate p = .ok q) : q = destination p := by
  by_cases hp : p = .here
  · unfold Workspace.locate at h
    rw [if_pos hp] at h
    rw [hp]
    exact (Except.ok.inj h).symm
  · rw [locate_of_enter (exists_enter_of_locate h hp)] at h
    exact (Except.ok.inj h).symm

lemma locate_of_keeps (hkeeps : KeepsDirectories w w') (h : w.locate p = .ok q) :
    w'.locate p = .ok q := by
  by_cases hp : p = .here
  · unfold Workspace.locate at h ⊢
    rw [if_pos hp] at h ⊢
    exact h
  · rw [destination_of_locate h]
    exact locate_of_enter (enter_of_keeps hkeeps (exists_enter_of_locate h hp))

lemma destination_child (p : Path) {name : String} (hname : name ≠ "..") :
    destination (p.child name) = (destination p).child name := by
  rw [destination_of_ne_here (child_ne_here p name), parent_child, name_child]
  unfold Path.step
  rw [if_neg hname]

lemma foldl_step_of_notMem {names : List String} (h : ".." ∉ names) (p : Path) :
    names.foldl Path.step p = ⟨p.names ++ names⟩ := by
  induction names generalizing p with
  | nil => simp
  | cons name names ih =>
    rw [List.mem_cons, not_or] at h
    have hstep : p.step name = p.child name := by
      unfold Path.step
      rw [if_neg (Ne.symm h.1)]
    rw [List.foldl_cons, ih h.2, hstep]
    simp [Path.child]

/-! ## The way of a path -/

lemma steps_append (p : Path) (as bs : List String) :
    p.steps (as ++ bs) = p.steps as ++ (as.foldl Path.step p).steps bs := by
  induction as generalizing p with
  | nil => rfl
  | cons a as ih =>
    rw [List.cons_append, Path.steps, Path.steps, ih, List.foldl_cons, List.cons_append]

lemma mem_steps {names : List String} :
    q ∈ p.steps names ↔
      ∃ init name rest, names = init ++ name :: rest ∧ q = (init ++ [name]).foldl Path.step p := by
  induction names generalizing p with
  | nil => simp [Path.steps]
  | cons first names ih =>
    rw [Path.steps, List.mem_cons, ih]
    constructor
    · rintro (rfl | ⟨init, name, rest, rfl, rfl⟩)
      · exact ⟨[], first, names, rfl, rfl⟩
      · exact ⟨first :: init, name, rest, rfl, rfl⟩
    · rintro ⟨init, name, rest, hnames, rfl⟩
      cases init with
      | nil =>
        rw [List.nil_append, List.cons.injEq] at hnames
        rw [hnames.1]
        exact .inl rfl
      | cons head init =>
        rw [List.cons_append, List.cons.injEq] at hnames
        rw [hnames.1]
        exact .inr ⟨init, name, rest, hnames.2, rfl⟩

lemma mem_way :
    q ∈ p.way ↔
      ∃ init name rest, p.names = init ++ name :: rest ∧ q = destination ⟨init ++ [name]⟩ :=
  mem_steps

lemma way_subset_way_snoc (names : List String) (name : String) :
    (⟨names⟩ : Path).way ⊆ (⟨names ++ [name]⟩ : Path).way := by
  unfold Path.way
  rw [steps_append]
  exact List.subset_append_left _ _

lemma destination_mem_way (names : List String) (name : String) :
    destination ⟨names ++ [name]⟩ ∈ (⟨names ++ [name]⟩ : Path).way :=
  mem_way.mpr ⟨names, name, [], rfl, rfl⟩

/-! ## Trees -/

lemma entryAt?_of_isAbove (h : p.isAbove = true) : w.entryAt? p = some .directory := by
  unfold Workspace.entryAt?
  rw [if_pos h]

lemma notAbove_of_entry (h : w.entryAt? p ≠ some .directory) : p.isAbove = false := by
  by_contra habove
  exact h (entryAt?_of_isAbove (by simpa using habove))

/-- Whatever stands in the workspace stands in a directory. -/
def IsTree (w : Workspace) : Prop :=
  ∀ p e, p.isAbove = false → w.entryAt? p = some e → w.entryAt? p.parent = some .directory

lemma isTree_of_entries (h : ∀ entry ∈ w.entries, w.entryAt? entry.1.parent = some .directory) :
    IsTree w := by
  intro p e hp hentry
  unfold Workspace.entryAt? Entries.get? at hentry
  rw [if_neg (by simp [hp])] at hentry
  obtain ⟨before, after, hentries, -⟩ := List.lookup_eq_some_iff.mp hentry
  exact h (p, e) (by rw [hentries]; simp)

lemma parent_ne_self (h : p.isAbove = false) : p.parent ≠ p := by
  obtain ⟨names⟩ := p
  intro heq
  have hlength := congrArg (fun r => r.names.length) heq
  cases names with
  | nil => exact absurd h (by decide)
  | cons name names => simp [Path.parent] at hlength

lemma entryAt?_erase_self (h : p.isAbove = false) : (w.erase p).entryAt? p = none := by
  unfold Workspace.entryAt? Workspace.erase Entries.get?
  rw [if_neg (by simp [h]), List.lookup_eq_none_iff]
  intro entry hentry
  have hne : entry.1 ≠ p := by simpa using (List.mem_filter.mp hentry).2
  simpa using Ne.symm hne

lemma isTree_put {e : Entry} (hfree : w.entryAt? q ≠ some .directory)
    (hparent : w.entryAt? q.parent = some .directory) (htree : IsTree w) :
    IsTree (w.put q e) := by
  intro p entry hp hentry
  by_cases hpq : p = q
  · rw [hpq, entryAt?_put_ne (parent_ne_self (hpq ▸ hp))]
    exact hparent
  · rw [entryAt?_put_ne hpq] at hentry
    have hdirectory := htree p entry hp hentry
    have hne : p.parent ≠ q := fun heq => hfree (by rw [← heq]; exact hdirectory)
    rw [entryAt?_put_ne hne]
    exact hdirectory

lemma isTree_erase (hfree : w.entryAt? q ≠ some .directory) (htree : IsTree w) :
    IsTree (w.erase q) := by
  intro p entry hp hentry
  have hpq : p ≠ q := by
    rintro rfl
    rw [entryAt?_erase_self hp] at hentry
    exact absurd hentry (by simp)
  rw [entryAt?_erase_ne hpq] at hentry
  have hdirectory := htree p entry hp hentry
  have hne : p.parent ≠ q := fun heq => hfree (by rw [← heq]; exact hdirectory)
  rw [entryAt?_erase_ne hne]
  exact hdirectory

lemma directory_of_enter {init rest : List String} {name : String}
    (h : w.enter p (init ++ name :: rest) = .ok q) :
    w.entryAt? ((init ++ [name]).foldl Path.step p) = some .directory := by
  induction init generalizing p with
  | nil =>
    rw [List.nil_append, Workspace.enter] at h
    split at h
    · assumption
    · exact absurd h (by simp)
    · exact absurd h (by simp)
  | cons first init ih =>
    rw [List.cons_append, Workspace.enter] at h
    split at h
    · exact ih h
    · exact absurd h (by simp)
    · exact absurd h (by simp)

lemma directory_of_leadsTo (h : w.enter .here p.names = .ok q) :
    w.entryAt? (destination p) = some .directory := by
  rcases List.eq_nil_or_concat p.names with hnil | ⟨init, name, hnames⟩
  · unfold destination
    rw [hnil]
    exact entryAt?_of_isAbove (by decide)
  · rw [List.concat_eq_append] at hnames
    unfold destination
    rw [hnames] at h ⊢
    exact directory_of_enter h

lemma enter_of_directory (hlocate : w.locate p = .ok q) (h : w.entryAt? q = some .directory) :
    w.enter .here p.names = .ok q := by
  obtain rfl := destination_of_locate hlocate
  by_cases hp : p = .here
  · subst hp
    rfl
  · have hparent := exists_enter_of_locate hlocate hp
    rw [destination_of_ne_here hp] at h ⊢
    rw [names_eq_of_ne_here hp, enter_append_of_enter hparent, Workspace.enter, h]
    rfl

/-- Where a path stops leading on, no directory stands. -/
lemma exists_block {names : List String} {cause : FileCause} (h : w.enter p names = .error cause) :
    ∃ init name rest, names = init ++ name :: rest ∧
      w.entryAt? ((init ++ [name]).foldl Path.step p) ≠ some .directory := by
  induction names generalizing p with
  | nil => exact absurd h (by simp [Workspace.enter])
  | cons first names ih =>
    by_cases hfirst : w.entryAt? (p.step first) = some .directory
    · rw [Workspace.enter, hfirst] at h
      obtain ⟨init, name, rest, rfl, hblock⟩ := ih h
      exact ⟨first :: init, name, rest, rfl, hblock⟩
    · exact ⟨[], first, names, rfl, hfirst⟩

lemma directory_step_back (htree : IsTree w) (h : w.entryAt? p = some .directory) :
    w.entryAt? (p.step "..") = some .directory := by
  unfold Path.step
  rw [if_pos rfl]
  split
  · exact entryAt?_of_isAbove (by decide)
  · split
    · rename_i hroot habove
      have hall : p.names.all (· = "..") = true := by
        unfold Path.isAbove at habove
        simpa [hroot] using habove
      refine entryAt?_of_isAbove ?_
      unfold Path.isAbove Path.child
      rw [Bool.or_eq_true]
      right
      rw [List.all_append, hall]
      rfl
    · rename_i habove
      exact htree p .directory (by simpa using habove) h

lemma parent_of_locate (htree : IsTree w) (h : w.locate p = .ok q)
    (hfree : w.entryAt? q ≠ some .directory) : w.entryAt? q.parent = some .directory := by
  have hq := destination_of_locate h
  have hp : p ≠ .here := by
    rintro rfl
    exact hfree (by rw [hq]; exact entryAt?_of_isAbove (by decide))
  have hparent := directory_of_leadsTo (exists_enter_of_locate h hp)
  rw [destination_of_ne_here hp] at hq
  by_cases hback : p.name = ".."
  · rw [hback] at hq
    exact absurd (hq ▸ directory_step_back htree hparent) hfree
  · unfold Path.step at hq
    rw [if_neg hback] at hq
    rw [hq, parent_child]
    exact hparent

/-- Nothing stands below a place that is no directory. -/
lemma entryAt?_below (htree : IsTree w) (h : w.entryAt? p ≠ some .directory) {names : List String}
    (hnames : names ≠ []) : w.entryAt? ⟨p.names ++ names⟩ = none := by
  have hp := notAbove_of_entry h
  have habove : ∀ names, (⟨p.names ++ names⟩ : Path).isAbove = false := by
    intro names
    unfold Path.isAbove at hp ⊢
    rw [Bool.or_eq_false_iff, decide_eq_false_iff_not, List.all_eq_false] at hp ⊢
    obtain ⟨hroot, name, hname, hback⟩ := hp
    refine ⟨?_, name, List.mem_append_left _ hname, hback⟩
    intro heq
    have hlist : p.names ++ names = [""] := congrArg Path.names heq
    obtain ⟨hleft, -⟩ | ⟨hleft, -⟩ := List.append_eq_singleton_iff.mp hlist
    · rw [hleft] at hname
      exact absurd hname (by simp)
    · exact hroot (by cases p; exact congrArg Path.mk hleft)
  induction names using List.reverseRecOn with
  | nil => exact absurd rfl hnames
  | append_singleton init name ih =>
    cases hentry : w.entryAt? ⟨p.names ++ (init ++ [name])⟩ with
    | none => rfl
    | some e =>
      have hparent := htree _ e (habove _) hentry
      have heq : (⟨p.names ++ (init ++ [name])⟩ : Path).parent = ⟨p.names ++ init⟩ := by
        unfold Path.parent
        rw [← List.append_assoc, List.dropLast_concat]
      rw [heq] at hparent
      by_cases hinit : init = []
      · rw [hinit, List.append_nil] at hparent
        exact absurd hparent h
      · rw [ih hinit] at hparent
        exact absurd hparent (by simp)

/-! ## Paths that go forward -/

/-- The path leads back only from directories that are there. -/
def GoesForward (w : Workspace) (p : Path) : Prop :=
  ∀ init rest, p.names = init ++ ".." :: rest → ∃ q, w.enter .here init = .ok q

lemma goesForward_of_notMem (h : ".." ∉ p.names) : GoesForward w p := by
  intro init rest hnames
  rw [hnames] at h
  exact absurd (List.mem_append_right _ List.mem_cons_self) h

lemma goesForward_child {name : String} (h : GoesForward w p) (hname : name ≠ "..") :
    GoesForward w (p.child name) := by
  intro init rest hnames
  rcases List.eq_nil_or_concat rest with rfl | ⟨rest, last, rfl⟩
  · have hlast := congrArg List.getLast? hnames
    simp [Path.child] at hlast
    exact absurd hlast hname
  · have hinit := congrArg List.dropLast hnames
    rw [List.concat_eq_append, ← List.cons_append, ← List.append_assoc,
      List.dropLast_concat] at hinit
    simp only [Path.child, List.dropLast_concat] at hinit
    exact h init rest hinit

lemma goesForward_parent (h : GoesForward w p) : GoesForward w p.parent := by
  by_cases hp : p = .here
  · rw [hp]
    exact goesForward_of_notMem (by decide)
  · intro init rest hnames
    refine h init (rest ++ [p.name]) ?_
    rw [names_eq_of_ne_here hp, hnames]
    simp

lemma goesForward_of_keeps (hkeeps : KeepsDirectories w w') (h : GoesForward w p) :
    GoesForward w' p := by
  intro init rest hnames
  obtain ⟨q, hq⟩ := h init rest hnames
  exact ⟨q, enter_of_keeps hkeeps hq⟩

/-- Behind a place that is no directory the path leads down only. -/
lemma notMem_of_block {init rest : List String} {name : String} (h : GoesForward w p)
    (hnames : p.names = init ++ name :: rest)
    (hblock : w.entryAt? (destination ⟨init ++ [name]⟩) ≠ some .directory) : ".." ∉ rest := by
  intro hmem
  obtain ⟨before, after, rfl⟩ := List.append_of_mem hmem
  obtain ⟨q, hq⟩ := h (init ++ name :: before) after (by simpa using hnames)
  exact hblock (directory_of_enter hq)

lemma destination_of_block {init rest : List String} {name : String}
    (hnames : p.names = init ++ name :: rest) (h : ".." ∉ rest) :
    destination p = ⟨(destination ⟨init ++ [name]⟩).names ++ rest⟩ := by
  have hsplit : p.names = (init ++ [name]) ++ rest := by rw [hnames]; simp
  unfold destination
  rw [hsplit, List.foldl_append, foldl_step_of_notMem h]

/-- What is missing on the way of a path lies above what the path leads to. -/
lemma prefix_of_missing (h : GoesForward w p) (hq : q ∈ p.way) (hmissing : w.entryAt? q = none) :
    q.names <+: (destination p).names := by
  obtain ⟨init, name, rest, hnames, rfl⟩ := mem_way.mp hq
  have hblock : w.entryAt? (destination ⟨init ++ [name]⟩) ≠ some .directory := by
    rw [hmissing]
    simp
  rw [destination_of_block hnames (notMem_of_block h hnames hblock)]
  exact List.prefix_append _ _

/-! ## What stands at a path -/

/-- What stands at a path, if anything does. -/
def standing (w : Workspace) (p : Path) : Option Entry := (w.find p).toOption

lemma standing_of_locate (h : w.locate p = .ok q) : standing w p = w.entryAt? q := by
  unfold standing Workspace.find
  rw [h]
  dsimp only
  cases w.entryAt? q <;> rfl

lemma standing_of_locate_error {cause : FileCause} (h : w.locate p = .error cause) :
    standing w p = none := by
  unfold standing Workspace.find
  rw [h]
  rfl

/-- In a tree a path that goes forward shows what stands at its place. -/
lemma standing_eq (htree : IsTree w) (h : GoesForward w p) :
    standing w p = w.entryAt? (destination p) := by
  cases hlocate : w.locate p with
  | ok q => rw [standing_of_locate hlocate, destination_of_locate hlocate]
  | error cause =>
    rw [standing_of_locate_error hlocate]
    have hp : p ≠ .here := by
      rintro rfl
      exact absurd hlocate (by simp [Workspace.locate])
    have henter : ∃ cause, w.enter .here p.parent.names = .error cause := by
      cases hparent : w.enter .here p.parent.names with
      | error cause => exact ⟨cause, rfl⟩
      | ok r =>
        rw [locate_of_enter hparent] at hlocate
        exact absurd hlocate (by simp)
    obtain ⟨cause, henter⟩ := henter
    obtain ⟨init, name, rest, hsplit, hblock⟩ := exists_block henter
    have hnames : p.names = init ++ name :: (rest ++ [p.name]) := by
      rw [names_eq_of_ne_here hp, hsplit]
      simp
    rw [destination_of_block hnames (notMem_of_block h hnames hblock)]
    exact (entryAt?_below htree hblock (by simp)).symm

lemma notMem_way_of_directory (h : standing w p = some .directory)
    (hq : w.entryAt? q ≠ some .directory) : q ∉ p.way := by
  have henter : w.enter .here p.names = .ok (destination p) := by
    cases hlocate : w.locate p with
    | ok r =>
      obtain rfl := destination_of_locate hlocate
      rw [standing_of_locate hlocate] at h
      exact enter_of_directory hlocate h
    | error cause =>
      rw [standing_of_locate_error hlocate] at h
      exact absurd h (by simp)
  intro hway
  obtain ⟨init, name, rest, hnames, rfl⟩ := mem_way.mp hway
  rw [hnames] at henter
  exact hq (directory_of_enter henter)

lemma read_of_standing (h : standing w p = some (.file content)) : w.read p = .ok content := by
  unfold standing at h
  unfold Workspace.read
  cases hfind : w.find p with
  | error fault =>
    rw [hfind] at h
    exact absurd h (by simp [Except.toOption])
  | ok e =>
    rw [hfind] at h
    have he : e = .file content := Option.some.inj h
    rw [he]

lemma standing_of_read (h : w.read p = .ok content) : standing w p = some (.file content) := by
  unfold Workspace.read at h
  unfold standing
  cases hfind : w.find p with
  | error fault =>
    rw [hfind] at h
    exact absurd h (by simp)
  | ok e =>
    rw [hfind] at h
    cases e with
    | directory => exact absurd h (by simp)
    | file bytes => exact congrArg (fun b => some (Entry.file b)) (Except.ok.inj h)

end Gamebook.Proofs
