import Gamebook.Proofs.Places

/-!
# What file operations change

Each operation on files changes the places that its paths lead to and makes directories on the way
to them; all else stays as it is, no directory is lost and a tree stays a tree. Such changes follow
one another, so that what a run of operations changes is read off its steps.
-/

namespace Gamebook.Proofs

variable {u v w : Workspace} {p q : Path} {content : ByteArray} {touched made : List Path}

/-! ## Changes -/

/-- Between two workspaces only the touched places change, and directories are made at places where
nothing stood. -/
structure Alters (touched made : List Path) (v w : Workspace) : Prop where
  frame : ∀ p, p ∉ touched → w.entryAt? p = v.entryAt? p ∨
    p ∈ made ∧ v.entryAt? p = none ∧ w.entryAt? p = some .directory
  keeps : KeepsDirectories v w
  tree : IsTree v → IsTree w

namespace Alters

lemma refl (touched made : List Path) (w : Workspace) : Alters touched made w w :=
  ⟨fun _ _ => .inl rfl, fun _ h => h, fun h => h⟩

lemma mono {touched' made' : List Path} (h : Alters touched made v w) (ht : touched ⊆ touched')
    (hm : made ⊆ made') : Alters touched' made' v w := by
  refine ⟨fun p hp => ?_, h.keeps, h.tree⟩
  obtain hsame | ⟨hmade, hnone, hdirectory⟩ := h.frame p fun hmem => hp (ht hmem)
  · exact .inl hsame
  · exact .inr ⟨hm hmade, hnone, hdirectory⟩

lemma trans (huv : Alters touched made u v) (hvw : Alters touched made v w) :
    Alters touched made u w := by
  refine ⟨fun p hp => ?_, fun p hp => hvw.keeps p (huv.keeps p hp),
    fun htree => hvw.tree (huv.tree htree)⟩
  obtain hsame | ⟨hmade, hnone, hdirectory⟩ := huv.frame p hp
  · rw [← hsame]
    exact hvw.frame p hp
  · exact .inr ⟨hmade, hnone, hvw.keeps p hdirectory⟩

lemma same (h : Alters touched made v w) (ht : p ∉ touched)
    (hm : p ∈ made → v.entryAt? p ≠ none) : w.entryAt? p = v.entryAt? p := by
  obtain hsame | ⟨hmade, hnone, -⟩ := h.frame p ht
  · exact hsame
  · exact absurd hnone (hm hmade)

lemma standing_same (h : Alters touched made v w) (htree : IsTree v) (hp : GoesForward v p)
    (ht : destination p ∉ touched)
    (hm : destination p ∈ made → v.entryAt? (destination p) ≠ none) :
    standing w p = standing v p := by
  rw [standing_eq (h.tree htree) (goesForward_of_keeps h.keeps hp), standing_eq htree hp]
  exact h.same ht hm

lemma keepsFile (h : Alters touched made v w) (ht : p ∉ touched)
    (hfile : v.entryAt? p = some (.file content)) : w.entryAt? p = some (.file content) := by
  rw [h.same ht fun _ => by rw [hfile]; simp]
  exact hfile

end Alters

/-! ## Writing and taking away -/

lemma alters_put_file (hfree : v.entryAt? q ≠ some .directory)
    (hparent : IsTree v → v.entryAt? q.parent = some .directory) :
    Alters [q] [] v (v.put q (.file content)) := by
  refine ⟨fun p hp => .inl (entryAt?_put_ne ?_ _), keepsDirectories_put hfree,
    fun htree => isTree_put hfree (hparent htree) htree⟩
  simpa using hp

lemma alters_put_directory (hfree : v.entryAt? q = none)
    (hparent : IsTree v → v.entryAt? q.parent = some .directory) :
    Alters [] [q] v (v.put q .directory) := by
  have hnot : v.entryAt? q ≠ some .directory := by
    rw [hfree]
    simp
  refine ⟨fun p _ => ?_, keepsDirectories_put hnot,
    fun htree => isTree_put hnot (hparent htree) htree⟩
  by_cases hpq : p = q
  · subst hpq
    exact .inr ⟨List.mem_singleton_self _, hfree, entryAt?_put_self (notAbove_of_entry hnot) _⟩
  · exact .inl (entryAt?_put_ne hpq _)

lemma alters_erase (hfree : v.entryAt? q ≠ some .directory) : Alters [q] [] v (v.erase q) := by
  refine ⟨fun p hp => .inl (entryAt?_erase_ne ?_), keepsDirectories_erase hfree,
    fun htree => isTree_erase hfree htree⟩
  simpa using hp

/-- The path leads to a place where a file with the content stands. -/
structure Holds (w : Workspace) (p : Path) (content : ByteArray) : Prop where
  located : w.locate p = .ok (destination p)
  there : w.entryAt? (destination p) = some (.file content)

lemma Holds.notDirectory (h : Holds w p content) :
    w.entryAt? (destination p) ≠ some .directory := by
  rw [h.there]
  simp

lemma Holds.standing (h : Holds w p content) : standing w p = some (.file content) := by
  rw [standing_of_locate h.located, h.there]

lemma holds_of_standing (h : Proofs.standing w p = some (.file content)) : Holds w p content := by
  cases hlocate : w.locate p with
  | ok q =>
    obtain rfl := destination_of_locate hlocate
    rw [standing_of_locate hlocate] at h
    exact ⟨hlocate, h⟩
  | error cause =>
    rw [standing_of_locate_error hlocate] at h
    exact absurd h (by simp)

lemma Holds.alters (h : Holds v p content) (halters : Alters touched made v w)
    (hp : destination p ∉ touched) : Holds w p content :=
  ⟨locate_of_keeps halters.keeps h.located, halters.keepsFile hp h.there⟩

lemma holds_put (hlocate : v.locate p = .ok q) (hfree : v.entryAt? q ≠ some .directory) :
    Holds (v.put q (.file content)) p content := by
  have hq := destination_of_locate hlocate
  refine ⟨?_, ?_⟩
  · rw [← hq]
    exact locate_of_keeps (keepsDirectories_put hfree) hlocate
  · rw [← hq]
    exact entryAt?_put_self (notAbove_of_entry hfree) _

lemma locate_of_write (h : v.write p content = .ok w) :
    v.locate p = .ok (destination p) ∧ v.entryAt? (destination p) ≠ some .directory ∧
      w = v.put (destination p) (.file content) := by
  unfold Workspace.write at h
  split at h
  · exact absurd h (by simp)
  · rename_i q hq
    obtain rfl := destination_of_locate hq
    split at h
    · exact absurd h (by simp)
    · rename_i hfree
      exact ⟨hq, notDirectory_of_any hfree, (Except.ok.inj h).symm⟩

lemma alters_write (h : v.write p content = .ok w) :
    Alters [destination p] [] v w ∧ Holds w p content := by
  obtain ⟨hlocate, hfree, rfl⟩ := locate_of_write h
  exact ⟨alters_put_file hfree fun htree => parent_of_locate htree hlocate hfree,
    holds_put hlocate hfree⟩

lemma alters_discards {staged : List Path}
    (h : ∀ p ∈ staged, v.locate p = .ok (destination p) ∧
      v.entryAt? (destination p) ≠ some .directory) :
    Alters (staged.map destination) [] v (staged.foldl Workspace.discard v) ∧
      ∀ p ∈ staged, (staged.foldl Workspace.discard v).entryAt? (destination p) = none := by
  induction staged generalizing v with
  | nil => exact ⟨.refl _ _ _, by simp⟩
  | cons p staged ih =>
    obtain ⟨hlocate, hfree⟩ := h p List.mem_cons_self
    have hdiscard : v.discard p = v.erase (destination p) := by
      unfold Workspace.discard
      rw [hlocate]
    have herase := alters_erase hfree
    have hrest : ∀ q ∈ staged, (v.erase (destination p)).locate q = .ok (destination q) ∧
        (v.erase (destination p)).entryAt? (destination q) ≠ some .directory := by
      intro q hq
      obtain ⟨hlocated, hnot⟩ := h q (List.mem_cons_of_mem p hq)
      refine ⟨locate_of_keeps herase.keeps hlocated, ?_⟩
      by_cases hsame : destination q = destination p
      · rw [hsame, entryAt?_erase_self (notAbove_of_entry hfree)]
        simp
      · rw [entryAt?_erase_ne hsame]
        exact hnot
    obtain ⟨halters, hnone⟩ := ih hrest
    rw [List.foldl_cons, hdiscard, List.map_cons]
    refine ⟨(herase.mono (by simp) (by simp)).trans (halters.mono (by simp) (by simp)), ?_⟩
    intro q hq
    obtain rfl | hq := List.mem_cons.mp hq
    · by_cases hmem : destination q ∈ staged.map destination
      · obtain ⟨r, hr, heq⟩ := List.mem_map.mp hmem
        have hgone := hnone r hr
        rw [heq] at hgone
        exact hgone
      · rw [halters.same hmem (by simp)]
        exact entryAt?_erase_self (notAbove_of_entry hfree)
    · exact hnone q hq

/-! ## Making directories -/

lemma alters_makeOne (h : v.makeOne p = .ok w) :
    Alters [] [destination p] v w ∧ w.enter .here p.names = .ok (destination p) := by
  unfold Workspace.makeOne at h
  split at h
  · exact absurd h (by simp)
  · rename_i q hq
    obtain rfl := destination_of_locate hq
    split at h
    · rename_i hdirectory
      obtain rfl := Except.ok.inj h
      exact ⟨.refl _ _ _, enter_of_directory hq hdirectory⟩
    · exact absurd h (by simp)
    · rename_i hnone
      obtain rfl := Except.ok.inj h
      have hnot : v.entryAt? (destination p) ≠ some .directory := by
        rw [hnone]
        simp
      have hput := alters_put_directory hnone fun htree => parent_of_locate htree hq hnot
      exact ⟨hput, enter_of_directory (locate_of_keeps hput.keeps hq)
        (entryAt?_put_self (notAbove_of_entry hnot) _)⟩

lemma alters_makeLast {names : List String} {name : String}
    (h : v.makeOne ⟨names ++ [name]⟩ = .ok w) :
    Alters [] (⟨names ++ [name]⟩ : Path).way v w ∧
      w.enter .here (names ++ [name]) = .ok (destination ⟨names ++ [name]⟩) := by
  obtain ⟨halters, henter⟩ := alters_makeOne h
  exact ⟨halters.mono (by simp) (by simpa using destination_mem_way names name), henter⟩

lemma alters_makeWay {names : List String} (h : v.makeWay names = .ok w) :
    Alters [] (⟨names.reverse⟩ : Path).way v w ∧
      w.enter .here names.reverse = .ok (destination ⟨names.reverse⟩) := by
  induction names generalizing w with
  | nil =>
    obtain rfl := Except.ok.inj h
    exact ⟨.refl _ _ _, rfl⟩
  | cons name names ih =>
    rw [Workspace.makeWay] at h
    rw [List.reverse_cons] at h ⊢
    split at h
    · rename_i hone
      obtain rfl := Except.ok.inj h
      exact alters_makeLast hone
    · split at h
      · split at h
        · exact absurd h (by simp)
        · rename_i x hx
          cases hlast : x.makeOne ⟨names.reverse ++ [name]⟩ with
          | error fault =>
            rw [hlast] at h
            exact absurd h (by simp [Except.mapError])
          | ok y =>
            rw [hlast] at h
            obtain rfl := Except.ok.inj h
            obtain ⟨halters, henter⟩ := alters_makeLast hlast
            exact ⟨((ih hx).1.mono (by simp) (way_subset_way_snoc _ name)).trans halters, henter⟩
      · exact absurd h (by simp)

lemma alters_makeWay_error {names : List String} {fault : FileFault}
    (h : v.makeWay names = .error (fault, w)) : Alters [] (⟨names.reverse⟩ : Path).way v w := by
  induction names generalizing w fault with
  | nil => exact absurd h (by simp [Workspace.makeWay])
  | cons name names ih =>
    rw [Workspace.makeWay] at h
    rw [List.reverse_cons] at h ⊢
    have hway := way_subset_way_snoc names.reverse name
    split at h
    · exact absurd h (by simp)
    · split at h
      · split at h
        · rename_i failure hfailure
          obtain rfl := Except.error.inj h
          exact (ih hfailure).mono (by simp) hway
        · rename_i x hx
          cases hlast : x.makeOne ⟨names.reverse ++ [name]⟩ with
          | error last =>
            rw [hlast] at h
            obtain ⟨-, rfl⟩ := Prod.mk.inj (Except.error.inj h)
            exact (alters_makeWay hx).1.mono (by simp) hway
          | ok y =>
            rw [hlast] at h
            exact absurd h (by simp [Except.mapError])
      · obtain ⟨-, rfl⟩ := Prod.mk.inj (Except.error.inj h)
        exact .refl _ _ _

lemma alters_makeDirectory (h : v.makeDirectory p = .ok w) : Alters [] p.way v w := by
  have hway := (alters_makeWay h).1
  rwa [List.reverse_reverse] at hway

lemma alters_makeDirectory_error {fault : FileFault} (h : v.makeDirectory p = .error (fault, w)) :
    Alters [] p.way v w := by
  have hway := alters_makeWay_error h
  rwa [List.reverse_reverse] at hway

/-! ## Written texts -/

/-- A written text is found again, and only directories on the way to it are new. -/
theorem alters_writeText {text : String} (h : v.writeText p text = .ok w) :
    Alters [destination p] p.parent.way v w ∧ Holds w p (Text.encode text) := by
  unfold Workspace.writeText at h
  split at h
  · exact absurd h (by simp)
  · rename_i x hx
    split at h
    · exact absurd h (by simp)
    · rename_i y hy
      obtain rfl := Except.ok.inj h
      obtain ⟨halters, hholds⟩ := alters_write hy
      exact ⟨((alters_makeDirectory hx).mono (by simp) (by simp)).trans
        (halters.mono (by simp) (by simp)), hholds⟩

/-- A text that cannot be written leaves new directories on the way to it at most. -/
theorem alters_writeText_error {text : String} {failure : StorageFailure}
    (h : v.writeText p text = .error (failure, w)) : Alters [] p.parent.way v w := by
  unfold Workspace.writeText at h
  split at h
  · rename_i fault x hx
    obtain ⟨-, rfl⟩ := Prod.mk.inj (Except.error.inj h)
    exact alters_makeDirectory_error hx
  · rename_i x hx
    split at h
    · obtain ⟨-, rfl⟩ := Prod.mk.inj (Except.error.inj h)
      exact alters_makeDirectory hx
    · exact absurd h (by simp)

lemma read_of_writeText {text : String} (h : v.writeText p text = .ok w) :
    w.read p = .ok (Text.encode text) :=
  read_of_standing (alters_writeText h).2.standing

/-! ## Moving and copying -/

lemma rename_of_holds {source target : Path} (hsource : Holds v source content)
    (htarget : v.locate target = .ok (destination target)) :
    v.rename source target =
      if (v.entryAt? (destination target)).any Entry.isDirectory then
        .error ⟨.isDirectory, source, some target⟩
      else .ok ((v.erase (destination source)).put (destination target) (.file content)) := by
  have hdiscard : v.discard source = v.erase (destination source) := by
    unfold Workspace.discard
    rw [hsource.located]
  unfold Workspace.rename
  rw [read_of_standing hsource.standing, htarget, hdiscard]

lemma alters_move {source target : Path} (hsource : Holds v source content)
    (htarget : v.locate target = .ok (destination target))
    (hne : destination source ≠ destination target)
    (hfree : v.entryAt? (destination target) ≠ some .directory)
    (h : w = (v.erase (destination source)).put (destination target) (.file content)) :
    Alters [destination source, destination target] [] v w ∧ Holds w target content ∧
      w.entryAt? (destination source) = none := by
  subst h
  have herase := alters_erase hsource.notDirectory
  have hstill : (v.erase (destination source)).entryAt? (destination target) ≠ some .directory := by
    rw [entryAt?_erase_ne hne.symm]
    exact hfree
  have hlocate := locate_of_keeps herase.keeps htarget
  have hput : Alters [destination target] [] (v.erase (destination source))
      ((v.erase (destination source)).put (destination target) (.file content)) :=
    alters_put_file hstill fun htree => parent_of_locate htree hlocate hstill
  refine ⟨(herase.mono (by simp) (by simp)).trans (hput.mono (by simp) (by simp)),
    holds_put hlocate hstill, ?_⟩
  rw [entryAt?_put_ne hne]
  exact entryAt?_erase_self (notAbove_of_entry hsource.notDirectory)

end Gamebook.Proofs
