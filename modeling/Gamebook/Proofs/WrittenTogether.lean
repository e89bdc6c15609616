import Gamebook.Proofs.FileChanges

/-!
# Texts written together

Texts that are written together are all written, or every path is left as it was, unless a directory
stands at one of the paths. Then the texts before it are written and the staged files of the others
are left.
-/

namespace Gamebook.Proofs

variable {v w : Workspace} {p q : Path} {texts : List (Path × String)}

/-! ## Staging -/

/-- The place where the text of a path is staged. -/
def stagingPlace (p : Path) : Path := destination (Workspace.staging p)

/-- The places where texts are staged. -/
def stagings (texts : List (Path × String)) : List Path := texts.map fun t => stagingPlace t.1

/-- The places to which texts are written. -/
def targets (texts : List (Path × String)) : List Path := texts.map fun t => destination t.1

/-- The places on the way to texts. -/
def ways (texts : List (Path × String)) : List Path := texts.flatMap fun t => t.1.parent.way

lemma mem_targets {t : Path × String} (ht : t ∈ texts) : destination t.1 ∈ targets texts :=
  List.mem_map.mpr ⟨t, ht, rfl⟩

lemma mem_stagings {t : Path × String} (ht : t ∈ texts) : stagingPlace t.1 ∈ stagings texts :=
  List.mem_map.mpr ⟨t, ht, rfl⟩

@[simp] lemma parent_staging (p : Path) : (Workspace.staging p).parent = p.parent := by
  unfold Workspace.staging Path.withEnding
  rw [parent_child]

lemma goesForward_staging (h : GoesForward w p) : GoesForward w (Workspace.staging p) :=
  goesForward_child (goesForward_parent h) (plain_stagingName p.name).1

lemma locate_of_staging (h : w.locate (Workspace.staging p) = .ok q) :
    w.locate p = .ok (destination p) := by
  have henter := exists_enter_of_locate h (child_ne_here _ _)
  rw [parent_staging] at henter
  exact locate_of_enter henter

lemma stage_ok {staged : List Path} (h : v.stage staged texts = .ok w)
    (hdistinct : (stagings texts).Nodup) :
    Alters (stagings texts) (ways texts) v w ∧
      ∀ t ∈ texts, Holds w (Workspace.staging t.1) (Text.encode t.2) := by
  induction texts generalizing v staged with
  | nil =>
    obtain rfl := Except.ok.inj h
    exact ⟨.refl _ _ _, by simp⟩
  | cons t texts ih =>
    obtain ⟨p, text⟩ := t
    obtain ⟨hnew, hrest⟩ := List.nodup_cons.mp hdistinct
    rw [Workspace.stage] at h
    split at h
    · rename_i x hx
      obtain ⟨hfirst, hholds⟩ := alters_writeText hx
      obtain ⟨hlater, hstaged⟩ := ih h hrest
      rw [parent_staging] at hfirst
      refine ⟨(hfirst.mono ?_ ?_).trans (hlater.mono ?_ ?_), ?_⟩
      · exact List.cons_subset_cons _ (List.nil_subset _)
      · exact List.subset_append_left _ _
      · exact List.subset_cons_self _ _
      · exact List.subset_append_right _ _
      · intro u hu
        obtain rfl | hu := List.mem_cons.mp hu
        · exact hholds.alters hlater hnew
        · exact hstaged u hu
    · exact absurd h (by simp)

/-- A file stays a file when a text is written, there or elsewhere. -/
lemma exists_holds_of_writeText {text : String} (h : v.writeText p text = .ok w) {q : Path}
    (hq : ∃ content, Holds v q content) : ∃ content, Holds w q content := by
  obtain ⟨halters, hholds⟩ := alters_writeText h
  obtain ⟨content, hcontent⟩ := hq
  by_cases hsame : destination q = destination p
  · have hthere := hholds.there
    rw [← hsame] at hthere
    exact ⟨_, locate_of_keeps halters.keeps hcontent.located, hthere⟩
  · exact ⟨content, hcontent.alters halters (by simpa using hsame)⟩

lemma alters_withdraw {text : String} {failure : StorageFailure} {staged : List Path}
    (h : v.writeText p text = .error (failure, w))
    (hstaged : ∀ q ∈ staged, ∃ content, Holds v q content) :
    Alters (staged.map destination) p.parent.way v (staged.foldl Workspace.discard w) ∧
      ∀ q ∈ staged, (staged.foldl Workspace.discard w).entryAt? (destination q) = none := by
  have hmade := alters_writeText_error h
  have hstill : ∀ q ∈ staged, w.locate q = .ok (destination q) ∧
      w.entryAt? (destination q) ≠ some .directory := by
    intro q hq
    obtain ⟨content, hcontent⟩ := hstaged q hq
    have hholds := hcontent.alters hmade (by simp)
    exact ⟨hholds.located, hholds.notDirectory⟩
  obtain ⟨hdiscards, hgone⟩ := alters_discards hstill
  exact ⟨(hmade.mono (List.nil_subset _) (List.Subset.refl _)).trans
    (hdiscards.mono (List.Subset.refl _) (List.nil_subset _)), hgone⟩

lemma stage_error {staged : List Path} {failure : StorageFailure}
    (h : v.stage staged texts = .error (failure, w))
    (hstaged : ∀ p ∈ staged, ∃ content, Holds v p content) :
    ∃ done rest, texts = done ++ rest ∧
      Alters (staged.map destination ++ stagings done) (ways texts) v w ∧
      (∀ p ∈ staged, w.entryAt? (destination p) = none) ∧
      ∀ t ∈ done, w.entryAt? (stagingPlace t.1) = none := by
  induction texts generalizing v staged with
  | nil => exact absurd h (by simp [Workspace.stage])
  | cons t texts ih =>
    obtain ⟨p, text⟩ := t
    rw [Workspace.stage] at h
    split at h
    · rename_i x hx
      have hfirst := (alters_writeText hx).1
      rw [parent_staging] at hfirst
      have hstill : ∀ q ∈ staged ++ [Workspace.staging p], ∃ content, Holds x q content := by
        intro q hq
        obtain hq | hq := List.mem_append.mp hq
        · exact exists_holds_of_writeText hx (hstaged q hq)
        · obtain rfl := List.mem_singleton.mp hq
          exact ⟨_, (alters_writeText hx).2⟩
      obtain ⟨done, rest, rfl, hlater, hgone, hdone⟩ := ih h hstill
      refine ⟨(p, text) :: done, rest, rfl, (hfirst.mono ?_ ?_).trans (hlater.mono ?_ ?_),
        fun q hq => hgone q (List.mem_append_left _ hq), ?_⟩
      · intro q hq
        obtain rfl := List.mem_singleton.mp hq
        exact List.mem_append_right _ List.mem_cons_self
      · exact List.subset_append_left _ _
      · simp [stagings, stagingPlace]
      · exact List.subset_append_right _ _
      · intro u hu
        obtain rfl | hu := List.mem_cons.mp hu
        · exact hgone _ (List.mem_append_right _ (List.mem_singleton_self _))
        · exact hdone u hu
    · rename_i failure x hx
      obtain ⟨-, rfl⟩ := Prod.mk.inj (Except.error.inj h)
      obtain ⟨halters, hgone⟩ := alters_withdraw hx hstaged
      rw [parent_staging] at halters
      exact ⟨[], (p, text) :: texts, rfl,
        halters.mono (List.subset_append_left _ _) (List.subset_append_left _ _), hgone, by simp⟩

/-! ## Moving into place -/

lemma directory_of_any (h : (w.entryAt? p).any Entry.isDirectory = true) :
    w.entryAt? p = some .directory := by
  cases hentry : w.entryAt? p with
  | none =>
    rw [hentry] at h
    exact absurd h (by simp)
  | some e =>
    cases e with
    | directory => rfl
    | file content =>
      rw [hentry] at h
      exact absurd h (by simp [Entry.isDirectory])

/-- The staged texts stand at their paths. -/
structure Swapped (v w : Workspace) (texts : List (Path × String)) : Prop where
  alters : Alters (stagings texts ++ targets texts) [] v w
  holds : ∀ t ∈ texts, Holds w t.1 (Text.encode t.2)
  gone : ∀ t ∈ texts, w.entryAt? (stagingPlace t.1) = none
  free : ∀ t ∈ texts, v.entryAt? (destination t.1) ≠ some .directory

/-- Nothing is staged or written at a place where another text is. -/
def Distinct (texts : List (Path × String)) : Prop := (stagings texts ++ targets texts).Nodup

lemma distinct_cons {t : Path × String} (h : Distinct (t :: texts)) :
    stagingPlace t.1 ∉ stagings texts ++ targets texts ∧
      destination t.1 ∉ stagings texts ++ targets texts ∧
      stagingPlace t.1 ≠ destination t.1 ∧ Distinct texts := by
  unfold Distinct stagings targets at h ⊢
  rw [List.map_cons, List.map_cons, List.cons_append, List.nodup_cons] at h
  obtain ⟨hstaging, hrest⟩ := h
  have hmiddle := List.nodup_middle.mp hrest
  rw [List.nodup_cons] at hmiddle
  rw [List.mem_append, List.mem_cons, not_or, not_or] at hstaging
  refine ⟨?_, hmiddle.1, hstaging.2.1, hmiddle.2⟩
  rw [List.mem_append, not_or]
  exact ⟨hstaging.1, hstaging.2.2⟩

/-- The first of the staged texts is moved into place, the others are where they were. -/
structure Moved (v x : Workspace) (t : Path × String) (texts : List (Path × String)) : Prop where
  alters : Alters [stagingPlace t.1, destination t.1] [] v x
  holds : Holds x t.1 (Text.encode t.2)
  gone : x.entryAt? (stagingPlace t.1) = none
  free : v.entryAt? (destination t.1) ≠ some .directory
  staged : ∀ u ∈ texts, Holds x (Workspace.staging u.1) (Text.encode u.2)
  same : ∀ u ∈ texts, x.entryAt? (destination u.1) = v.entryAt? (destination u.1)

lemma moved_of_rename {t : Path × String}
    (hstaged : ∀ u ∈ t :: texts, Holds v (Workspace.staging u.1) (Text.encode u.2))
    (hdistinct : Distinct (t :: texts)) :
    (∃ fault, v.rename (Workspace.staging t.1) t.1 = .error fault ∧
      v.entryAt? (destination t.1) = some .directory) ∨
    ∃ x, v.rename (Workspace.staging t.1) t.1 = .ok x ∧ Moved v x t texts := by
  obtain ⟨hstaging, htarget, hne, -⟩ := distinct_cons hdistinct
  have hself := hstaged t List.mem_cons_self
  have hlocate := locate_of_staging hself.located
  rw [rename_of_holds hself hlocate]
  by_cases hany : (v.entryAt? (destination t.1)).any Entry.isDirectory = true
  · rw [if_pos hany]
    exact .inl ⟨_, rfl, directory_of_any hany⟩
  · rw [if_neg hany]
    have hfree := notDirectory_of_any hany
    obtain ⟨hmoved, hholds, hgone⟩ := alters_move hself hlocate hne hfree rfl
    have hapart : ∀ q ∈ stagings texts ++ targets texts,
        q ∉ [destination (Workspace.staging t.1), destination t.1] := by
      intro q hq hmem
      obtain rfl | hmem := List.mem_cons.mp hmem
      · exact hstaging hq
      · exact htarget (List.mem_singleton.mp hmem ▸ hq)
    refine .inr ⟨_, rfl, hmoved, hholds, hgone, hfree, fun u hu => ?_, fun u hu => ?_⟩
    · exact (hstaged u (List.mem_cons_of_mem t hu)).alters hmoved
        (hapart _ (List.mem_append_left _ (mem_stagings hu)))
    · exact hmoved.same (hapart _ (List.mem_append_right _ (mem_targets hu))) (by simp)

lemma Swapped.cons {x : Workspace} {t : Path × String} {done : List (Path × String)}
    (hdistinct : Distinct (t :: texts)) (hdone : done ⊆ texts) (hmoved : Moved v x t texts)
    (hlater : Swapped x w done) : Swapped v w (t :: done) := by
  obtain ⟨hstaging, htarget, -, -⟩ := distinct_cons hdistinct
  have hsub : stagings done ++ targets done ⊆ stagings texts ++ targets texts := by
    refine List.append_subset.mpr ⟨fun q hq => ?_, fun q hq => ?_⟩
    · exact List.mem_append_left _ (List.map_subset _ hdone hq)
    · exact List.mem_append_right _ (List.map_subset _ hdone hq)
  refine ⟨(hmoved.alters.mono ?_ (by simp)).trans (hlater.alters.mono ?_ (by simp)), ?_, ?_, ?_⟩
  · intro q hq
    simp only [stagings, targets, List.map_cons, List.mem_append, List.mem_cons,
      List.not_mem_nil, or_false] at hq ⊢
    tauto
  · intro q hq
    simp only [stagings, targets, List.map_cons, List.mem_append, List.mem_cons] at hq ⊢
    tauto
  · intro u hu
    obtain rfl | hu := List.mem_cons.mp hu
    · exact hmoved.holds.alters hlater.alters fun hmem => htarget (hsub hmem)
    · exact hlater.holds u hu
  · intro u hu
    obtain rfl | hu := List.mem_cons.mp hu
    · rw [hlater.alters.same (fun hmem => hstaging (hsub hmem)) (by simp)]
      exact hmoved.gone
    · exact hlater.gone u hu
  · intro u hu
    obtain rfl | hu := List.mem_cons.mp hu
    · exact hmoved.free
    · exact fun hdirectory => hlater.free u hu (hmoved.alters.keeps _ hdirectory)

lemma Swapped.nil (v : Workspace) : Swapped v v [] := ⟨.refl _ _ _, by simp, by simp, by simp⟩

lemma swapped_of_swap (hstaged : ∀ t ∈ texts, Holds v (Workspace.staging t.1) (Text.encode t.2))
    (hdistinct : Distinct texts) (h : v.swap (Entries.keys texts) = .ok w) : Swapped v w texts := by
  unfold Entries.keys at h
  induction texts generalizing v with
  | nil =>
    obtain rfl := Except.ok.inj h
    exact .nil v
  | cons t texts ih =>
    rw [List.map_cons, Workspace.swap] at h
    obtain ⟨fault, hrename, -⟩ | ⟨x, hrename, hmoved⟩ := moved_of_rename hstaged hdistinct
    · rw [hrename] at h
      exact absurd h (by simp)
    · rw [hrename] at h
      have hrest := (distinct_cons hdistinct).2.2.2
      exact .cons hdistinct (List.Subset.refl _) hmoved (ih hmoved.staged hrest h)

/-- Staged texts are moved up to the first path at which a directory stands. -/
lemma swapped_of_swap_error {failure : StorageFailure}
    (hstaged : ∀ t ∈ texts, Holds v (Workspace.staging t.1) (Text.encode t.2))
    (hdistinct : Distinct texts) (h : v.swap (Entries.keys texts) = .error (failure, w)) :
    ∃ done t rest, texts = done ++ t :: rest ∧ Swapped v w done ∧
      v.entryAt? (destination t.1) = some .directory := by
  unfold Entries.keys at h
  induction texts generalizing v with
  | nil => exact absurd h (by simp [Workspace.swap])
  | cons t texts ih =>
    rw [List.map_cons, Workspace.swap] at h
    obtain ⟨fault, hrename, hdirectory⟩ | ⟨x, hrename, hmoved⟩ := moved_of_rename hstaged hdistinct
    · rw [hrename] at h
      obtain ⟨-, rfl⟩ := Prod.mk.inj (Except.error.inj h)
      exact ⟨[], t, texts, rfl, .nil v, hdirectory⟩
    · rw [hrename] at h
      have hrest := (distinct_cons hdistinct).2.2.2
      obtain ⟨done, u, rest, rfl, hdone, hdirectory⟩ := ih hmoved.staged hrest h
      have hu : u ∈ done ++ u :: rest := List.mem_append_right _ List.mem_cons_self
      rw [hmoved.same u hu] at hdirectory
      exact ⟨t :: done, u, rest, rfl,
        .cons hdistinct (List.subset_append_left _ _) hmoved hdone, hdirectory⟩

/-! ## All or none -/

/-- What writing texts together changes when it succeeds. -/
lemma writeTexts_ok (hdistinct : Distinct texts) (h : v.writeTexts texts = .ok w) :
    Alters (stagings texts ++ targets texts) (ways texts) v w ∧
      (∀ t ∈ texts, Holds w t.1 (Text.encode t.2)) ∧
      ∀ t ∈ texts, w.entryAt? (stagingPlace t.1) = none := by
  unfold Workspace.writeTexts at h
  split at h
  · rename_i x hx
    obtain ⟨hstage, hstaged⟩ := stage_ok hx (List.nodup_append.mp hdistinct).1
    have hswap := swapped_of_swap hstaged hdistinct h
    exact ⟨(hstage.mono (List.subset_append_left _ _) (List.Subset.refl _)).trans
      (hswap.alters.mono (List.Subset.refl _) (List.nil_subset _)), hswap.holds, hswap.gone⟩
  · exact absurd h (by simp)

/-- A failure while the texts are staged takes the staged files away. -/
def Withdrawn (v w : Workspace) (texts : List (Path × String)) : Prop :=
  ∃ done rest, texts = done ++ rest ∧ Alters (stagings done) (ways texts) v w ∧
    ∀ t ∈ done, w.entryAt? (stagingPlace t.1) = none

/-- A directory at a path stops the moving of staged files. -/
def Stopped (v w : Workspace) (texts done : List (Path × String)) (t : Path × String)
    (rest : List (Path × String)) : Prop :=
  texts = done ++ t :: rest ∧ ∃ x, Alters (stagings texts) (ways texts) v x ∧
    (∀ u ∈ texts, Holds x (Workspace.staging u.1) (Text.encode u.2)) ∧
    x.entryAt? (destination t.1) = some .directory ∧ Swapped x w done

/-- What writing texts together leaves when it fails. -/
lemma writeTexts_error {failure : StorageFailure} (hdistinct : Distinct texts)
    (h : v.writeTexts texts = .error (failure, w)) :
    Withdrawn v w texts ∨ ∃ done t rest, Stopped v w texts done t rest := by
  unfold Workspace.writeTexts at h
  split at h
  · rename_i x hx
    obtain ⟨hstage, hstaged⟩ := stage_ok hx (List.nodup_append.mp hdistinct).1
    obtain ⟨done, t, rest, htexts, hdone, hdirectory⟩ :=
      swapped_of_swap_error hstaged hdistinct h
    exact .inr ⟨done, t, rest, htexts, x, hstage, hstaged, hdirectory, hdone⟩
  · rename_i result hresult
    obtain rfl := Except.error.inj h
    obtain ⟨done, rest, htexts, halters, -, hdone⟩ := stage_error hresult (by simp)
    exact .inl ⟨done, rest, htexts, halters, hdone⟩

/-- However it fails, writing texts together changes no more than when it succeeds. -/
lemma alters_of_error {failure : StorageFailure} (hdistinct : Distinct texts)
    (h : v.writeTexts texts = .error (failure, w)) :
    Alters (stagings texts ++ targets texts) (ways texts) v w := by
  obtain ⟨done, rest, rfl, halters, -⟩ | ⟨done, t, rest, rfl, x, hstage, -, -, hswap⟩ :=
    writeTexts_error hdistinct h
  · refine halters.mono ?_ (List.Subset.refl _)
    simp [stagings]
  · refine (hstage.mono (List.subset_append_left _ _) (List.Subset.refl _)).trans
      (hswap.alters.mono ?_ (List.nil_subset _))
    intro q hq
    simp only [stagings, targets, List.map_append, List.mem_append] at hq ⊢
    tauto

/-- Texts that do not get in the way of each other: no two places are the same, no text is written
where a directory has to be made for another one, and the paths go forward. -/
structure Separate (w : Workspace) (texts : List (Path × String)) : Prop where
  distinct : Distinct texts
  clear : ∀ t ∈ texts, destination t.1 ∈ ways texts → w.entryAt? (destination t.1) ≠ none
  forward : ∀ t ∈ texts, GoesForward w t.1

namespace Separate

lemma target_notMem (h : Separate w texts) {t : Path × String} (ht : t ∈ texts) :
    destination t.1 ∉ stagings texts :=
  fun hmem => (List.nodup_append.mp h.distinct).2.2 _ hmem _ (mem_targets ht) rfl

lemma same (h : Separate v texts) {touched : List Path}
    (halters : Alters touched (ways texts) v w) (htouched : touched ⊆ stagings texts)
    {t : Path × String} (ht : t ∈ texts) :
    w.entryAt? (destination t.1) = v.entryAt? (destination t.1) :=
  halters.same (fun hmem => h.target_notMem ht (htouched hmem)) (h.clear t ht)

end Separate

/-- Written together, every path holds its text afterwards and nothing is staged; or every path is
as it was, and so is every file at a place for staging. -/
def AllOrNone (v : Workspace) (texts : List (Path × String)) : Prop :=
  match v.writeTexts texts with
  | .ok w => ∀ t ∈ texts, standing w t.1 = some (.file (Text.encode t.2)) ∧
      standing w (Workspace.staging t.1) = none
  | .error (_, w) => ∀ t ∈ texts, standing w t.1 = standing v t.1 ∧
      ∀ content, standing w (Workspace.staging t.1) = some (.file content) →
        standing v (Workspace.staging t.1) = some (.file content)

/-- The texts in front of a directory are written, the staged files of the others are left. -/
def Torn (v : Workspace) (texts : List (Path × String)) : Prop :=
  ∃ done t rest failure w, texts = done ++ t :: rest ∧ standing v t.1 = some .directory ∧
    v.writeTexts texts = .error (failure, w) ∧
    (∀ u ∈ done, standing v u.1 ≠ some .directory ∧
      standing w u.1 = some (.file (Text.encode u.2))) ∧
    ∀ u ∈ t :: rest, standing w u.1 = standing v u.1 ∧
      standing w (Workspace.staging u.1) = some (.file (Text.encode u.2))

lemma standing_staging (htree : IsTree w) (h : GoesForward w p) :
    standing w (Workspace.staging p) = w.entryAt? (stagingPlace p) :=
  standing_eq htree (goesForward_staging h)

/-- A failure while staging leaves every path as it was. -/
lemma unchanged_of_withdrawn (htree : IsTree v) (h : Separate v texts) (hw : Withdrawn v w texts)
    {t : Path × String} (ht : t ∈ texts) :
    standing w t.1 = standing v t.1 ∧
      ∀ content, standing w (Workspace.staging t.1) = some (.file content) →
        standing v (Workspace.staging t.1) = some (.file content) := by
  obtain ⟨done, rest, rfl, halters, hdone⟩ := hw
  have hforward := h.forward t ht
  have hforward' := goesForward_of_keeps halters.keeps hforward
  have hsub : stagings done ⊆ stagings (done ++ rest) := by
    unfold stagings
    rw [List.map_append]
    exact List.subset_append_left _ _
  refine ⟨?_, fun content hcontent => ?_⟩
  · exact halters.standing_same htree hforward (fun hmem => h.target_notMem ht (hsub hmem))
      (h.clear t ht)
  · rw [standing_staging (halters.tree htree) hforward'] at hcontent
    rw [standing_staging htree hforward]
    -- What is staged by then is gone; what is not yet staged is not touched.
    by_cases hmem : stagingPlace t.1 ∈ stagings done
    · obtain ⟨u, hu, heq⟩ := List.mem_map.mp hmem
      rw [← heq, hdone u hu] at hcontent
      exact absurd hcontent (by simp)
    · obtain hsame | ⟨-, -, hdirectory⟩ := halters.frame _ hmem
      · rw [← hsame]
        exact hcontent
      · rw [hdirectory] at hcontent
        exact absurd hcontent (by simp)

/-- The places of the texts that are not reached are apart from those of the texts before them. -/
lemma apart_of_distinct {done rest : List (Path × String)} (h : Distinct (done ++ rest))
    {u : Path × String} (hu : u ∈ rest) :
    destination u.1 ∉ stagings done ++ targets done ∧
      stagingPlace u.1 ∉ stagings done ++ targets done := by
  have hsplit : Distinct (done ++ rest) ↔
      ((stagings done ++ stagings rest) ++ (targets done ++ targets rest)).Nodup := by
    unfold Distinct stagings targets
    rw [List.map_append, List.map_append]
  obtain ⟨hstagings, htargets, hcross⟩ := List.nodup_append.mp (hsplit.mp h)
  have hstaging := mem_stagings hu
  have htarget := mem_targets hu
  refine ⟨fun hmem => ?_, fun hmem => ?_⟩
  · obtain hmem | hmem := List.mem_append.mp hmem
    · exact hcross _ (List.mem_append_left _ hmem) _ (List.mem_append_right _ htarget) rfl
    · exact (List.nodup_append.mp htargets).2.2 _ hmem _ htarget rfl
  · obtain hmem | hmem := List.mem_append.mp hmem
    · exact (List.nodup_append.mp hstagings).2.2 _ hmem _ hstaging rfl
    · exact hcross _ (List.mem_append_right _ hstaging) _ (List.mem_append_left _ hmem) rfl

/-- Moving that is stopped leaves torn texts. -/
lemma torn_of_stopped {failure : StorageFailure} (htree : IsTree v) (h : Separate v texts)
    (hwrite : v.writeTexts texts = .error (failure, w)) {done rest : List (Path × String)}
    {t : Path × String} (hstopped : Stopped v w texts done t rest) : Torn v texts := by
  obtain ⟨rfl, x, hstage, hstaged, hdirectory, hswapped⟩ := hstopped
  have hkept : ∀ u ∈ done ++ t :: rest,
      x.entryAt? (destination u.1) = v.entryAt? (destination u.1) :=
    fun u hu => h.same hstage (List.Subset.refl _) hu
  have hfirst : ∀ u ∈ done, u ∈ done ++ t :: rest := fun u hu => List.mem_append_left _ hu
  have hlast : ∀ u ∈ t :: rest, u ∈ done ++ t :: rest := fun u hu => List.mem_append_right _ hu
  have hkeeps : KeepsDirectories v w := fun p hp => hswapped.alters.keeps p (hstage.keeps p hp)
  have htree' : IsTree w := hswapped.alters.tree (hstage.tree htree)
  refine ⟨done, t, rest, failure, w, rfl, ?_, hwrite, fun u hu => ⟨?_, ?_⟩, fun u hu => ?_⟩
  · rw [standing_eq htree (h.forward t (hlast t List.mem_cons_self)),
      ← hkept t (hlast t List.mem_cons_self)]
    exact hdirectory
  · rw [standing_eq htree (h.forward u (hfirst u hu)), ← hkept u (hfirst u hu)]
    exact hswapped.free u hu
  · exact (hswapped.holds u hu).standing
  · obtain ⟨htarget, hstaging⟩ := apart_of_distinct h.distinct hu
    have hforward := h.forward u (hlast u hu)
    refine ⟨?_, ((hstaged u (hlast u hu)).alters hswapped.alters hstaging).standing⟩
    rw [standing_eq htree' (goesForward_of_keeps hkeeps hforward), standing_eq htree hforward,
      hswapped.alters.same htarget (by simp)]
    exact hkept u (hlast u hu)

/-- Texts are written together all or none, unless a directory stands at one of the paths: then
they are torn there. -/
theorem allOrNone_or_torn (htree : IsTree v) (h : Separate v texts) :
    AllOrNone v texts ∨ Torn v texts := by
  unfold AllOrNone
  cases hwrite : v.writeTexts texts with
  | ok w =>
    left
    obtain ⟨halters, hholds, hgone⟩ := writeTexts_ok h.distinct hwrite
    intro t ht
    have hforward := goesForward_of_keeps halters.keeps (h.forward t ht)
    refine ⟨(hholds t ht).standing, ?_⟩
    rw [standing_staging (halters.tree htree) hforward]
    exact hgone t ht
  | error result =>
    obtain ⟨failure, w⟩ := result
    obtain hwithdrawn | ⟨done, t, rest, hstopped⟩ := writeTexts_error h.distinct hwrite
    · exact .inl fun t ht => unchanged_of_withdrawn htree h hwithdrawn ht
    · exact .inr (torn_of_stopped htree h hwrite hstopped)

/-- A workspace with a directory in the place of a letter. -/
def shelf : Workspace := ⟨[(⟨["drawer"]⟩, .directory)]⟩

/-- Two letters, the second one for the place of the directory. -/
def letters : List (Path × String) := [(⟨["lamp"]⟩, "lit"), (⟨["drawer"]⟩, "shut")]

lemma isTree_shelf : IsTree shelf := by
  refine isTree_of_entries fun entry hentry => ?_
  obtain rfl := List.mem_singleton.mp hentry
  exact entryAt?_of_isAbove (by decide)

lemma separate_letters (w : Workspace) : Separate w letters := by
  refine ⟨?_, ?_, ?_⟩
  · unfold Distinct
    decide
  · intro t _ hway
    have hnone : ways letters = [] := by decide
    rw [hnone] at hway
    exact absurd hway (by simp)
  · intro t ht
    refine goesForward_of_notMem ?_
    have hall : ∀ t ∈ letters, ".." ∉ t.1.names := by decide
    exact hall t ht

theorem allOrNone_or_torn_letters :
    IsTree shelf ∧ Separate shelf letters ∧ (AllOrNone shelf letters ∨ Torn shelf letters) :=
  ⟨isTree_shelf, separate_letters shelf,
    allOrNone_or_torn isTree_shelf (separate_letters shelf)⟩

/-- The first letter is written although the second one is not. -/
theorem letters_torn : ¬AllOrNone shelf letters := by
  intro h
  have hwritten : ∃ failure w, shelf.writeTexts letters = .error (failure, w) ∧
      standing w ⟨["lamp"]⟩ = some (.file (Text.encode "lit")) := ⟨_, _, rfl, rfl⟩
  obtain ⟨failure, w, hwrite, hlamp⟩ := hwritten
  unfold AllOrNone at h
  rw [hwrite] at h
  have hsame := (h (⟨["lamp"]⟩, "lit") List.mem_cons_self).1
  rw [hlamp] at hsame
  have hbefore : standing shelf ⟨["lamp"]⟩ = none := rfl
  rw [hbefore] at hsame
  exact absurd hsame (by simp)

end Gamebook.Proofs
