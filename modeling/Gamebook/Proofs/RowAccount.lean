import Gamebook.Proofs.CompiledStory
import Gamebook.Proofs.Edges

/-!
# Accounting for rows

Every row of a table gives the entity of its id, or it has no id, or it repeats the id of an earlier
row. The compiler tells these rows apart in one pass, the reports of repeated ids in another one;
both agree with the positions at which the ids first stand.
-/

namespace Gamebook.Proofs

/-! ## Positions -/

/-- The position of the first row with an id. -/
def firstPosition (rows : List Row) (id : String) : ℕ :=
  rows.findIdx fun row => row.cell "id" = id

/-- A row at a position has the id of an earlier row. -/
def Repeats (rows : List Row) (place : Row × ℕ) : Prop :=
  place.1.cell "id" ≠ "" ∧ firstPosition rows (place.1.cell "id") < place.2

instance (rows : List Row) : DecidablePred (Repeats rows) := fun _ =>
  inferInstanceAs (Decidable (_ ∧ _))

/-- A row at a position is not compiled. -/
def IsSkipped (rows : List Row) (place : Row × ℕ) : Prop :=
  place.1.cell "id" = "" ∨ Repeats rows place

instance (rows : List Row) : DecidablePred (IsSkipped rows) := fun _ =>
  inferInstanceAs (Decidable (_ ∨ _))

section

variable {before rows : List Row} {id : String}

lemma firstPosition_of_some (rows : List Row) {j : ℕ}
    (h : before.findIdx? (fun row => row.cell "id" = id) = some j) :
    firstPosition (before ++ rows) id = j ∧ j < before.length := by
  obtain ⟨hlt, hj⟩ := List.findIdx?_eq_some_iff_findIdx_eq.mp h
  unfold firstPosition
  rw [List.findIdx_append, hj, if_pos hlt]
  exact ⟨rfl, hlt⟩

lemma length_le_firstPosition (h : before.findIdx? (fun row => row.cell "id" = id) = none) :
    before.length ≤ firstPosition (before ++ rows) id := by
  have hnot : ¬before.findIdx (fun row => row.cell "id" = id) < before.length := by
    rw [List.findIdx_lt_length]
    rintro ⟨row, hrow, hid⟩
    rw [List.findIdx?_eq_none_iff.mp h row hrow] at hid
    exact Bool.false_ne_true hid
  unfold firstPosition
  rw [List.findIdx_append, if_neg hnot]
  omega

lemma findIdx?_snoc (before : List Row) (row : Row) (id : String) :
    (before ++ [row]).findIdx? (fun r => r.cell "id" = id) =
      (before.findIdx? fun r => r.cell "id" = id).or
        (if row.cell "id" = id then some before.length else none) := by
  rw [List.findIdx?_append]
  congr 1
  by_cases h : row.cell "id" = id <;> simp [h]

lemma repeats_iff {row : Row} (hid : row.cell "id" ≠ "") :
    Repeats (before ++ rows) (row, before.length) ↔
      (before.findIdx? fun r => r.cell "id" = row.cell "id").isSome = true := by
  rw [Repeats, and_iff_right hid]
  cases h : before.findIdx? fun r => r.cell "id" = row.cell "id" with
  | none =>
    have hle : before.length ≤ firstPosition (before ++ rows) (row.cell "id") :=
      length_le_firstPosition h
    simpa using hle
  | some j =>
    obtain ⟨hj, hlt⟩ := firstPosition_of_some rows h
    simpa [hj] using hlt

end

/-! ## Standings -/

/-- The standing of a row at a position. -/
def standingAt (rows : List Row) (place : Row × ℕ) : Standing × Row :=
  (match place.1.id? with
    | none => .unidentified
    | some id => if Repeats rows place then .repeated id else .first id, place.1)

section

variable {rows : List Row} {place : Row × ℕ}

lemma standingAt_unidentified (h : place.1.cell "id" = "") :
    standingAt rows place = (.unidentified, place.1) := by
  rw [standingAt, id?_eq_none h]

lemma standingAt_repeated (h : place.1.cell "id" ≠ "") (hrepeats : Repeats rows place) :
    standingAt rows place = (.repeated ⟨place.1.cell "id", h⟩, place.1) := by
  rw [standingAt, id?_eq_some h]
  simp only [if_pos hrepeats]

lemma standingAt_first (h : place.1.cell "id" ≠ "") (hrepeats : ¬Repeats rows place) :
    standingAt rows place = (.first ⟨place.1.cell "id", h⟩, place.1) := by
  rw [standingAt, id?_eq_some h]
  simp only [if_neg hrepeats]

end

/-- Those are the ids of the rows before. -/
def SeenBefore (seen : List String) (before : List Row) : Prop :=
  ∀ id, id ≠ "" → (id ∈ seen ↔ (before.findIdx? fun row => row.cell "id" = id).isSome = true)

namespace SeenBefore

variable {seen : List String} {before : List Row} {row : Row} (h : SeenBefore seen before)
include h

lemma unidentified (hid : row.cell "id" = "") : SeenBefore seen (before ++ [row]) := by
  intro id hne
  rw [h id hne, findIdx?_snoc, if_neg (hid ▸ hne.symm), Option.or_none]

lemma repeated (hmem : row.cell "id" ∈ seen) : SeenBefore seen (before ++ [row]) := by
  intro id hne
  rw [h id hne, findIdx?_snoc]
  by_cases heq : row.cell "id" = id
  · have hfound := (h id hne).mp (heq ▸ hmem)
    rw [if_pos heq, Option.isSome_or, hfound, Bool.true_or]
  · rw [if_neg heq, Option.or_none]

lemma first : SeenBefore (row.cell "id" :: seen) (before ++ [row]) := by
  intro id hne
  rw [List.mem_cons, h id hne, findIdx?_snoc, Option.isSome_or, Bool.or_eq_true, or_comm]
  refine or_congr_right ?_
  by_cases heq : id = row.cell "id"
  · simp [heq]
  · simp [heq, Ne.symm heq]

end SeenBefore

/-- One pass over the rows finds the standing that each has by its position. -/
lemma standings_eq {seen : List String} {before rows : List Row} (hseen : SeenBefore seen before) :
    standings seen rows = (rows.zipIdx before.length).map (standingAt (before ++ rows)) := by
  induction rows generalizing seen before with
  | nil => rfl
  | cons row rows ih =>
    -- The rest of the pass starts from what was seen up to this row, whatever its standing.
    have htail : ∀ seen', SeenBefore seen' (before ++ [row]) → standings seen' rows =
        (rows.zipIdx (before.length + 1)).map (standingAt (before ++ row :: rows)) := by
      intro seen' hseen'
      simpa using ih hseen'
    rw [List.zipIdx_cons, List.map_cons, standings]
    by_cases hid : row.cell "id" = ""
    · rw [standingAt_unidentified hid, id?_eq_none hid]
      dsimp only
      rw [htail seen (hseen.unidentified hid)]
    have hiff : row.cell "id" ∈ seen ↔ Repeats (before ++ row :: rows) (row, before.length) :=
      (hseen _ hid).trans (repeats_iff hid).symm
    rw [id?_eq_some hid]
    dsimp only
    by_cases hmem : row.cell "id" ∈ seen
    · rw [standingAt_repeated hid (hiff.mp hmem), if_pos (List.contains_iff_mem.mpr hmem),
        htail seen (hseen.repeated hmem)]
    · rw [standingAt_first hid (mt hiff.mpr hmem), if_neg (mt List.contains_iff_mem.mp hmem),
        htail _ hseen.first]

lemma standings_rows (rows : List Row) :
    standings [] rows = rows.zipIdx.map (standingAt rows) := by
  have h : standings [] rows =
      (rows.zipIdx ([] : List Row).length).map (standingAt ([] ++ rows)) :=
    standings_eq fun _ _ => by simp
  exact h

lemma firstRow?_standingAt (rows : List Row) (place : Row × ℕ) :
    (firstRow? (standingAt rows place)).isSome = decide ¬IsSkipped rows place := by
  unfold IsSkipped
  by_cases hid : place.1.cell "id" = ""
  · rw [standingAt_unidentified hid]
    simp [hid, firstRow?]
  · by_cases hrepeats : Repeats rows place
    · rw [standingAt_repeated hid hrepeats]
      simp [hrepeats, firstRow?]
    · rw [standingAt_first hid hrepeats]
      simp [hid, hrepeats, firstRow?]

/-! ## Repeated ids -/

/-- The report on a row at a position that repeats an id. -/
def repeatedAt (file : String) (rows : List Row) (place : Row × ℕ) : RepeatedId where
  id := place.1.cell "id"
  file := file
  row := place.2 + 2
  firstRow := firstPosition rows (place.1.cell "id") + 2

/-- Those are the ids of the rows before, with the numbers of their first rows. -/
def NumberedBefore (seen : Entries ℕ) (before : List Row) : Prop :=
  ∀ id, id ≠ "" → Entries.get? id seen =
    (before.findIdx? fun row => row.cell "id" = id).map (· + 2)

namespace NumberedBefore

variable {seen : Entries ℕ} {before : List Row} {row : Row} (h : NumberedBefore seen before)
include h

lemma unidentified (hid : row.cell "id" = "") : NumberedBefore seen (before ++ [row]) := by
  intro id hne
  rw [h id hne, findIdx?_snoc, if_neg (hid ▸ hne.symm), Option.or_none]

lemma repeated (hfind : (before.findIdx? fun r => r.cell "id" = row.cell "id").isSome = true) :
    NumberedBefore seen (before ++ [row]) := by
  intro id hne
  rw [h id hne, findIdx?_snoc]
  by_cases heq : row.cell "id" = id
  · obtain ⟨j, hj⟩ := Option.isSome_iff_exists.mp hfind
    rw [← heq, hj, Option.some_or]
  · rw [if_neg heq, Option.or_none]

lemma first (hfind : (before.findIdx? fun r => r.cell "id" = row.cell "id") = none) :
    NumberedBefore ((row.cell "id", before.length + 2) :: seen) (before ++ [row]) := by
  intro id hne
  rw [findIdx?_snoc, Entries.get?]
  by_cases heq : id = row.cell "id"
  · rw [heq, hfind, if_pos rfl, List.lookup_cons_self]
    rfl
  · rw [if_neg (Ne.symm heq), Option.or_none, ← h id hne, List.lookup_cons, beq_false_of_ne heq]
    rfl

end NumberedBefore

/-- One pass over the ids reports the rows that repeat an id by their positions. -/
lemma among_eq {file : String} {seen : Entries ℕ} {before rows : List Row}
    (hseen : NumberedBefore seen before) :
    RepeatedId.among file seen (before.length + 2) (rows.map fun row => row.cell "id") =
      ((rows.zipIdx before.length).filter fun place => Repeats (before ++ rows) place).map
        (repeatedAt file (before ++ rows)) := by
  induction rows generalizing seen before with
  | nil => rfl
  | cons row rows ih =>
    have htail : ∀ seen', NumberedBefore seen' (before ++ [row]) →
        RepeatedId.among file seen' (before.length + 2 + 1) (rows.map fun row => row.cell "id") =
          ((rows.zipIdx (before.length + 1)).filter fun place =>
            Repeats (before ++ row :: rows) place).map
              (repeatedAt file (before ++ row :: rows)) := by
      intro seen' hseen'
      have h := ih hseen'
      rw [List.length_append, List.length_singleton, List.append_assoc, List.singleton_append] at h
      rw [← h]
    rw [List.map_cons, List.zipIdx_cons, RepeatedId.among]
    by_cases hid : row.cell "id" = ""
    · have hnot : ¬Repeats (before ++ row :: rows) (row, before.length) := fun h => h.1 hid
      rw [if_pos hid, List.filter_cons_of_neg (by simpa using hnot),
        htail seen (hseen.unidentified hid)]
    have hiff : Repeats (before ++ row :: rows) (row, before.length) ↔ _ := repeats_iff hid
    rw [if_neg hid, hseen _ hid]
    cases hfind : before.findIdx? fun r => r.cell "id" = row.cell "id" with
    | none =>
      have hnot : ¬Repeats (before ++ row :: rows) (row, before.length) := by
        rw [hiff, hfind]
        simp
      rw [List.filter_cons_of_neg (by simpa using hnot)]
      exact htail _ (hseen.first hfind)
    | some j =>
      have hsome : (before.findIdx? fun r => r.cell "id" = row.cell "id").isSome = true := by
        rw [hfind]
        rfl
      obtain ⟨hj, -⟩ := firstPosition_of_some (row :: rows) hfind
      rw [List.filter_cons_of_pos (by simpa using hiff.mpr hsome), List.map_cons]
      dsimp only [Option.map_some]
      rw [htail seen (hseen.repeated hsome)]
      unfold repeatedAt
      rw [hj]

lemma repeatedIds_eq (file : String) (rows : List Row) :
    RepeatedId.ofRows file rows "id" =
      (rows.zipIdx.filter fun place => Repeats rows place).map (repeatedAt file rows) := by
  have h : RepeatedId.among file [] (([] : List Row).length + 2) (rows.map fun r => r.cell "id") =
      ((rows.zipIdx ([] : List Row).length).filter fun place => Repeats ([] ++ rows) place).map
        (repeatedAt file ([] ++ rows)) :=
    among_eq fun _ _ => rfl
  exact h

/-! ## Warnings of skipped rows -/

/-- The message tells that a row was skipped. -/
def TellsSkip (w : Warning) : Prop := "Skipped".toList <+: w.message.toList

instance : DecidablePred TellsSkip := fun _ => inferInstanceAs (Decidable (_ <+: _))

/-- The warning for a row that is not compiled. -/
def skipWarning (kind : EntityKind) (row : Row) : Warning :=
  if row.cell "id" = "" then .unidentified kind row.preview else .repeated kind (row.cell "id")

lemma start_append {s t : String} (u : String) (h : s.toList <+: t.toList) :
    s.toList <+: (t ++ u).toList := by
  rw [String.toList_append]
  exact h.trans (List.prefix_append _ _)

lemma head?_eq_of_start {s t u : String} (h : s.toList <+: (t ++ u).toList) (hs : s ≠ "")
    (ht : t ≠ "") : s.toList.head? = t.toList.head? := by
  have hsnil : s.toList ≠ [] := by simpa using hs
  have htnil : t.toList ≠ [] := by simpa using ht
  obtain ⟨c, cs, hc⟩ := List.exists_cons_of_ne_nil hsnil
  obtain ⟨d, ds, hd⟩ := List.exists_cons_of_ne_nil htnil
  rw [String.toList_append, hc, hd, List.cons_append, List.cons_prefix_cons] at h
  rw [hc, hd, List.head?_cons, List.head?_cons, h.1]

lemma tellsSkip_skipWarning (kind : EntityKind) (row : Row) :
    TellsSkip (skipWarning kind row) := by
  unfold skipWarning
  split
  · have hstart : "Skipped".toList <+: "Skipped ".toList := by decide
    exact start_append _ (start_append _ (start_append _ hstart))
  · have hstart : "Skipped".toList <+: "Skipped duplicate ".toList := by decide
    exact start_append _ (start_append _ (start_append _ (start_append _ hstart)))

lemma allows_notTellsSkip : AllowsCells fun w => ¬TellsSkip w where
  token kind fault token _ h := by
    have hmessage : ∃ rest, (Warning.token kind fault token).message =
        (Warning.speaker kind).1 ++ rest := by
      dsimp only [Warning.message]
      rw [String.append_assoc, String.append_assoc]
      exact ⟨_, rfl⟩
    obtain ⟨rest, hrest⟩ := hmessage
    rw [TellsSkip, hrest] at h
    have hhead := head?_eq_of_start h (by decide) (by cases kind <;> decide)
    cases kind <;> exact absurd hhead (by decide)
  droppedChoice node slot choice h := by
    have hmessage : ∃ rest, (Warning.droppedChoice node slot choice).message =
        "Node " ++ rest := by
      dsimp only [Warning.message]
      simp only [String.append_assoc]
      exact ⟨_, rfl⟩
    obtain ⟨rest, hrest⟩ := hmessage
    rw [TellsSkip, hrest] at h
    exact absurd (head?_eq_of_start h (by decide) (by decide)) (by decide)

section

variable {α β : Type}

lemma warnings_bind {c : Compiling α} {f : α → Compiling β} {a : α} (h : Gives c a) :
    (c >>= f).run.warnings = c.run.warnings ++ (f a).run.warnings := by
  change (ExceptT.run (ExceptT.bind c f)).warnings = _
  unfold ExceptT.bind ExceptT.mk ExceptT.run ExceptT.bindCont
  simp only [bind, Noted.bind]
  rw [show Noted.value c = .ok a from h]

lemma warnings_map (f : α → β) (c : Compiling α) : (f <$> c).run.warnings = c.run.warnings := by
  rw [← bind_pure_comp]
  change (ExceptT.run (ExceptT.bind c _)).warnings = _
  unfold ExceptT.bind ExceptT.mk ExceptT.run ExceptT.bindCont
  simp only [bind, Noted.bind]
  cases Noted.value c <;> exact List.append_nil _

lemma warnings_mapM {f : α → Compiling β} {l : List α} {bs : List β} (h : Gives (l.mapM f) bs) :
    (l.mapM f).run.warnings = l.flatMap fun a => (f a).run.warnings := by
  induction l generalizing bs with
  | nil => rfl
  | cons a l ih =>
    rw [List.mapM_cons] at h ⊢
    obtain ⟨b, hb, h⟩ := gives_bind h
    obtain ⟨rest, hrest, -⟩ := gives_bind h
    rw [warnings_bind hb, warnings_bind hrest, ih hrest, List.flatMap_cons]
    congr 1
    exact List.append_nil _

lemma flatMap_ite (p : α → Prop) [DecidablePred p] (f : α → β) (l : List α) :
    (l.flatMap fun x => if p x then [f x] else []) = (l.filter fun x => p x).map f := by
  induction l with
  | nil => rfl
  | cons x l ih =>
    rw [List.flatMap_cons, ih]
    by_cases hx : p x <;> simp [hx]

end

section

variable {α : Type} {kind : EntityKind} {compile : Filled → Row → Compiling α} {rows : List Row}

lemma skips_compileStanding (hcompile : ∀ id row, Warns (fun w => ¬TellsSkip w) (compile id row))
    (place : Row × ℕ) :
    (compileStanding kind compile (standingAt rows place)).run.warnings.filter
      (fun w => TellsSkip w) = if IsSkipped rows place then [skipWarning kind place.1] else [] := by
  have hskip := tellsSkip_skipWarning kind place.1
  by_cases hid : place.1.cell "id" = ""
  · have hskipped : IsSkipped rows place := .inl hid
    rw [skipWarning, if_pos hid] at hskip ⊢
    rw [if_pos hskipped, standingAt_unidentified hid]
    exact List.filter_cons_of_pos (decide_eq_true hskip)
  by_cases hrepeats : Repeats rows place
  · have hskipped : IsSkipped rows place := .inr hrepeats
    rw [skipWarning, if_neg hid] at hskip ⊢
    rw [if_pos hskipped, standingAt_repeated hid hrepeats]
    exact List.filter_cons_of_pos (decide_eq_true hskip)
  · have hskipped : ¬IsSkipped rows place := fun h => h.elim hid hrepeats
    rw [if_neg hskipped, standingAt_first hid hrepeats]
    have hwarnings : (compileStanding kind compile
        (.first ⟨place.1.cell "id", hid⟩, place.1)).run.warnings =
        (compile ⟨place.1.cell "id", hid⟩ place.1).run.warnings := warnings_map _ _
    rw [hwarnings, List.filter_eq_nil_iff]
    intro w hw
    simpa using hcompile _ _ w hw

lemma skips_compileRows (hcompile : ∀ id row, Warns (fun w => ¬TellsSkip w) (compile id row))
    {xs : List α} (h : Gives (compileRows kind compile rows) xs) :
    (compileRows kind compile rows).run.warnings.filter (fun w => TellsSkip w) =
      (rows.zipIdx.filter fun place => IsSkipped rows place).map fun place =>
        skipWarning kind place.1 := by
  unfold compileRows at h ⊢
  obtain ⟨os, hos, -⟩ := gives_bind h
  have hpure : (pure (os.filterMap id) : Compiling (List α)).run.warnings = [] := rfl
  rw [warnings_bind hos, hpure, List.append_nil, warnings_mapM hos, standings_rows,
    List.flatMap_map, List.filter_flatMap]
  simp only [skips_compileStanding hcompile]
  exact flatMap_ite _ _ _

end

/-! ## The account -/

lemma length_places (rows : List Row) (places : List (Row × ℕ)) :
    places.length = places.countP (fun place => ¬IsSkipped rows place) +
      places.countP (fun place => place.1.cell "id" = "") +
      places.countP fun place => Repeats rows place := by
  induction places with
  | nil => rfl
  | cons place places ih =>
    simp only [List.countP_cons, List.length_cons, ih, IsSkipped, not_or, decide_eq_true_eq]
    by_cases hid : place.1.cell "id" = ""
    · have hnot : ¬Repeats rows place := fun h => h.1 hid
      simp only [hid, hnot, not_true_eq_false, false_and, if_false, if_true]
      omega
    · by_cases hrepeats : Repeats rows place
      · simp only [hid, hrepeats, not_true_eq_false, and_false, if_false, if_true]
        omega
      · simp only [hid, hrepeats, not_false_eq_true, and_self, if_false, if_true]
        omega

lemma length_rows (file : String) (rows : List Row) :
    rows.length = (firstRows [] rows).length +
      (rows.filter fun row => row.cell "id" = "").length +
      (RepeatedId.ofRows file rows "id").length := by
  have hplaces := length_places rows rows.zipIdx
  have hfirst : (firstRows [] rows).length =
      rows.zipIdx.countP fun place => ¬IsSkipped rows place := by
    unfold firstRows
    rw [standings_rows, List.filterMap_map, List.length_filterMap_eq_countP]
    exact List.countP_congr fun place _ => by
      rw [Function.comp_apply, firstRow?_standingAt]
  have hblank : (rows.filter fun row => row.cell "id" = "").length =
      rows.zipIdx.countP fun place => place.1.cell "id" = "" := by
    rw [← List.countP_eq_length_filter]
    conv_lhs => rw [← List.zipIdx_map_fst 0 rows, List.countP_map]
    rfl
  rw [hfirst, hblank, repeatedIds_eq, List.length_map, ← List.countP_eq_length_filter]
  rw [List.length_zipIdx] at hplaces
  exact hplaces

/-- A report that the row at a position repeats the id of an earlier row. The header of the file is
row one. -/
structure RepeatReport (name : String) (rows : List Row) (place : Row × ℕ) (d : Diagnostic) :
    Prop where
  code : d.code = "DATA001"
  severity : d.severity = .warning
  file : d.file = some name
  row : d.row = some (place.2 + 2)
  context : d.context = some [("id", .string (place.1.cell "id")), ("file", .string name),
    ("firstRow", .int (firstPosition rows (place.1.cell "id") + 2))]

/-- Compiling the rows of a table accounts for each of them. -/
structure Accounted {α : Type} [Keyed α] (kind : EntityKind)
    (compile : Filled → Row → Compiling α) (rows : List Row) (xs : List α) : Prop where
  keys : (Collection.ofList xs).keys = rowIds rows
  entities : ∀ row, FirstRow rows row → ∃ x,
    (Collection.ofList xs).get? (row.cell "id") = some x ∧
      Gives (compileRows kind compile [row]) [x]
  reports : ∀ file, List.Forall₂ (RepeatReport file rows)
    (rows.zipIdx.filter fun place => Repeats rows place)
    ((RepeatedId.ofRows file rows "id").map RepeatedId.diagnostic)
  total : ∀ file, rows.length = (Collection.ofList xs).size +
    (rows.filter fun row => row.cell "id" = "").length +
    (RepeatedId.ofRows file rows "id").length
  skips : (compileRows kind compile rows).run.warnings.filter (fun w => TellsSkip w) =
    (rows.zipIdx.filter fun place => IsSkipped rows place).map fun place =>
      skipWarning kind place.1

section

variable {α : Type} {kind : EntityKind} {compile : Filled → Row → Compiling α} {rows : List Row}
  {xs : List α}

lemma gives_single {row : Row} {x : α} (hid : row.cell "id" ≠ "")
    (h : Gives (compile ⟨row.cell "id", hid⟩ row) x) :
    Gives (compileRows kind compile [row]) [x] := by
  rw [gives_compileRows_iff, firstRows_of_first hid List.not_mem_nil]
  exact .cons h .nil

lemma repeatReports (file : String) (rows : List Row) :
    List.Forall₂ (RepeatReport file rows) (rows.zipIdx.filter fun place => Repeats rows place)
      ((RepeatedId.ofRows file rows "id").map RepeatedId.diagnostic) := by
  rw [repeatedIds_eq, List.map_map, List.forall₂_map_right_iff, List.forall₂_same]
  intro place _
  exact ⟨rfl, rfl, rfl, rfl, rfl⟩

lemma accounted_of_gives [Keyed α] (h : Gives (compileRows kind compile rows) xs)
    (hkey : ∀ id row x, Gives (compile id row) x → Keyed.key x = id.text)
    (hwarns : ∀ id row, Warns (fun w => ¬TellsSkip w) (compile id row)) :
    Accounted kind compile rows xs := by
  have hforall := gives_compileRows_iff.mp h
  have hlist := toList_of_gives h hkey
  constructor
  case keys => exact (rowByRow_of_compileRows h hkey fun _ _ _ _ _ => trivial).keys
  case entities =>
    intro row hrow
    obtain ⟨id, hmem⟩ := mem_firstRows_of_firstRow hrow
    obtain ⟨hid, -⟩ := firstRow_of_mem hmem
    obtain ⟨x, hx, hgives⟩ := exists_of_forall₂ hforall.flip _ hmem
    rw [← hlist] at hx
    refine ⟨x, get?_eq_some.mpr ⟨hx, (hkey _ _ _ hgives).trans hid.symm⟩, gives_single hrow.1 ?_⟩
    cases id
    cases hid
    exact hgives
  case reports => exact fun file => repeatReports file rows
  case total =>
    intro file
    have hsize : (Collection.ofList xs).size = (firstRows [] rows).length := by
      unfold Collection.size
      rw [hlist]
      exact hforall.length_eq.symm
    rw [hsize]
    exact length_rows file rows
  case skips => exact skips_compileRows hwarns h

end

/-- Each of the four compilers accounts for every row: the distinct ids in the order in which they
first stand have the entities of their first rows, every later row with one of them is reported with
both row numbers, and whatever is not compiled is warned of once. -/
theorem rows_accounted (rows : List Row) :
    (∀ nodes, Gives (compileRows .node Node.ofRow rows) nodes →
      Accounted .node Node.ofRow rows nodes) ∧
    (∀ items, Gives (compileRows .item Item.ofRow rows) items →
      Accounted .item Item.ofRow rows items) ∧
    (∀ enemies, Gives (compileRows .enemy (fun id row => pure (Enemy.ofRow id row)) rows)
      enemies → Accounted .enemy (fun id row => pure (Enemy.ofRow id row)) rows enemies) ∧
    ∀ encounters, Gives (compileRows .encounter (fun id row => pure (Encounter.ofRow id row)) rows)
      encounters →
        Accounted .encounter (fun id row => pure (Encounter.ofRow id row)) rows encounters := by
  refine ⟨fun nodes h => ?_, fun items h => ?_, fun enemies h => ?_, fun encounters h => ?_⟩
  · exact accounted_of_gives h (fun _ _ _ => key_node) (warns_nodeOfRow allows_notTellsSkip)
  · exact accounted_of_gives h (fun _ _ _ => key_item) (warns_itemOfRow allows_notTellsSkip)
  · exact accounted_of_gives h (fun _ _ _ => key_enemy) fun _ _ => warns_pure _
  · exact accounted_of_gives h (fun _ _ _ => key_encounter) fun _ _ => warns_pure _

/-- Rows of two enemies, one of them twice, and a row without an id. -/
def batRows : List Row := [
  [("id", some " bat"), ("hp", some "2")], [("id", some " ")], [("id", some "rat")],
  [("id", some "bat\t"), ("hp", some "3")]]

theorem rows_accounted_batRows : ∃ enemies,
    Gives (compileRows .enemy (fun id row => pure (Enemy.ofRow id row)) batRows) enemies ∧
      enemies.map (fun e => e.id.text) = ["bat", "rat"] ∧
      Accounted .enemy (fun id row => pure (Enemy.ofRow id row)) batRows enemies := by
  have hgives : Gives (compileRows .enemy (fun id row => pure (Enemy.ofRow id row)) batRows)
      [Enemy.ofRow ⟨"bat", by decide⟩ [("id", some " bat"), ("hp", some "2")],
        Enemy.ofRow ⟨"rat", by decide⟩ [("id", some "rat")]] := rfl
  exact ⟨_, hgives, rfl, (rows_accounted batRows).2.2.1 _ hgives⟩

end Gamebook.Proofs
