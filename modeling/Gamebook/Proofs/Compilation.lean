import Gamebook.Proofs.RowRoundTrip

/-!
# Compilations

What a compilation gives and what it warns of, step by step. A table gives the entities of the rows
that are the first with their id, in their order; the other rows neither give anything nor stop
the compilation.
-/

namespace Gamebook.Proofs

/-! ## Values -/

section

variable {α β : Type}

/-- What a compilation ends with, if it does not stop. -/
def Gives (c : Compiling α) (a : α) : Prop := c.run.value = .ok a

lemma gives_bind {c : Compiling α} {f : α → Compiling β} {b : β} (h : Gives (c >>= f) b) :
    ∃ a, Gives c a ∧ Gives (f a) b := by
  unfold Gives at h ⊢
  change (ExceptT.run (ExceptT.bind c f)).value = .ok b at h
  unfold ExceptT.bind ExceptT.mk ExceptT.run ExceptT.bindCont at h
  simp only [bind, Noted.bind] at h
  split at h
  · rename_i a ha
    exact ⟨a, ha, h⟩
  · exact absurd h (by simp [pure, Noted.pure])

lemma gives_pure {a b : α} (h : Gives (pure a) b) : a = b := by
  have heq : (Except.ok a : Except Halt α) = .ok b := h
  exact Except.ok.inj heq

lemma gives_ofNoted {n : Noted α} {a : α} (h : Gives (Compiling.ofNoted n) a) : n.value = a := by
  have heq : (Except.ok n.value : Except Halt α) = .ok a := h
  exact Except.ok.inj heq

lemma gives_bind_iff {c : Compiling α} {f : α → Compiling β} {b : β} :
    Gives (c >>= f) b ↔ ∃ a, Gives c a ∧ Gives (f a) b := by
  refine ⟨gives_bind, ?_⟩
  rintro ⟨a, ha, hb⟩
  have hvalue : (c >>= f).run.value = (f a).run.value := by
    change (ExceptT.run (ExceptT.bind c f)).value = _
    unfold ExceptT.bind ExceptT.mk ExceptT.run ExceptT.bindCont
    simp only [bind, Noted.bind]
    rw [show Noted.value c = .ok a from ha]
  exact hvalue.trans hb

@[simp] lemma gives_pure_iff {a b : α} : Gives (pure a) b ↔ a = b :=
  ⟨gives_pure, fun h => h ▸ rfl⟩

@[simp] lemma gives_ofNoted_iff {n : Noted α} {a : α} :
    Gives (Compiling.ofNoted n) a ↔ n.value = a :=
  ⟨gives_ofNoted, fun h => h ▸ rfl⟩

lemma gives_map_iff {c : Compiling α} {f : α → β} {b : β} :
    Gives (f <$> c) b ↔ ∃ a, Gives c a ∧ f a = b := by
  rw [← bind_pure_comp, gives_bind_iff]
  exact exists_congr fun a => and_congr_right fun _ => gives_pure_iff

lemma gives_mapM_iff {f : α → Compiling β} {l : List α} {bs : List β} :
    Gives (l.mapM f) bs ↔ List.Forall₂ (fun a b => Gives (f a) b) l bs := by
  induction l generalizing bs with
  | nil => rw [List.mapM_nil, gives_pure_iff, List.forall₂_nil_left_iff, eq_comm]
  | cons a l ih =>
    rw [List.mapM_cons, gives_bind_iff, List.forall₂_cons_left_iff]
    constructor
    · rintro ⟨b, hb, h⟩
      obtain ⟨rest, hrest, h⟩ := gives_bind h
      exact ⟨b, rest, hb, ih.mp hrest, (gives_pure h).symm⟩
    · rintro ⟨b, rest, hb, hrest, rfl⟩
      exact ⟨b, hb, gives_bind_iff.mpr ⟨rest, ih.mpr hrest, rfl⟩⟩

lemma exists_forall₂_iff {R : α → β → Prop} {l : List α} :
    (∃ bs, List.Forall₂ R l bs) ↔ ∀ a ∈ l, ∃ b, R a b := by
  induction l with
  | nil => simp
  | cons a l ih =>
    rw [List.forall_mem_cons, ← ih]
    constructor
    · rintro ⟨_, h⟩
      obtain ⟨b, bs, hb, hbs, rfl⟩ := List.forall₂_cons_left_iff.mp h
      exact ⟨⟨b, hb⟩, bs, hbs⟩
    · rintro ⟨⟨b, hb⟩, bs, hbs⟩
      exact ⟨b :: bs, .cons hb hbs⟩

lemma value_mapM (f : α → Noted β) (l : List α) :
    (l.mapM f).value = l.map fun x => (f x).value := by
  induction l with
  | nil => rfl
  | cons x l ih =>
    rw [List.mapM_cons, List.map_cons, ← ih]
    rfl

end

/-! ## Warnings -/

section

variable {α β : Type} {P : Warning → Prop}

/-- All warnings that come with a value have a property. -/
def Notes (P : Warning → Prop) (n : Noted α) : Prop := ∀ w ∈ n.warnings, P w

lemma notes_bind {n : Noted α} {f : α → Noted β} (hn : Notes P n) (hf : Notes P (f n.value)) :
    Notes P (n >>= f) := by
  intro w hw
  rcases List.mem_append.mp hw with hw | hw
  · exact hn w hw
  · exact hf w hw

lemma notes_pure (a : α) : Notes P (pure a : Noted α) := fun _ hw => absurd hw List.not_mem_nil

lemma notes_warn {w : Warning} (h : P w) : Notes P (Noted.warn w) := by
  intro w' hw'
  rw [List.mem_singleton.mp hw']
  exact h

lemma notes_mapM {f : α → Noted β} (hf : ∀ a, Notes P (f a)) (l : List α) :
    Notes P (l.mapM f) := by
  induction l with
  | nil => exact notes_pure []
  | cons a l ih =>
    rw [List.mapM_cons]
    exact notes_bind (hf a) (notes_bind ih (notes_pure _))

/-- All warnings of a compilation have a property, those before it stops included. -/
def Warns (P : Warning → Prop) (c : Compiling α) : Prop := Notes P c.run

lemma warns_bind {c : Compiling α} {f : α → Compiling β} (hc : Warns P c)
    (hf : ∀ a, Warns P (f a)) : Warns P (c >>= f) := by
  have hnext : ∀ r : Except Halt α, Notes P (ExceptT.bindCont f r) := by
    intro r
    cases r with
    | ok a => exact hf a
    | error halt => exact notes_pure _
  exact notes_bind hc (hnext _)

lemma warns_pure (a : α) : Warns P (pure a : Compiling α) := notes_pure _

lemma warns_mapM {f : α → Compiling β} (hf : ∀ a, Warns P (f a)) (l : List α) :
    Warns P (l.mapM f) := by
  induction l with
  | nil => exact warns_pure []
  | cons a l ih =>
    rw [List.mapM_cons]
    exact warns_bind (hf a) fun b => warns_bind ih fun bs => warns_pure _

lemma warns_ofNoted {n : Noted α} (h : Notes P n) : Warns P (Compiling.ofNoted n) :=
  notes_bind h (notes_pure _)

end

/-! ## Rows in turn -/

/-- The row is the first one with its id. -/
def FirstRow (rows : List Row) (row : Row) : Prop :=
  row.cell "id" ≠ "" ∧ rows.find? (fun r => r.cell "id" = row.cell "id") = some row

/-- The ids of some rows, once each. -/
def rowIds (rows : List Row) : List String :=
  ((rows.map fun row => row.cell "id").filter (· ≠ "")).eraseDups

/-- The entities of a collection are those of the first rows. -/
structure RowByRow {α : Type} [Keyed α] (rows : List Row) (c : Collection α)
    (OfRow : Row → α → Prop) : Prop where
  keys : c.keys = rowIds rows
  each : ∀ x ∈ c.toList, ∃ row, FirstRow rows row ∧ OfRow row x

section

variable {α : Type} {kind : EntityKind} {compile : Filled → Row → Compiling α} {rows : List Row}

/-- A row that counts, with its id. -/
def firstRow? : Standing × Row → Option (Filled × Row)
  | (.first id, row) => some (id, row)
  | _ => none

/-- The rows that count after rows with the ids of `seen`. -/
def firstRows (seen : List String) (rows : List Row) : List (Filled × Row) :=
  (standings seen rows).filterMap firstRow?

lemma gives_compileStanding_none {s : Standing × Row} {o : Option α} (h : firstRow? s = none) :
    Gives (compileStanding kind compile s) o ↔ o = none := by
  obtain ⟨standing, row⟩ := s
  cases standing with
  | unidentified => exact ⟨fun h => (Except.ok.inj h).symm, fun h => h ▸ rfl⟩
  | repeated id => exact ⟨fun h => (Except.ok.inj h).symm, fun h => h ▸ rfl⟩
  | first id => simp [firstRow?] at h

lemma gives_compileStanding_some {s : Standing × Row} {o : Option α} {r : Filled × Row}
    (h : firstRow? s = some r) : Gives (compileStanding kind compile s) o ↔
      ∃ x, Gives (compile r.1 r.2) x ∧ some x = o := by
  obtain ⟨standing, row⟩ := s
  cases standing with
  | unidentified => simp [firstRow?] at h
  | repeated id => simp [firstRow?] at h
  | first id =>
    simp only [firstRow?, Option.some.injEq] at h
    rw [← h]
    exact gives_map_iff

lemma gives_standings_iff {l : List (Standing × Row)} {xs : List α} :
    (∃ os, List.Forall₂ (fun s o => Gives (compileStanding kind compile s) o) l os ∧
      os.filterMap id = xs) ↔
    List.Forall₂ (fun r x => Gives (compile r.1 r.2) x) (l.filterMap firstRow?) xs := by
  induction l generalizing xs with
  | nil => simp [eq_comm]
  | cons s l ih =>
    constructor
    · rintro ⟨os, hos, rfl⟩
      obtain ⟨o, rest, ho, hrest, rfl⟩ := List.forall₂_cons_left_iff.mp hos
      have htail := ih.mp ⟨rest, hrest, rfl⟩
      cases hs : firstRow? s with
      | none =>
        rw [List.filterMap_cons_none hs, (gives_compileStanding_none hs).mp ho]
        exact htail
      | some r =>
        obtain ⟨x, hx, rfl⟩ := (gives_compileStanding_some hs).mp ho
        rw [List.filterMap_cons_some hs]
        exact .cons hx htail
    · intro h
      cases hs : firstRow? s with
      | none =>
        rw [List.filterMap_cons_none hs] at h
        obtain ⟨os, hos, rfl⟩ := ih.mpr h
        exact ⟨none :: os, .cons ((gives_compileStanding_none hs).mpr rfl) hos, rfl⟩
      | some r =>
        rw [List.filterMap_cons_some hs] at h
        obtain ⟨x, rest, hx, hrest, rfl⟩ := List.forall₂_cons_left_iff.mp h
        obtain ⟨os, hos, rfl⟩ := ih.mpr hrest
        exact ⟨some x :: os, .cons ((gives_compileStanding_some hs).mpr ⟨x, hx, rfl⟩) hos, rfl⟩

lemma gives_compileRows_iff {xs : List α} : Gives (compileRows kind compile rows) xs ↔
    List.Forall₂ (fun r x => Gives (compile r.1 r.2) x) (firstRows [] rows) xs := by
  unfold compileRows firstRows
  rw [gives_bind_iff, ← gives_standings_iff]
  exact exists_congr fun os => and_congr gives_mapM_iff gives_pure_iff

lemma exists_gives_compileRows : (∃ xs, Gives (compileRows kind compile rows) xs) ↔
    ∀ r ∈ firstRows [] rows, ∃ x, Gives (compile r.1 r.2) x := by
  simp only [gives_compileRows_iff]
  exact exists_forall₂_iff

variable {seen : List String} {row : Row}

lemma id?_eq_none (h : row.cell "id" = "") : row.id? = none := dif_pos h

lemma id?_eq_some (h : row.cell "id" ≠ "") : row.id? = some ⟨row.cell "id", h⟩ := dif_neg h

lemma firstRows_of_unidentified (h : row.cell "id" = "") :
    firstRows seen (row :: rows) = firstRows seen rows := by
  unfold firstRows
  rw [standings, id?_eq_none h]
  exact List.filterMap_cons_none rfl

lemma firstRows_of_repeated (h : row.cell "id" ∈ seen) :
    firstRows seen (row :: rows) = firstRows seen rows := by
  by_cases hne : row.cell "id" = ""
  · exact firstRows_of_unidentified hne
  unfold firstRows
  rw [standings]
  simp only [id?_eq_some hne, List.contains_iff_mem.mpr h, if_true]
  exact List.filterMap_cons_none rfl

lemma firstRows_of_first (hne : row.cell "id" ≠ "") (h : row.cell "id" ∉ seen) :
    firstRows seen (row :: rows) =
      (⟨row.cell "id", hne⟩, row) :: firstRows (row.cell "id" :: seen) rows := by
  unfold firstRows
  rw [standings]
  have hfirst : ¬seen.contains (row.cell "id") = true := fun hseen =>
    h (List.contains_iff_mem.mp hseen)
  simp only [id?_eq_some hne, if_neg hfirst]
  exact List.filterMap_cons_some rfl

lemma ids_firstRows (seen : List String) (rows : List Row) :
    (firstRows seen rows).map (fun r => r.1.text) =
      (((rows.map fun row => row.cell "id").filter (· ≠ "")).filter (· ∉ seen)).eraseDups := by
  induction rows generalizing seen with
  | nil => rfl
  | cons row rows ih =>
    rw [List.map_cons]
    by_cases hempty : row.cell "id" = ""
    · rw [firstRows_of_unidentified hempty, ih, List.filter_cons_of_neg (by simp [hempty])]
    rw [List.filter_cons_of_pos (by simp [hempty])]
    by_cases hseen : row.cell "id" ∈ seen
    · rw [firstRows_of_repeated hseen, ih, List.filter_cons_of_neg (by simp [hseen])]
    · rw [firstRows_of_first hempty hseen, List.map_cons, ih,
        List.filter_cons_of_pos (by simp [hseen]), List.eraseDups_cons]
      generalize (rows.map fun row => row.cell "id").filter (· ≠ "") = ids
      rw [List.filter_filter]
      congr 2
      refine List.filter_congr fun id _ => ?_
      simp [not_or, beq_eq_decide]

lemma mem_firstRows {id : Filled} :
    (id, row) ∈ firstRows seen rows ↔ id.text ∉ seen ∧
      rows.find? (fun r => r.cell "id" = id.text) = some row := by
  induction rows generalizing seen with
  | nil => simp [firstRows, standings]
  | cons r rows ih =>
    by_cases hid : r.cell "id" = id.text
    · rw [List.find?_cons_of_pos (by simp [hid])]
      by_cases hseen : r.cell "id" ∈ seen
      · rw [firstRows_of_repeated hseen, ih]
        simp [← hid, hseen]
      · have hne : r.cell "id" ≠ "" := hid ▸ id.filled
        have hfilled : id = ⟨r.cell "id", hne⟩ := by
          obtain ⟨text, filled⟩ := id
          simp only [Filled.mk.injEq]
          exact hid.symm
        rw [firstRows_of_first hne hseen, List.mem_cons, ih]
        simp [hfilled, hseen, eq_comm]
    · rw [List.find?_cons_of_neg (by simp [hid])]
      by_cases hempty : r.cell "id" = ""
      · rw [firstRows_of_unidentified hempty, ih]
      by_cases hseen : r.cell "id" ∈ seen
      · rw [firstRows_of_repeated hseen, ih]
      · have hother : (id, row) ≠ (⟨r.cell "id", hempty⟩, r) := by
          intro heq
          exact hid (congrArg (fun x => x.1.text) heq).symm
        rw [firstRows_of_first hempty hseen, List.mem_cons, ih, List.mem_cons, not_or]
        simp [hother, Ne.symm hid, eq_comm]

lemma nodup_firstRows (seen : List String) (rows : List Row) :
    ((firstRows seen rows).map fun r => r.1.text).Nodup := by
  induction rows generalizing seen with
  | nil => exact List.nodup_nil
  | cons row rows ih =>
    by_cases hempty : row.cell "id" = ""
    · rw [firstRows_of_unidentified hempty]
      exact ih seen
    by_cases hseen : row.cell "id" ∈ seen
    · rw [firstRows_of_repeated hseen]
      exact ih seen
    rw [firstRows_of_first hempty hseen, List.map_cons, List.nodup_cons]
    refine ⟨?_, ih _⟩
    intro hmem
    obtain ⟨⟨id, r⟩, hr, hid⟩ := List.mem_map.mp hmem
    exact (mem_firstRows.mp hr).1 (List.mem_cons.mpr (.inl hid))

lemma firstRow_of_mem {id : Filled} (h : (id, row) ∈ firstRows [] rows) :
    row.cell "id" = id.text ∧ FirstRow rows row := by
  have hfind := (mem_firstRows.mp h).2
  have hid : row.cell "id" = id.text := by simpa using List.find?_some hfind
  refine ⟨hid, ?_, ?_⟩
  · rw [hid]
    exact id.filled
  · rw [hid]
    exact hfind

lemma mem_firstRows_of_firstRow (h : FirstRow rows row) : ∃ id, (id, row) ∈ firstRows [] rows :=
  ⟨⟨row.cell "id", h.1⟩, mem_firstRows.mpr ⟨List.not_mem_nil, h.2⟩⟩

lemma keys_of_forall₂ [Keyed α] {rs : List (Filled × Row)} {xs : List α}
    (h : List.Forall₂ (fun r x => Keyed.key x = r.1.text) rs xs) :
    xs.map Keyed.key = rs.map fun r => r.1.text := by
  induction h with
  | nil => rfl
  | cons hx _ ih => rw [List.map_cons, List.map_cons, hx, ih]

lemma exists_of_forall₂ {β γ : Type} {R : β → γ → Prop} {bs : List β} {cs : List γ}
    (h : List.Forall₂ R bs cs) : ∀ c ∈ cs, ∃ b ∈ bs, R b c := by
  induction h with
  | nil => simp
  | cons hbc _ ih =>
    intro c hc
    rcases List.mem_cons.mp hc with rfl | hc
    · exact ⟨_, List.mem_cons_self, hbc⟩
    · obtain ⟨b, hb, hR⟩ := ih c hc
      exact ⟨b, List.mem_cons_of_mem _ hb, hR⟩

lemma keys_of_gives [Keyed α] {xs : List α} (h : Gives (compileRows kind compile rows) xs)
    (hkey : ∀ id row x, Gives (compile id row) x → Keyed.key x = id.text) :
    xs.map Keyed.key = (firstRows [] rows).map fun r => r.1.text :=
  keys_of_forall₂ ((gives_compileRows_iff.mp h).imp fun r x hx => hkey r.1 r.2 x hx)

lemma toList_of_gives [Keyed α] {xs : List α} (h : Gives (compileRows kind compile rows) xs)
    (hkey : ∀ id row x, Gives (compile id row) x → Keyed.key x = id.text) :
    (Collection.ofList xs).toList = xs := by
  have hdistinct : (xs.map Keyed.key).Nodup := keys_of_gives h hkey ▸ nodup_firstRows [] rows
  exact congrArg Collection.toList (ofList_toList ⟨xs, hdistinct⟩)

lemma rowByRow_of_compileRows [Keyed α] {OfRow : Row → α → Prop} {xs : List α}
    (h : Gives (compileRows kind compile rows) xs)
    (hkey : ∀ id row x, Gives (compile id row) x → Keyed.key x = id.text)
    (hrow : ∀ id row x, row.cell "id" = id.text → Gives (compile id row) x → OfRow row x) :
    RowByRow rows (Collection.ofList xs) OfRow := by
  have hids := keys_of_gives h hkey
  have hlist := toList_of_gives h hkey
  refine ⟨?_, fun x hx => ?_⟩
  · rw [ids_firstRows, List.filter_eq_self.mpr (by simp)] at hids
    unfold Collection.keys
    rw [hlist]
    exact hids
  · rw [hlist] at hx
    obtain ⟨⟨id, row⟩, hr, hgives⟩ := exists_of_forall₂ (gives_compileRows_iff.mp h) x hx
    obtain ⟨hid, hfirst⟩ := firstRow_of_mem hr
    exact ⟨row, hfirst, hrow id row x hid hgives⟩

end

end Gamebook.Proofs
