import Gamebook.Proofs.ChoiceGroups
import Gamebook.Proofs.Respacing
import Mathlib.Logic.Relation

/-!
# White space in tables

An author may add or remove white space at the ends of a cell, next to the colons of a token and
next to the bars between tokens, leave out blank cells and blank segments, and keep columns of their
own. No such edit changes the repeated ids, nor the story of the tables or what stops it, unless a
column comes or goes whose name has too long a number to be read.
-/

namespace Gamebook.Proofs

/-! ## Edits -/

/-- What a cell holds: a text that is taken as it stands, one token, or tokens between bars. -/
inductive CellForm where
  | plain
  | token
  | tokens
deriving DecidableEq

/-- The columns that a table has in any case. -/
def fixedForms : EntityKind → List (String × CellForm)
  | .node => [("id", .plain), ("type", .plain), ("text", .plain), ("image", .plain),
      ("onEnter", .tokens)]
  | .item => [("id", .plain), ("name", .plain), ("type", .plain), ("damage", .plain),
      ("attackBonus", .plain), ("acBonus", .plain), ("effect", .token),
      ("scalingAttribute", .plain), ("aoe", .plain)]
  | .enemy => [("id", .plain), ("name", .plain), ("hp", .plain), ("maxHp", .plain), ("ac", .plain),
      ("attackBonus", .plain), ("damage", .plain), ("xpReward", .plain)]
  | .encounter => [("id", .plain), ("name", .plain), ("enemies", .tokens), ("onVictory", .plain),
      ("onDefeat", .plain)]

def groupForms : List (String × CellForm) :=
  [("id", .plain), ("label", .plain), ("visibility", .tokens), ("mechanic", .token)]

/-- One or more digits, however many. A column with digits of another script is found but never
read, so it counts as a column of the author's own. -/
def DigitText (digits : String) : Prop :=
  digits ≠ "" ∧ DigitChars digits.toList

/-- The columns that have a meaning, with what their cells hold. -/
inductive ColumnForm (kind : EntityKind) : String → CellForm → Prop
  | fixed {column : String} {form : CellForm} (h : (column, form) ∈ fixedForms kind) :
      ColumnForm kind column form
  | group {digits field : String} {form : CellForm} (hdigits : DigitText digits)
      (h : (field, form) ∈ groupForms) : ColumnForm kind (groupColumn digits field) form

/-- An edit of a cell. A cell is nothing if the row has no such column, and it may hold nothing. -/
inductive CellEdit (kind : EntityKind) (column : String) :
    Option (Option String) → Option (Option String) → Prop
  | ends (s before after : String) (hbefore : Blank before.toList) (hafter : Blank after.toList) :
      CellEdit kind column (some (some s)) (some (some (before ++ s ++ after)))
  | emptied (s : String) (h : Blank s.toList) {cell : Option (Option String)}
      (hcell : cell ∈ [none, some none, some (some "")]) :
      CellEdit kind column (some (some s)) cell
  | colon {form : CellForm} (h : ColumnForm kind column form) (hform : form ≠ .plain)
      (s t before after : String) (hbefore : Blank before.toList) (hafter : Blank after.toList) :
      CellEdit kind column (some (some (s ++ ":" ++ t)))
        (some (some (s ++ before ++ ":" ++ after ++ t)))
  | bar (h : ColumnForm kind column .tokens) (s t before after : String)
      (hbefore : Blank before.toList) (hafter : Blank after.toList) :
      CellEdit kind column (some (some (s ++ "|" ++ t)))
        (some (some (s ++ before ++ "|" ++ after ++ t)))
  | segment (h : ColumnForm kind column .tokens) (front back : List String) (blank : String)
      (hblank : Blank blank.toList) :
      CellEdit kind column (some (some ("|".intercalate (front ++ back))))
        (some (some ("|".intercalate (front ++ blank :: back))))
  | other (h : ∀ form, ¬ColumnForm kind column form) (a b : Option (Option String)) :
      CellEdit kind column a b

def RowEdit (kind : EntityKind) (row row' : Row) : Prop :=
  ∃ column, CellEdit kind column (Entries.get? column row) (Entries.get? column row') ∧
    ∀ other ≠ column, Entries.get? other row' = Entries.get? other row

def Edit (t u : Tables) : Prop :=
  ∃ kind before row row' after, RowEdit kind row row' ∧
    t.rows kind = before ++ row :: after ∧ u.rows kind = before ++ row' :: after ∧
    ∀ other ≠ kind, u.rows other = t.rows other

/-! ## Rows that read the same -/

/-- The texts of two cells read the same. -/
def CellForm.Same : CellForm → String → String → Prop
  | plain, s, t => s = t
  | token, s, t => Token.ofText s = Token.ofText t ∧ (s = "" ↔ t = "")
  | tokens, s, t => cellTokens s = cellTokens t

def SameReading (kind : EntityKind) (row row' : Row) : Prop :=
  ∀ column form, ColumnForm kind column form → form.Same (row.cell column) (row'.cell column)

lemma CellForm.Same.refl (form : CellForm) (s : String) : form.Same s s := by
  cases form with
  | plain => exact rfl
  | token => exact ⟨rfl, Iff.rfl⟩
  | tokens => exact rfl

lemma CellForm.Same.of_eq {form : CellForm} {s t : String} (h : s = t) : form.Same s t :=
  h ▸ CellForm.Same.refl form s

lemma head?_groupColumn (digits field : String) :
    (groupColumn digits field).toList.head? = some 'c' := by
  simp [groupColumn]

lemma getLast?_groupColumn (digits : String) {field : String} (h : field.toList ≠ []) :
    (groupColumn digits field).toList.getLast? = field.toList.getLast? := by
  unfold groupColumn
  rw [String.toList_append, List.getLast?_append_of_ne_nil _ h]

lemma form_unique {kind : EntityKind} {column : String} {f g : CellForm}
    (hf : ColumnForm kind column f) (hg : ColumnForm kind column g) : f = g := by
  have hfixed : ∀ p ∈ fixedForms kind, ∀ q ∈ fixedForms kind, p.1 = q.1 → p.2 = q.2 := by
    cases kind <;> decide
  have hhead : ∀ p ∈ fixedForms kind, p.1.toList.head? ≠ some 'c' := by
    cases kind <;> decide
  have hlast : ∀ p ∈ groupForms, ∀ q ∈ groupForms,
      p.1.toList.getLast? = q.1.toList.getLast? → p.2 = q.2 := by decide
  have hne : ∀ p ∈ groupForms, p.1.toList ≠ [] := by decide
  cases hf with
  | fixed hf =>
    generalize hcolumn : column = other at hg
    cases hg with
    | fixed hg => exact hfixed _ hf _ hg hcolumn
    | group => exact absurd (hcolumn ▸ head?_groupColumn _ _) (hhead _ hf)
  | @group digits field _ _ hf =>
    generalize hcolumn : groupColumn digits field = other at hg
    cases hg with
    | fixed hg => exact absurd (hcolumn ▸ head?_groupColumn _ _) (hhead _ hg)
    | @group digits' field' _ _ hg =>
      have hends := congrArg (fun s => s.toList.getLast?) hcolumn
      rw [getLast?_groupColumn digits (hne _ hf), getLast?_groupColumn digits' (hne _ hg)] at hends
      exact hlast _ hf _ hg hends

def cellText : Option (Option String) → String
  | some (some s) => Text.trim s
  | _ => ""

lemma rowCell_eq (row : Row) (column : String) :
    row.cell column = cellText (Entries.get? column row) := by
  unfold Row.cell cellText
  rfl

lemma trim_ne_empty {s : String} {c : Char} (hc : c ∈ s.toList) (h : Text.isBlank c = false) :
    Text.trim s ≠ "" := by
  intro hempty
  have hnil : Text.trimBy Text.isBlank s.toList = [] := by
    rw [← String.toList_inj, Text.trim, String.toList_ofList] at hempty
    exact hempty
  have hall := List.all_eq_true.mp (trimBy_eq_nil_iff.mp hnil) c hc
  rw [h] at hall
  exact Bool.noConfusion hall

lemma same_colon {form : CellForm} (hform : form ≠ .plain) {before after : String}
    (hbefore : Blank before.toList) (hafter : Blank after.toList) (s t : String) :
    form.Same (Text.trim (s ++ ":" ++ t)) (Text.trim (s ++ before ++ ":" ++ after ++ t)) := by
  cases form with
  | plain => exact absurd rfl hform
  | token =>
    refine ⟨?_, iff_of_false ?_ ?_⟩
    · rw [token_trim, token_trim, token_respaced hbefore hafter]
    · exact trim_ne_empty (c := ':') (by simp) isBlank_colon
    · exact trim_ne_empty (c := ':') (by simp) isBlank_colon
  | tokens =>
    change cellTokens _ = cellTokens _
    rw [cellTokens_trim, cellTokens_trim, cellTokens_respaced hbefore hafter]

lemma same_tokens {s t : String} (h : Text.barSegments s = Text.barSegments t) :
    CellForm.tokens.Same (Text.trim s) (Text.trim t) := by
  change cellTokens _ = cellTokens _
  rw [cellTokens_trim, cellTokens_trim, cellTokens, h, cellTokens]

lemma same_of_cellEdit {kind : EntityKind} {column : String} {form : CellForm}
    {a b : Option (Option String)} (h : CellEdit kind column a b)
    (hform : ColumnForm kind column form) : form.Same (cellText a) (cellText b) := by
  cases h with
  | ends s before after hbefore hafter => exact .of_eq (trim_ends hbefore hafter s).symm
  | emptied s hblank hcell =>
    apply CellForm.Same.of_eq
    simp only [List.mem_cons, List.not_mem_nil, or_false] at hcell
    obtain rfl | rfl | rfl := hcell <;> exact trim_of_blank hblank
  | colon hcolumn hne s t before after hbefore hafter =>
    rw [form_unique hform hcolumn]
    exact same_colon hne hbefore hafter s t
  | bar hcolumn s t before after hbefore hafter =>
    rw [form_unique hform hcolumn]
    exact same_tokens (barSegments_respaced hbefore hafter s t).symm
  | segment hcolumn front back blank hblank =>
    rw [form_unique hform hcolumn]
    exact same_tokens (barSegments_segment hblank front back).symm
  | other hcolumn => exact absurd hform (hcolumn form)

lemma sameReading_refl (kind : EntityKind) (row : Row) : SameReading kind row row :=
  fun column form _ => .refl form (row.cell column)

lemma sameReading_of_rowEdit {kind : EntityKind} {row row' : Row} (h : RowEdit kind row row') :
    SameReading kind row row' := by
  obtain ⟨column, hedit, hother⟩ := h
  intro other form hform
  rw [rowCell_eq, rowCell_eq]
  by_cases hcolumn : other = column
  · subst hcolumn
    exact same_of_cellEdit hedit hform
  · rw [hother other hcolumn]
    exact .refl form _

/-! ## Compilations that end alike -/

section

variable {α β γ : Type}

/-- How a compilation ends: with a value, or with what stopped it. -/
def ending (c : Compiling α) : Except Halt α := c.run.value

lemma ending_bind (c : Compiling α) (f : α → Compiling β) : ending (c >>= f) =
    match ending c with
    | .ok a => ending (f a)
    | .error halt => .error halt := by
  unfold ending
  change (ExceptT.bindCont f c.run.value).value = _
  generalize c.run.value = r
  cases r <;> rfl

lemma ending_bind_congr {c d : Compiling α} {f g : α → Compiling β} (h : ending c = ending d)
    (hnext : ∀ a, ending (f a) = ending (g a)) : ending (c >>= f) = ending (d >>= g) := by
  rw [ending_bind, ending_bind, h]
  split
  · exact hnext _
  · rfl

lemma ending_map_congr {c d : Compiling α} (f : α → β) (h : ending c = ending d) :
    ending (f <$> c) = ending (f <$> d) := by
  rw [← bind_pure_comp, ← bind_pure_comp]
  exact ending_bind_congr h fun a => rfl

/-- Whatever stops the compilation has a property. -/
def StoppedBy (P : Halt → Prop) (c : Compiling α) : Prop := ∀ halt, ending c = .error halt → P halt

lemma stoppedBy_bind {P : Halt → Prop} {c : Compiling α} {f : α → Compiling β}
    (hc : StoppedBy P c) (hf : ∀ a, StoppedBy P (f a)) : StoppedBy P (c >>= f) := by
  intro halt h
  rw [ending_bind] at h
  split at h
  · exact hf _ halt h
  · rename_i hstop
    exact Except.error.inj h ▸ hc _ hstop

lemma stoppedBy_pure {P : Halt → Prop} (a : α) : StoppedBy P (pure a : Compiling α) := nofun

lemma stoppedBy_mapM {P : Halt → Prop} {f : α → Compiling β} (hf : ∀ a, StoppedBy P (f a))
    (l : List α) : StoppedBy P (l.mapM f) := by
  induction l with
  | nil => exact stoppedBy_pure []
  | cons a l ih =>
    rw [List.mapM_cons]
    exact stoppedBy_bind (hf a) fun _ => stoppedBy_bind ih fun _ => stoppedBy_pure _

lemma ending_mapM_congr {R : α → β → Prop} {f : α → Compiling γ} {g : β → Compiling γ}
    (hstep : ∀ a b, R a b → ending (f a) = ending (g b)) {l : List α} {m : List β}
    (h : List.Forall₂ R l m) : ending (l.mapM f) = ending (m.mapM g) := by
  induction h with
  | nil => rfl
  | cons hab _ ih =>
    rw [List.mapM_cons, List.mapM_cons]
    apply ending_bind_congr (hstep _ _ hab)
    intro c
    exact ending_bind_congr ih fun cs => rfl

end

/-! ## Rows in turn -/

section

variable {α : Type} {kind : EntityKind} {rows others : List Row} {row row' : Row}

lemma id_fixed (kind : EntityKind) : ("id", CellForm.plain) ∈ fixedForms kind := by
  cases kind <;> decide

lemma SameReading.plain (h : SameReading kind row row') (column : String)
    (hcolumn : (column, .plain) ∈ fixedForms kind) : row.cell column = row'.cell column :=
  h column .plain (.fixed hcolumn)

lemma forall₂_standings (h : List.Forall₂ (SameReading kind) rows others) (seen : List String) :
    List.Forall₂ (fun a b => a.1 = b.1 ∧ SameReading kind a.2 b.2) (standings seen rows)
      (standings seen others) := by
  induction h generalizing seen with
  | nil => exact .nil
  | @cons row row' rows others hrow _ ih =>
    have hid : row.id? = row'.id? := congrArg Filled.ofText? (hrow.plain "id" (id_fixed kind))
    rw [standings, standings, ← hid]
    cases row.id? with
    | none => exact .cons ⟨rfl, hrow⟩ (ih seen)
    | some id =>
      dsimp only
      split
      · exact .cons ⟨rfl, hrow⟩ (ih seen)
      · exact .cons ⟨rfl, hrow⟩ (ih _)

lemma firstRow_of_standing {id : Filled} (h : (.first id, row) ∈ standings [] rows) :
    FirstRow rows row :=
  (firstRow_of_mem (List.mem_filterMap.mpr ⟨_, h, rfl⟩)).2

lemma ending_compileRows_congr {compile : Filled → Row → Compiling α}
    (hcompile : ∀ id row row', FirstRow rows row → FirstRow others row' →
      SameReading kind row row' → ending (compile id row) = ending (compile id row'))
    (h : List.Forall₂ (SameReading kind) rows others) :
    ending (compileRows kind compile rows) = ending (compileRows kind compile others) := by
  have hstandings : List.Forall₂ (fun a b => ending (compileStanding kind compile a) =
      ending (compileStanding kind compile b)) (standings [] rows) (standings [] others) := by
    refine forall₂_of_mem (forall₂_standings h []) ?_
    rintro ⟨standing, row⟩ ha ⟨_, row'⟩ hb ⟨rfl, hrow⟩
    cases standing with
    | unidentified => rfl
    | repeated id => rfl
    | first id =>
      exact ending_map_congr some
        (hcompile id row row' (firstRow_of_standing ha) (firstRow_of_standing hb) hrow)
  unfold compileRows
  apply ending_bind_congr
  · exact ending_mapM_congr (fun _ _ hab => hab) hstandings
  · intro entities
    rfl

lemma stoppedBy_compileRows {P : Halt → Prop} {compile : Filled → Row → Compiling α}
    (h : ∀ id row, StoppedBy P (compile id row)) (rows : List Row) :
    StoppedBy P (compileRows kind compile rows) := by
  refine stoppedBy_bind (stoppedBy_mapM ?_ _) fun _ => stoppedBy_pure _
  rintro ⟨standing, row⟩
  cases standing with
  | unidentified => exact stoppedBy_bind nofun fun _ => stoppedBy_pure _
  | repeated id => exact stoppedBy_bind nofun fun _ => stoppedBy_pure _
  | first id =>
    change StoppedBy P (some <$> compile id row)
    rw [← bind_pure_comp]
    exact stoppedBy_bind (h id row) fun _ => stoppedBy_pure _

/-! ## Entities -/

lemma cell?_congr {column : String} (h : row.cell column = row'.cell column) :
    row.cell? column = row'.cell? column := by
  unfold Row.cell?
  rw [h]

lemma readable_eq {read : Token → Except TokenFault α} (s : String) :
    readable read s = (cellTokens s).filterMap fun t => (read t).toOption := by
  unfold readable cellTokens
  rw [List.filterMap_map]
  rfl

lemma readable_congr (read : Token → Except TokenFault α) {s t : String}
    (h : CellForm.tokens.Same s t) : readable read s = readable read t := by
  rw [readable_eq, readable_eq]
  exact congrArg _ h

lemma digitText_natText (slot : ℕ) : DigitText (natText slot) := by
  unfold DigitText natText
  rw [String.toList_ofList]
  refine ⟨fun hempty => ?_, digitChars_decimalDigits slot⟩
  rw [← String.toList_inj, String.toList_ofList] at hempty
  exact Nat.toDigits_ne_nil hempty

lemma SameReading.group (h : SameReading .node row row') (slot : ℕ) (field : String)
    (form : CellForm) (hfield : (field, form) ∈ groupForms) :
    form.Same (row.cell (choiceColumn slot field)) (row'.cell (choiceColumn slot field)) :=
  h _ form (.group (digitText_natText slot) hfield)

lemma choiceIn_congr (h : SameReading .node row row') (slot : ℕ) :
    choiceIn row slot = choiceIn row' slot := by
  have hid : row.cell _ = row'.cell _ := h.group slot "id" .plain (by decide)
  have hlabel : row.cell _ = row'.cell _ := h.group slot "label" .plain (by decide)
  have hmechanic := (h.group slot "mechanic" .token (by decide)).1
  have hvisibility := readable_congr Requirement.ofToken
    (h.group slot "visibility" .tokens (by decide))
  unfold choiceIn
  rw [hid, hlabel, hmechanic, hvisibility]

lemma choices_eq (row : Row) : (rowSlots row).filterMap (choiceIn row) =
    ((rowSlots row).filter fun slot => (choiceIn row slot).isSome).filterMap (choiceIn row) := by
  rw [List.filterMap_filter]
  apply List.filterMap_congr
  intro slot _
  cases choiceIn row slot <;> rfl

lemma choices_congr (h : SameReading .node row row') :
    (rowSlots row).filterMap (choiceIn row) = (rowSlots row').filterMap (choiceIn row') := by
  -- a blank cell that comes or goes changes the slots, but not those with a choice
  have hchoice : choiceIn row = choiceIn row' := funext (choiceIn_congr h)
  have hmem : ∀ (r : Row) slot, slot ∈ ((rowSlots r).filter fun s => (choiceIn r s).isSome) ↔
      (choiceIn r slot).isSome = true := by
    intro r slot
    rw [List.mem_filter]
    refine and_iff_right_of_imp fun hsome => ?_
    exact mem_rowSlots_of_cell (isSome_choiceIn.mp hsome).1
  have hslots : ((rowSlots row).filter fun s => (choiceIn row s).isSome) =
      (rowSlots row').filter fun s => (choiceIn row' s).isSome := by
    apply List.Pairwise.eq_of_mem_iff ((pairwise_rowSlots row).filter _)
      ((pairwise_rowSlots row').filter _)
    intro slot
    rw [hmem, hmem, hchoice]
  rw [choices_eq row, choices_eq row', hslots, hchoice]

lemma ending_nodeOfRow (id : Filled) (row : Row) : ending (Node.ofRow id row) =
    if ShortSlots row then .ok (Node.ofSlots id row (rowSlots row)).value
    else .error .oversized := by
  unfold Node.ofRow
  rw [choiceSlots_eq]
  split <;> rfl

lemma value_ofSlots (id : Filled) (row : Row) : (Node.ofSlots id row (rowSlots row)).value =
    { id
      type := row.cell "type"
      text := row.cell "text"
      image := row.cell? "image"
      onEnter := nonempty? (readable Action.ofToken (row.cell "onEnter"))
      choices := nonempty? ((rowSlots row).filterMap (choiceIn row)) } := by
  have hchoices : ((rowSlots row).mapM (Choice.ofSlot id.text row)).value.filterMap (fun c => c) =
      (rowSlots row).filterMap (choiceIn row) := by
    rw [value_mapM, List.filterMap_map]
    exact List.filterMap_congr fun slot _ => value_ofSlot id.text row slot
  rw [← hchoices, ← value_noteSegments .action]
  rfl

lemma ending_nodeOfRow_congr (h : SameReading .node row row') (id : Filled)
    (hshort : ShortSlots row) (hshort' : ShortSlots row') :
    ending (Node.ofRow id row) = ending (Node.ofRow id row') := by
  have honEnter := readable_congr Action.ofToken
    (h "onEnter" .tokens (.fixed (by decide)))
  rw [ending_nodeOfRow, ending_nodeOfRow, if_pos hshort, if_pos hshort', value_ofSlots,
    value_ofSlots, h.plain "type" (by decide), h.plain "text" (by decide),
    cell?_congr (h.plain "image" (by decide)), honEnter, choices_congr h]

lemma ending_parse_congr {s t : String} (h : Token.ofText s = Token.ofText t) :
    ending (Compiling.ofChecked (Action.parse s)) =
      ending (Compiling.ofChecked (Action.parse t)) := by
  have htoken : (Scalar.text s).token = (Scalar.text t).token := h
  rw [action_parse_eq]
  unfold readToken
  rw [htoken]
  split
  · rfl
  · change Except.ok _ = Except.ok _
    rw [value_noteFault, value_noteFault]

lemma ending_itemOfRow_congr (h : SameReading .item row row') (id : Filled) :
    ending (Item.ofRow id row) = ending (Item.ofRow id row') := by
  obtain ⟨htoken, hempty⟩ := h "effect" .token (.fixed (by decide))
  have hcell : ∀ column, (column, CellForm.plain) ∈ fixedForms .item →
      row.cell? column = row'.cell? column :=
    fun column hcolumn => cell?_congr (h.plain column hcolumn)
  unfold Item.ofRow Row.number?
  rw [hcell "name" (by decide), h.plain "type" (by decide), hcell "damage" (by decide),
    hcell "attackBonus" (by decide), hcell "acBonus" (by decide),
    hcell "scalingAttribute" (by decide), hcell "aoe" (by decide)]
  by_cases hnone : row.cell "effect" = ""
  · simp only [cell?_of_empty hnone, cell?_of_empty (hempty.mp hnone)]
  · have hsome : row'.cell "effect" ≠ "" := fun hnone' => hnone (hempty.mpr hnone')
    simp only [cell?_of_ne hnone, cell?_of_ne hsome]
    exact ending_bind_congr (ending_parse_congr htoken) fun effect => rfl

lemma enemyOfRow_congr (h : SameReading .enemy row row') (id : Filled) :
    Enemy.ofRow id row = Enemy.ofRow id row' := by
  unfold Enemy.ofRow Row.numberOr
  rw [cell?_congr (h.plain "name" (by decide)), h.plain "hp" (by decide),
    h.plain "ac" (by decide), h.plain "attackBonus" (by decide),
    h.plain "damage" (by decide), h.plain "xpReward" (by decide)]

lemma spawns_eq (s : String) :
    Spawn.parseCell (Scalar.text s) = (cellTokens s).filterMap Spawn.ofToken? := by
  unfold Spawn.parseCell cellTokens
  rw [segments_text, List.filterMap_map]
  rfl

lemma encounterOfRow_congr (h : SameReading .encounter row row') (id : Filled) :
    Encounter.ofRow id row = Encounter.ofRow id row' := by
  have hspawns : cellTokens _ = cellTokens _ := h "enemies" .tokens (.fixed (by decide))
  unfold Encounter.ofRow
  rw [cell?_congr (h.plain "name" (by decide)), spawns_eq, spawns_eq, hspawns,
    h.plain "onVictory" (by decide), h.plain "onDefeat" (by decide)]

end

/-! ## Tables -/

section

variable {t u : Tables}

/-- Two tables read the same. -/
def AgreeingTables (t u : Tables) : Prop :=
  ∀ kind, List.Forall₂ (SameReading kind) (t.rows kind) (u.rows kind)

lemma ending_compile_congr (h : AgreeingTables t u) (ht : ShortColumns t.nodes)
    (hu : ShortColumns u.nodes) : ending t.compile = ending u.compile := by
  rw [shortColumns_iff] at ht hu
  unfold Tables.compile
  apply ending_bind_congr
  · exact ending_compileRows_congr (fun id row row' hrow hrow' hsame =>
      ending_nodeOfRow_congr hsame id (ht row hrow) (hu row' hrow')) (h .node)
  intro nodes
  apply ending_bind_congr
  · exact ending_compileRows_congr (fun id _ _ _ _ hrow => ending_itemOfRow_congr hrow id)
      (h .item)
  intro items
  apply ending_bind_congr
  · apply ending_compileRows_congr _ (h .enemy)
    intro id row row' _ _ hrow
    rw [enemyOfRow_congr hrow id]
  intro enemies
  apply ending_bind_congr
  · apply ending_compileRows_congr _ (h .encounter)
    intro id row row' _ _ hrow
    rw [encounterOfRow_congr hrow id]
  intro encounters
  rfl

lemma stoppedBy_node (id : Filled) (row : Row) :
    StoppedBy (fun halt => halt = .oversized) (Node.ofRow id row) := by
  intro halt h
  rw [ending_nodeOfRow] at h
  split at h
  · cases h
  · exact (Except.error.inj h).symm

lemma stoppedBy_item (id : Filled) (row : Row) :
    StoppedBy (fun halt => halt ≠ .oversized) (Item.ofRow id row) := by
  have hparse : ∀ s : String, StoppedBy (fun halt => halt ≠ .oversized)
      (Compiling.ofChecked (Action.parse s)) := by
    intro s
    unfold Action.parse
    split
    · intro halt h
      rw [← Except.error.inj h]
      exact nofun
    · exact nofun
  unfold Item.ofRow
  cases row.cell? "effect" with
  | none => exact stoppedBy_bind (stoppedBy_pure _) fun _ => stoppedBy_pure _
  | some s => exact stoppedBy_bind (hparse s) fun _ => stoppedBy_pure _

/-- Such a column stops the compilation before anything else can. -/
lemma ending_oversized_iff : ending t.compile = .error .oversized ↔ ¬ShortColumns t.nodes := by
  rw [← exists_gives_nodes]
  unfold Tables.compile
  rw [ending_bind]
  cases hnodes : ending (compileRows .node Node.ofRow t.nodes) with
  | ok nodes =>
    refine iff_of_false (fun h => ?_) (not_not_intro ⟨nodes, hnodes⟩)
    refine stoppedBy_bind (P := fun halt => halt ≠ .oversized)
      (stoppedBy_compileRows stoppedBy_item _) (fun items => ?_) _ h rfl
    refine stoppedBy_bind (stoppedBy_compileRows (fun _ _ => stoppedBy_pure _) _) fun enemies => ?_
    exact stoppedBy_bind (stoppedBy_compileRows (fun _ _ => stoppedBy_pure _) _)
      fun encounters => stoppedBy_pure _
  | error halt =>
    have hhalt := stoppedBy_compileRows stoppedBy_node t.nodes halt hnodes
    refine iff_of_true (congrArg Except.error hhalt) ?_
    rintro ⟨nodes, hgives⟩
    exact absurd (hnodes.symm.trans hgives) nofun

lemma duplicates_congr (h : AgreeingTables t u) : t.duplicates = u.duplicates := by
  have hids : ∀ kind, (t.rows kind).map (fun row => row.cell "id") =
      (u.rows kind).map fun row => row.cell "id" := by
    intro kind
    have hrows := h kind
    generalize t.rows kind = rows, u.rows kind = others at hrows
    induction hrows with
    | nil => rfl
    | cons hrow _ ih => rw [List.map_cons, List.map_cons, hrow.plain "id" (id_fixed kind), ih]
  unfold Tables.duplicates RepeatedId.ofRows
  simp only [hids]

lemma agreeingTables_of_edit (h : Edit t u) : AgreeingTables t u := by
  intro kind
  have hrefl : ∀ rows : List Row, List.Forall₂ (SameReading kind) rows rows :=
    fun rows => List.forall₂_same.mpr fun row _ => sameReading_refl kind row
  obtain ⟨edited, before, row, row', after, hrow, ht, hu, hother⟩ := h
  by_cases hkind : kind = edited
  · subst hkind
    rw [ht, hu]
    exact List.rel_append (hrefl before) (.cons (sameReading_of_rowEdit hrow) (hrefl after))
  · rw [hother kind hkind]
    exact hrefl _

lemma CellForm.Same.symm {form : CellForm} {s t : String} (h : form.Same s t) : form.Same t s := by
  cases form with
  | plain => exact Eq.symm h
  | token => exact ⟨h.1.symm, h.2.symm⟩
  | tokens => exact Eq.symm h

lemma CellForm.Same.trans {form : CellForm} {r s t : String} (h : form.Same r s)
    (h' : form.Same s t) : form.Same r t := by
  cases form with
  | plain => exact Eq.trans h h'
  | token => exact ⟨h.1.trans h'.1, h.2.trans h'.2⟩
  | tokens => exact Eq.trans h h'

lemma forall₂_trans {α : Type} {R : α → α → Prop} (hR : ∀ a b c, R a b → R b c → R a c)
    {as bs cs : List α} (h : List.Forall₂ R as bs) (h' : List.Forall₂ R bs cs) :
    List.Forall₂ R as cs := by
  induction h generalizing cs with
  | nil => exact h'
  | cons hab _ ih =>
    obtain ⟨c, rest, hbc, hrest, rfl⟩ := List.forall₂_cons_left_iff.mp h'
    exact .cons (hR _ _ _ hab hbc) (ih hrest)

lemma agreeingTables_of_edits (h : Relation.EqvGen Edit t u) : AgreeingTables t u := by
  induction h with
  | rel t u h => exact agreeingTables_of_edit h
  | refl t => exact fun kind => List.forall₂_same.mpr fun row _ => sameReading_refl kind row
  | symm t u _ ih =>
    exact fun kind => (ih kind).flip.imp fun row row' hrow column form hform =>
      (hrow column form hform).symm
  | trans t u v _ _ ih ih' =>
    intro kind
    exact forall₂_trans (fun row row' row'' hrow hrow' column form hform =>
      (hrow column form hform).trans (hrow' column form hform)) (ih kind) (ih' kind)

/-- However often white space is edited in tables, back and forth, the same ids are reported as
repeated. The compilation ends with the same story or is stopped by the same thing, unless the one
has a choice column with too long a number in a row that counts and the other has not. -/
theorem whitespaceEdits_kept (h : Relation.EqvGen Edit t u) :
    (ending t.compile = ending u.compile ↔ (ShortColumns t.nodes ↔ ShortColumns u.nodes)) ∧
      t.duplicates = u.duplicates := by
  have hsame := agreeingTables_of_edits h
  refine ⟨?_, duplicates_congr hsame⟩
  constructor
  · intro hending
    rw [← not_iff_not, ← ending_oversized_iff, ← ending_oversized_iff, hending]
  · intro hshort
    by_cases ht : ShortColumns t.nodes
    · exact ending_compile_congr hsame ht (hshort.mp ht)
    · rw [ending_oversized_iff.mpr ht, ending_oversized_iff.mpr fun hu => ht (hshort.mpr hu)]

end

def nodeOnly (row : Row) : Tables := ⟨[row], [], [], []⟩

lemma edit_nodeOnly {row row' : Row} (h : RowEdit .node row row') :
    Edit (nodeOnly row) (nodeOnly row') := by
  refine ⟨.node, [], row, row', [], h, rfl, rfl, fun other hother => ?_⟩
  cases other with
  | node => exact absurd rfl hother
  | item | enemy | encounter => rfl

def entered (onEnter : String) (image : Option (Option String)) : Row :=
  [("id", some "inn"), ("onEnter", some onEnter)] ++ image.toList.map fun cell => ("image", cell)

lemma rowEdit_onEnter {s t : String} (image : Option (Option String))
    (h : CellEdit .node "onEnter" (some (some s)) (some (some t))) :
    RowEdit .node (entered s image) (entered t image) := by
  refine ⟨"onEnter", h, fun other hother => ?_⟩
  have hne : (other == "onEnter") = false := beq_eq_false_iff_ne.mpr hother
  simp [Entries.get?, entered, List.lookup_cons, hne]

/-- A space before a colon, a blank segment less and a blank cell less. -/
theorem whitespaceEdits_kept_inn :
    Relation.EqvGen Edit (nodeOnly (entered "heal:2||heal:3" (some (some " "))))
        (nodeOnly (entered "heal :2|heal:3" none)) ∧
      ending (nodeOnly (entered "heal:2||heal:3" (some (some " ")))).compile =
        ending (nodeOnly (entered "heal :2|heal:3" none)).compile ∧
      (nodeOnly (entered "heal:2||heal:3" (some (some " ")))).duplicates =
        (nodeOnly (entered "heal :2|heal:3" none)).duplicates := by
  have honEnter : ColumnForm .node "onEnter" .tokens := .fixed (by decide)
  have hnone : Blank "".toList := by decide
  have hsegment : CellEdit .node "onEnter" (some (some "heal:2|heal:3"))
      (some (some "heal:2||heal:3")) := .segment honEnter ["heal:2"] ["heal:3"] "" hnone
  have hcolon : CellEdit .node "onEnter" (some (some "heal:2|heal:3"))
      (some (some "heal :2|heal:3")) :=
    .colon honEnter (by decide) "heal" "2|heal:3" " " "" (by decide) hnone
  have himage : RowEdit .node (entered "heal :2|heal:3" (some (some " ")))
      (entered "heal :2|heal:3" none) := by
    refine ⟨"image", .emptied " " (by decide) (by decide), fun other hother => ?_⟩
    have hne : (other == "image") = false := beq_eq_false_iff_ne.mpr hother
    simp [Entries.get?, entered, List.lookup_cons, hne]
  have hedits : Relation.EqvGen Edit (nodeOnly (entered "heal:2||heal:3" (some (some " "))))
      (nodeOnly (entered "heal :2|heal:3" none)) := by
    apply Relation.EqvGen.trans _ (nodeOnly (entered "heal:2|heal:3" (some (some " "))))
    · exact .symm _ _ (.rel _ _ (edit_nodeOnly (rowEdit_onEnter _ hsegment)))
    apply Relation.EqvGen.trans _ (nodeOnly (entered "heal :2|heal:3" (some (some " "))))
    · exact .rel _ _ (edit_nodeOnly (rowEdit_onEnter _ hcolon))
    · exact .rel _ _ (edit_nodeOnly himage)
  have hshort : ∀ row, ShortSlots row → ShortColumns (nodeOnly row).nodes := by
    intro row hrow
    refine shortColumns_iff.mpr fun row' hfirst => ?_
    obtain rfl := List.mem_singleton.mp (List.mem_of_find?_eq_some hfirst.2)
    exact hrow
  obtain ⟨hending, hduplicates⟩ := whitespaceEdits_kept hedits
  exact ⟨hedits, hending.mpr (iff_of_true (hshort _ (by decide)) (hshort _ (by decide))),
    hduplicates⟩

lemma rowEdit_doorRow {column : String} (hid : column ≠ "id") (htype : column ≠ "type") :
    RowEdit .node (doorRow [column]) (doorRow []) := by
  have hid' : (column == "id") = false := beq_eq_false_iff_ne.mpr hid
  have htype' : (column == "type") = false := beq_eq_false_iff_ne.mpr htype
  refine ⟨column, ?_, fun other hother => ?_⟩
  · have hcell : Entries.get? column (doorRow [column]) = some (some "") := by
      simp [Entries.get?, doorRow, List.lookup_cons, hid', htype']
    rw [hcell]
    have hnone : Entries.get? column (doorRow []) = none := by
      simp [Entries.get?, doorRow, List.lookup_cons, hid', htype']
    rw [hnone]
    exact .emptied "" (by decide) (by decide)
  · have hne : (other == column) = false := beq_eq_false_iff_ne.mpr hother
    simp [Entries.get?, doorRow, List.lookup_cons, hne]

/-- A blank cell stops the compilation in a choice column with too long a number, but no cell at all
does not. -/
theorem blankColumn_stops :
    Relation.EqvGen Edit (nodeOnly (doorRow [longColumn])) (nodeOnly (doorRow [])) ∧
      (¬∃ s, Gives (nodeOnly (doorRow [longColumn])).compile s) ∧
      ∃ s, Gives (nodeOnly (doorRow [])).compile s := by
  have hhead : ∀ digits : String, ("choice" ++ digits ++ "_id").toList.head? = some 'c' := by
    simp
  have hid : longColumn ≠ "id" := fun heq =>
    absurd (heq ▸ hhead _ : "id".toList.head? = some 'c') (by decide)
  have htype : longColumn ≠ "type" := fun heq =>
    absurd (heq ▸ hhead _ : "type".toList.head? = some 'c') (by decide)
  refine ⟨.rel _ _ (edit_nodeOnly (rowEdit_doorRow hid htype)), fun h => ?_, _, rfl⟩
  exact not_shortColumns_doorRow (exists_gives_compile.mp h).1

end Gamebook.Proofs
