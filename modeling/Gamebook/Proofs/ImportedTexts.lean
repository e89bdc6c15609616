import Gamebook.Desk.Bundle
import Gamebook.Proofs.Payloads
import Mathlib.Data.List.Forall2

/-!
# Texts of imported stories

The story of an imported package is the one that is given, with its free texts cleaned: nodes and
choices by their ids, texts and labels, the other entities by their names. Nothing else of an entity
is changed. A garbled text counts as it is shown, for cleaning may leave one that is not garbled.
-/

namespace Gamebook.Proofs

open Package Reader

variable {α β : Type}

/-! ## Results of readers -/

@[simp] lemma checked_map_eq_ok {f : α → β} {c : Checked α} {b : β} :
    f <$> c = .ok b ↔ ∃ a, c = .ok a ∧ f a = b := by
  cases c with
  | ok a =>
    change Checked.ok (f a) = .ok b ↔ _
    simp
  | refused problems =>
    change Checked.refused problems = .ok b ↔ _
    simp

@[simp] lemma seq_eq_ok {f : Checked (α → β)} {c : Checked α} {b : β} :
    f <*> c = .ok b ↔ ∃ g a, f = .ok g ∧ c = .ok a ∧ g a = b := by
  change Checked.both f c = .ok b ↔ _
  cases f <;> cases c <;> simp [Checked.both]

@[simp] lemma seqLeft_eq_ok {c : Checked α} {check : Checked Unit} {a : α} :
    c <* check = .ok a ↔ c = .ok a ∧ check = .ok () := by
  have hseq : (c <* check) = Function.const Unit <$> c <*> check := rfl
  rw [hseq, seq_eq_ok]
  constructor
  · rintro ⟨g, b, hg, hcheck, rfl⟩
    obtain ⟨a, ha, rfl⟩ := checked_map_eq_ok.mp hg
    exact ⟨ha, hcheck⟩
  · rintro ⟨ha, hcheck⟩
    exact ⟨Function.const Unit a, (), checked_map_eq_ok.mpr ⟨a, ha, rfl⟩, hcheck, rfl⟩

@[simp] lemma under_eq_ok {key : String} {c : Checked α} {a : α} :
    c.under key = .ok a ↔ c = .ok a := by
  cases c <;> simp [Checked.under]

lemma all_eq_ok {l : List (Checked α)} {as : List α} :
    Checked.all l = .ok as ↔ List.Forall₂ (fun c a => c = .ok a) l as := by
  induction l generalizing as with
  | nil =>
    rw [Checked.all, List.forall₂_nil_left_iff]
    exact ⟨fun h => (Checked.ok.inj h).symm, fun h => by rw [h]⟩
  | cons c l ih =>
    have hall : Checked.all (c :: l) = List.cons <$> c <*> Checked.all l := rfl
    rw [hall, seq_eq_ok]
    constructor
    · rintro ⟨g, rest, hg, hrest, rfl⟩
      obtain ⟨a, ha, rfl⟩ := checked_map_eq_ok.mp hg
      exact .cons ha (ih.mp hrest)
    · rintro (_ | ⟨ha, hrest⟩)
      exact ⟨_, _, checked_map_eq_ok.mpr ⟨_, ha, rfl⟩, ih.mpr hrest, rfl⟩

/-! ## Garbled texts -/

section

open Text

lemma map_shown_deletePiecesFrom (p : Pattern) (n : ℕ) (pieces : List Piece) :
    (deletePiecesFrom p n pieces).map Piece.shown = deleteFrom p n (pieces.map Piece.shown) := by
  induction pieces generalizing n with
  | nil =>
    cases n <;> rfl
  | cons piece pieces ih =>
    cases n with
    | succ n => exact ih n
    | zero =>
      rw [deletePiecesFrom, List.map_cons, deleteFrom]
      cases p (piece.shown :: pieces.map Piece.shown) with
      | zero => exact congrArg (piece.shown :: ·) (ih 0)
      | succ n => exact ih n

/-- Pieces are cleaned as the text that is shown for them. -/
@[simp] lemma map_shown_cleanPieces (pieces : List Piece) :
    (cleanPieces pieces).map Piece.shown = cleanChars (pieces.map Piece.shown) := by
  unfold cleanPieces cleanChars deletePieces delete
  simp only [map_shown_deletePiecesFrom]

lemma map_shown_of_charsOf? {pieces : List Piece} {cs : List Char} (h : charsOf? pieces = some cs) :
    pieces.map Piece.shown = cs := by
  unfold charsOf? at h
  induction pieces generalizing cs with
  | nil => exact Option.some.inj h
  | cons piece pieces ih =>
    rw [List.mapM_cons] at h
    cases piece with
    | surrogate n => exact absurd h (by simp [Piece.char?])
    | char c =>
      change (pieces.mapM Piece.char?).bind (fun rest => some (c :: rest)) = some cs at h
      obtain ⟨rest, hrest, hcs⟩ := Option.bind_eq_some_iff.mp h
      obtain rfl := Option.some.inj hcs
      exact congrArg (c :: ·) (ih hrest)

/-- Pieces are a text, which is shown as it is, or they stay garbled. -/
lemma ofPieces_cases (pieces : List Piece) :
    (∃ s, Json.ofPieces pieces = .string s ∧ s.toList = pieces.map Piece.shown) ∨
      ∃ g, Json.ofPieces pieces = .garbled g ∧ g.pieces = pieces := by
  unfold Json.ofPieces Text.textOf
  split
  · rename_i s hs
    split at hs
    · rename_i cs hcs
      obtain rfl := Except.ok.inj hs
      exact .inl ⟨_, rfl, by rw [String.toList_ofList, map_shown_of_charsOf? hcs]⟩
    · cases hs
  · rename_i g hg
    split at hg
    · cases hg
    · obtain rfl := Except.error.inj hg
      exact .inr ⟨_, rfl, rfl⟩

@[simp] lemma toList_cleanText (text : String) : (cleanText text).toList = cleanChars text.toList :=
  String.toList_ofList

lemma cleanValue_garbled (g : Garbled) :
    cleanValue (.garbled g) = .string (cleanText g.shown) ∨
      ∃ h, cleanValue (.garbled g) = .garbled h := by
  rcases ofPieces_cases (cleanPieces g.pieces) with ⟨s, hs, hshown⟩ | ⟨h, hh, -⟩
  · refine .inl (hs.trans (congrArg Json.string ?_))
    rw [← String.toList_inj, hshown, map_shown_cleanPieces, toList_cleanText, Garbled.shown,
      String.toList_ofList]
  · exact .inr ⟨h, hh⟩

/-- A garbled text as it is shown. -/
def shownText : Json → Json
  | .garbled g => .string g.shown
  | j => j

end

/-! ## Readers of changed values -/

/-- What is read from a value that is changed in one way is related to what is read from the value
changed in the other way. -/
def Follows (read : Reader α) (before after : Json → Json) (R : α → α → Prop) : Prop :=
  ∀ j a, read (after j) = .ok a → ∃ given, read (before j) = .ok given ∧ R given a

variable {read : Reader α} {before after : Json → Json} {R : α → α → Prop}

lemma follows_id (read : Reader α) : Follows read id id Eq := fun _ a h => ⟨a, h, rfl⟩

lemma follows_string : Follows string shownText cleanValue fun given s => s = cleanText given := by
  intro j s h
  cases j with
  | string given => exact ⟨given, rfl, (Checked.ok.inj h).symm⟩
  | garbled g =>
    rcases cleanValue_garbled g with hclean | ⟨g', hclean⟩
    · rw [hclean] at h
      exact ⟨g.shown, rfl, (Checked.ok.inj h).symm⟩
    · rw [hclean] at h
      exact absurd h (by simp [string, Checked.fail])
  | _ => exact absurd h (by simp [string, cleanValue, Checked.fail])

@[simp] lemma cleanText_empty : cleanText "" = "" := by decide

@[simp] lemma filled_string_eq_ok {s : String} {t : Filled} :
    filled (.string s) = .ok t ↔ t.text = s := by
  unfold filled Filled.ofText?
  dsimp only
  by_cases hs : s = ""
  · rw [dif_pos hs]
    exact iff_of_false (by simp [Checked.fail]) fun ht => t.filled (ht.trans hs)
  · rw [dif_neg hs]
    constructor
    · rintro h
      obtain rfl := Checked.ok.inj h
      rfl
    · rintro rfl
      rfl

lemma follows_filled :
    Follows filled shownText cleanValue fun given t => t.text = cleanText given.text := by
  -- A text that is empty is cleaned to one that is empty.
  have hshown : ∀ (s : String) (t : Filled), filled (.string (cleanText s)) = .ok t →
      ∃ given, filled (.string s) = .ok given ∧ t.text = cleanText given.text := by
    intro s t h
    have htext : t.text = cleanText s := filled_string_eq_ok.mp h
    have hne : s ≠ "" := by
      rintro rfl
      exact t.filled (htext.trans cleanText_empty)
    exact ⟨⟨s, hne⟩, filled_string_eq_ok.mpr rfl, htext⟩
  intro j t h
  cases j with
  | string s => exact hshown s t h
  | garbled g =>
    rcases cleanValue_garbled g with hclean | ⟨g', hclean⟩
    · rw [hclean] at h
      exact hshown g.shown t h
    · rw [hclean] at h
      exact absurd h (by simp [filled, Checked.fail])
  | _ => exact absurd h (by simp [filled, cleanValue, Checked.fail])

lemma nullable_eq {j : Json} (h : j ≠ .null) : nullable read j = some <$> read j := by
  cases j <;> first | rfl | exact absurd rfl h

/-- Only `null` is changed to `null`. -/
def KeepsNull (change : Json → Json) : Prop := ∀ j, change j = .null ↔ j = .null

lemma follows_nullable (h : Follows read before after R) (hbefore : KeepsNull before)
    (hafter : KeepsNull after) : Follows (nullable read) before after (Option.Rel R) := by
  intro j o ho
  by_cases hj : j = .null
  · rw [(hafter j).mpr hj] at ho
    obtain rfl := Checked.ok.inj ho
    exact ⟨none, by rw [(hbefore j).mpr hj]; rfl, .none⟩
  · rw [nullable_eq fun hchange => hj ((hafter j).mp hchange)] at ho
    obtain ⟨a, ha, rfl⟩ := checked_map_eq_ok.mp ho
    obtain ⟨given, hgiven, hR⟩ := h j a ha
    refine ⟨some given, ?_, .some hR⟩
    rw [nullable_eq fun hchange => hj ((hbefore j).mp hchange)]
    exact checked_map_eq_ok.mpr ⟨given, hgiven, rfl⟩

lemma keepsNull_shownText : KeepsNull shownText := by
  intro j
  cases j <;> simp [shownText]

lemma keepsNull_cleanValue : KeepsNull cleanValue := by
  intro j
  cases j with
  | garbled g => rcases cleanValue_garbled g with h | ⟨g', h⟩ <;> simp [h]
  | _ => simp [cleanValue]

lemma keepsNull_onItems (f : Json → Json) : KeepsNull (onItems f) := by
  intro j
  cases j <;> simp [onItems]

/-! ## Lists and objects -/

lemma forall₂_mapIdx {f : ℕ → Json → Checked α} (h : ∀ i j a, f i j = .ok a ↔ read j = .ok a)
    {items : List Json} {as : List α} :
    List.Forall₂ (fun c a => c = .ok a) (items.mapIdx f) as ↔
      List.Forall₂ (fun j a => read j = .ok a) items as := by
  induction items generalizing f as with
  | nil => simp
  | cons j items ih =>
    rw [List.mapIdx_cons]
    constructor
    · rintro (_ | ⟨ha, hrest⟩)
      exact .cons ((h 0 j _).mp ha) ((ih fun i j a => h (i + 1) j a).mp hrest)
    · rintro (_ | ⟨ha, hrest⟩)
      exact .cons ((h 0 j _).mpr ha) ((ih fun i j a => h (i + 1) j a).mpr hrest)

lemma list_eq_ok {items : List Json} {as : List α} :
    list read (.array items) = .ok as ↔ List.Forall₂ (fun j a => read j = .ok a) items as := by
  unfold Reader.list
  rw [all_eq_ok]
  exact forall₂_mapIdx fun _ _ _ => under_eq_ok

/-- The reader refuses the value of a field with a garbled key. -/
def RefusesKeyed (read : Reader α) : Prop := ∀ g j a, read (.keyed g j) ≠ .ok a

lemma refusesKeyed_fields (read : Entries Json → Checked α) : RefusesKeyed (Reader.fields read) :=
  fun _ _ _ h => absurd h (by simp [Reader.fields, Checked.fail])

lemma refused_seqLeft (problems : List Problem) (check : Checked β) (a : α) :
    (Checked.refused problems <* check) ≠ .ok a := by
  cases check <;> nofun

lemma entry_keyed_ne_ok (read : Reader α) (key : String) (g : Text.Garbled) (j : Json)
    (entry : String × α) : read.entry (key, .keyed g j) ≠ .ok entry :=
  refused_seqLeft [⟨[key, "[key]"], .notUnicode⟩] ((read j).under key) entry

lemma entry_eq_ok (hrefuses : RefusesKeyed read) {field : String × Json} {entry : String × α} :
    read.entry field = .ok entry ↔ field.1 = entry.1 ∧ read field.2 = .ok entry.2 := by
  obtain ⟨key, j⟩ := field
  have hplain : (((read j).under key).map (Prod.mk key) = .ok entry) ↔
      key = entry.1 ∧ read j = .ok entry.2 := by
    refine checked_map_eq_ok.trans ⟨?_, ?_⟩
    · rintro ⟨a, ha, rfl⟩
      exact ⟨rfl, under_eq_ok.mp ha⟩
    · rintro ⟨rfl, ha⟩
      exact ⟨entry.2, under_eq_ok.mpr ha, rfl⟩
  cases j with
  | keyed g j =>
    exact iff_of_false (entry_keyed_ne_ok read key g j entry) fun h => hrefuses g j entry.2 h.2
  | _ => exact hplain

lemma map_eq_ok_object (hrefuses : RefusesKeyed read) {fields : Entries Json}
    {entries : List (String × α)} :
    Reader.map read (.object fields) = .ok entries ↔
      List.Forall₂ (fun field entry => field.1 = entry.1 ∧ read field.2 = .ok entry.2)
        fields entries := by
  unfold Reader.map
  rw [all_eq_ok, List.forall₂_map_left_iff]
  exact ⟨fun h => h.imp fun _ _ => (entry_eq_ok hrefuses).mp,
    fun h => h.imp fun _ _ => (entry_eq_ok hrefuses).mpr⟩

lemma exists_forall₂ {γ δ : Type} {P : γ → α → Prop} {Q : α → δ → Prop} {l : List γ} {m : List δ}
    (h : List.Forall₂ (fun c d => ∃ a, P c a ∧ Q a d) l m) :
    ∃ as, List.Forall₂ P l as ∧ List.Forall₂ Q as m := by
  induction h with
  | nil => exact ⟨[], .nil, .nil⟩
  | cons hhead _ ih =>
    obtain ⟨a, hP, hQ⟩ := hhead
    obtain ⟨as, hPs, hQs⟩ := ih
    exact ⟨a :: as, .cons hP hPs, .cons hQ hQs⟩

lemma follows_list (h : Follows read before after R) :
    Follows (list read) (onItems before) (onItems after) (List.Forall₂ R) := by
  intro j as has
  cases j with
  | array items =>
    have hitems := List.forall₂_map_left_iff.mp (list_eq_ok.mp has)
    obtain ⟨givens, hread, hR⟩ := exists_forall₂ (hitems.imp fun j a => h j a)
    exact ⟨givens, list_eq_ok.mpr (List.forall₂_map_left_iff.mpr hread), hR⟩
  | _ => exact absurd has (by simp [list, onItems, Checked.fail])

/-- Entries with the same keys and related values. -/
def EntriesRelated (R : α → α → Prop) (given entries : List (String × α)) : Prop :=
  List.Forall₂ (fun g e => g.1 = e.1 ∧ R g.2 e.2) given entries

/-- A value is changed as it is, or it stands under a garbled key and goes on doing so. -/
lemma underKey_cases (j : Json) :
    (∀ f, underKey f j = f j) ∨ ∃ g value, ∀ f, underKey f j = .keyed g (f value) := by
  cases j with
  | keyed g value => exact .inr ⟨g, value, fun _ => rfl⟩
  | _ => exact .inl fun _ => rfl

lemma follows_map (hrefuses : RefusesKeyed read) (h : Follows read before after R) :
    Follows (Reader.map read) (onValues before) (onValues after) (EntriesRelated R) := by
  intro j entries hentries
  cases j with
  | object fields =>
    have hfields := List.forall₂_map_left_iff.mp ((map_eq_ok_object hrefuses).mp hentries)
    have hgivens : List.Forall₂ (fun (field : String × Json) (entry : String × α) =>
        ∃ given : String × α,
          (field.1 = given.1 ∧ read (underKey before field.2) = .ok given.2) ∧
          given.1 = entry.1 ∧ R given.2 entry.2) fields entries := by
      refine hfields.imp fun field entry hfield => ?_
      obtain ⟨key, j⟩ := field
      obtain ⟨hkey, ha⟩ := hfield
      dsimp only at ha ⊢
      rcases underKey_cases j with hunder | ⟨g, value, hunder⟩
      · rw [hunder] at ha
        obtain ⟨given, hgiven, hR⟩ := h j entry.2 ha
        exact ⟨(entry.1, given), ⟨hkey, by rw [hunder]; exact hgiven⟩, rfl, hR⟩
      · rw [hunder] at ha
        exact absurd ha (hrefuses g _ _)
    obtain ⟨givens, hread, hR⟩ := exists_forall₂ hgivens
    exact ⟨givens, (map_eq_ok_object hrefuses).mpr (List.forall₂_map_left_iff.mpr hread), hR⟩
  | _ => exact absurd hentries (by simp [Reader.map, onValues, Checked.fail])

/-! ## Fields -/

/-- The fields with their values changed, each under its own name. -/
def onEntries (change : String → Json → Json) (fields : Entries Json) : Entries Json :=
  fields.map fun field => (field.1, change field.1 field.2)

variable {befores afters changes : String → Json → Json} {fields : Entries Json} {name : FieldName}

@[simp] lemma get?_onEntries (key : String) :
    Entries.get? key (onEntries changes fields) = (Entries.get? key fields).map (changes key) := by
  unfold Entries.get? onEntries
  induction fields with
  | nil => rfl
  | cons field fields ih =>
    obtain ⟨k, j⟩ := field
    rw [List.map_cons, List.lookup_cons, List.lookup_cons]
    by_cases hk : key = k
    · subst hk
      simp
    · have hbeq : (key == k) = false := beq_eq_false_iff_ne.mpr hk
      rw [hbeq]
      exact ih

@[simp] lemma keyIn?_onEntries : name.keyIn? (onEntries changes fields) = name.keyIn? fields := by
  unfold FieldName.keyIn?
  rw [get?_onEntries, get?_onEntries, Option.isSome_map, Option.isSome_map]

@[simp] lemma noOthers_onEntries {names : List FieldName} :
    noOthers (onEntries changes fields) names = noOthers fields names := by
  have hkeys : Entries.keys (onEntries changes fields) = Entries.keys fields := by
    unfold Entries.keys onEntries
    rw [List.map_map]
    rfl
  unfold noOthers
  simp only [keyIn?_onEntries, hkeys]

lemma follows_key {key : String}
    (hcamel : Follows read (befores name.camel) (afters name.camel) R)
    (hsnake : Follows read (befores name.snake) (afters name.snake) R)
    (hkey : name.keyIn? fields = some key) {a : α}
    (hread : read ((Entries.get? key (onEntries afters fields)).getD .null) = .ok a) :
    ∃ given, read ((Entries.get? key (onEntries befores fields)).getD .null) = .ok given ∧
      R given a := by
  have hthere : (Entries.get? key fields).isSome ∧ Follows read (befores key) (afters key) R := by
    unfold FieldName.keyIn? at hkey
    split at hkey
    · obtain rfl := Option.some.inj hkey
      exact ⟨‹_›, hcamel⟩
    · split at hkey
      · obtain rfl := Option.some.inj hkey
        exact ⟨‹_›, hsnake⟩
      · exact absurd hkey (by simp)
  obtain ⟨hsome, hfollows⟩ := hthere
  obtain ⟨j, hj⟩ := Option.isSome_iff_exists.mp hsome
  rw [get?_onEntries, hj] at hread
  rw [get?_onEntries, hj]
  exact hfollows j a hread

lemma required_follows (hcamel : Follows read (befores name.camel) (afters name.camel) R)
    (hsnake : Follows read (befores name.snake) (afters name.snake) R) {a : α}
    (ha : required (onEntries afters fields) name read = .ok a) :
    ∃ given, required (onEntries befores fields) name read = .ok given ∧ R given a := by
  unfold required at ha ⊢
  rw [keyIn?_onEntries] at ha ⊢
  cases hkey : name.keyIn? fields with
  | none =>
    rw [hkey] at ha
    exact absurd ha (by simp [Checked.fail, Checked.under])
  | some key =>
    rw [hkey] at ha
    obtain ⟨given, hgiven, hR⟩ := follows_key hcamel hsnake hkey (under_eq_ok.mp ha)
    exact ⟨given, under_eq_ok.mpr hgiven, hR⟩

lemma optional_follows {default : α}
    (hcamel : Follows read (befores name.camel) (afters name.camel) R)
    (hsnake : Follows read (befores name.snake) (afters name.snake) R)
    (hdefault : R default default) {a : α}
    (ha : optional (onEntries afters fields) name read default = .ok a) :
    ∃ given, optional (onEntries befores fields) name read default = .ok given ∧ R given a := by
  unfold Reader.optional at ha ⊢
  rw [keyIn?_onEntries] at ha ⊢
  cases hkey : name.keyIn? fields with
  | none =>
    rw [hkey] at ha
    obtain rfl := Checked.ok.inj ha
    exact ⟨default, rfl, hdefault⟩
  | some key =>
    rw [hkey] at ha
    obtain ⟨given, hgiven, hR⟩ := follows_key hcamel hsnake hkey (under_eq_ok.mp ha)
    exact ⟨given, under_eq_ok.mpr hgiven, hR⟩

section

/-! The fields of an entity may be changed in any way, and some of them stay as they are. -/

variable {changesBy : (Json → Json) → String → Json → Json}

lemma follows_of_kept {key : String} (h : ∀ f, changesBy f key = id) :
    Follows read (changesBy before key) (changesBy after key) Eq := by
  rw [h, h]
  exact follows_id read

lemma required_of_kept (hcamel : ∀ f, changesBy f name.camel = id)
    (hsnake : ∀ f, changesBy f name.snake = id) {a : α}
    (ha : required (onEntries (changesBy after) fields) name read = .ok a) :
    required (onEntries (changesBy before) fields) name read = .ok a := by
  obtain ⟨given, hgiven, rfl⟩ :=
    required_follows (follows_of_kept hcamel) (follows_of_kept hsnake) ha
  exact hgiven

lemma optional_of_kept {default : α} (hcamel : ∀ f, changesBy f name.camel = id)
    (hsnake : ∀ f, changesBy f name.snake = id) {a : α}
    (ha : optional (onEntries (changesBy after) fields) name read default = .ok a) :
    optional (onEntries (changesBy before) fields) name read default = .ok a := by
  obtain ⟨given, hgiven, rfl⟩ :=
    optional_follows (follows_of_kept hcamel) (follows_of_kept hsnake) rfl ha
  exact hgiven

lemma optional_cleaned {word s : String} (hchange : ∀ f, changesBy f word = f)
    (hs : optional (onEntries (changesBy cleanValue) fields) (one word) string "" = .ok s) :
    ∃ given, optional (onEntries (changesBy shownText) fields) (one word) string "" = .ok given ∧
      s = cleanText given := by
  have hfollows : Follows string (changesBy shownText word) (changesBy cleanValue word)
      fun given s => s = cleanText given := by
    rw [hchange, hchange]
    exact follows_string
  have hdefault : "" = cleanText "" := cleanText_empty.symm
  exact optional_follows (R := fun given s => s = cleanText given) hfollows hfollows hdefault hs

lemma required_cleaned {word : String} {t : Filled} (hchange : ∀ f, changesBy f word = f)
    (ht : required (onEntries (changesBy cleanValue) fields) (one word) filled = .ok t) :
    ∃ given, required (onEntries (changesBy shownText) fields) (one word) filled = .ok given ∧
      t.text = cleanText given.text := by
  have hfollows : Follows filled (changesBy shownText word) (changesBy cleanValue word)
      fun given t => t.text = cleanText given.text := by
    rw [hchange, hchange]
    exact follows_filled
  exact required_follows hfollows hfollows ht

end

lemma onField_onEntries (key : String) (f : Json → Json) :
    onField key f (.object (onEntries changes fields)) =
      .object (onEntries (fun k j => if k = key then f (changes k j) else changes k j) fields) := by
  unfold onField onEntries
  dsimp only
  rw [List.map_map]
  rfl

@[simp] lemma onEntries_id : onEntries (fun _ => id) fields = fields := List.map_id fields

/-- The change of a field when some fields are changed. -/
def changedIn (names : List String) (f : Json → Json) (key : String) (j : Json) : Json :=
  names.foldl (fun j name => if key = name then f j else j) j

lemma onFields_object (names : List String) (f : Json → Json) (fields : Entries Json) :
    onFields names f (.object fields) = .object (onEntries (changedIn names f) fields) := by
  have hfold : ∀ (names : List String) (changes : String → Json → Json),
      onFields names f (.object (onEntries changes fields)) =
        .object (onEntries (fun key j => changedIn names f key (changes key j)) fields) := by
    intro names
    induction names with
    | nil => exact fun _ => rfl
    | cons name names ih =>
      intro changes
      unfold onFields at ih ⊢
      rw [List.foldl_cons, onField_onEntries, ih]
      rfl
  have hall := hfold names fun _ => id
  rw [onEntries_id] at hall
  exact hall

lemma fields_eq_ok {read : Entries Json → Checked α} {j : Json} {a : α} :
    Reader.fields read j = .ok a ↔ ∃ fields, j = .object fields ∧ read fields = .ok a := by
  cases j with
  | object fields => simp [Reader.fields]
  | _ => simp [Reader.fields, Checked.fail]

lemma onField_of_ne_object {key : String} {f : Json → Json} {j : Json}
    (hj : ∀ fields, j ≠ .object fields) : onField key f j = j := by
  cases j with
  | object fields => exact absurd rfl (hj fields)
  | _ => rfl

lemma onFields_of_ne_object {names : List String} {f : Json → Json} {j : Json}
    (hj : ∀ fields, j ≠ .object fields) : onFields names f j = j := by
  unfold onFields
  induction names with
  | nil => rfl
  | cons name names ih =>
    rw [List.foldl_cons, onField_of_ne_object hj]
    exact ih

lemma exists_object_of_onFields {names : List String} {f : Json → Json} {j : Json}
    {changed : Entries Json} (h : onFields names f j = .object changed) :
    ∃ fields, j = .object fields := by
  by_contra hnone
  rw [onFields_of_ne_object fun fields heq => hnone ⟨fields, heq⟩] at h
  exact hnone ⟨changed, h⟩

/-! ## Entities -/

/-- A choice with its id and its label cleaned. -/
structure CleanedChoice (given c : Choice) : Prop where
  id : c.id.text = cleanText given.id.text
  label : c.label = cleanText given.label
  requirements : c.requirements = given.requirements
  mechanic : c.mechanic = given.mechanic

lemma choice_eq_ok {c : Choice} :
    Choice.ofJson (.object fields) = .ok c ↔
      required fields (one "id") filled = .ok c.id ∧
      optional fields (one "label") string "" = .ok c.label ∧
      optional fields requirementsField (nullable (list Requirement.ofJson)) none =
        .ok c.requirements ∧
      required fields (one "mechanic") Mechanic.ofJson = .ok c.mechanic ∧
      noOthers fields [one "id", one "label", requirementsField, one "mechanic"] = .ok () := by
  cases c
  unfold Choice.ofJson Reader.fields
  simp only [seqLeft_eq_ok, seq_eq_ok, checked_map_eq_ok, exists_and_left, and_assoc, and_true,
    exists_exists_and_eq_and, exists_exists_and_exists_and_eq_and, ↓existsAndEq,
    Choice.mk.injEq]

lemma follows_choice : Follows Choice.ofJson (onFields ["label", "id"] shownText)
    (onFields ["label", "id"] cleanValue) CleanedChoice := by
  intro j c hc
  obtain ⟨cleaned, hcleaned, -⟩ := fields_eq_ok.mp hc
  obtain ⟨fields, rfl⟩ := exists_object_of_onFields hcleaned
  rw [onFields_object, choice_eq_ok] at hc
  obtain ⟨hid, hlabel, hrequirements, hmechanic, hothers⟩ := hc
  obtain ⟨id, hid, hcleanId⟩ := required_cleaned (fun _ => rfl) hid
  obtain ⟨label, hlabel, hcleanLabel⟩ := optional_cleaned (fun _ => rfl) hlabel
  refine ⟨⟨id, label, c.requirements, c.mechanic⟩, ?_, hcleanId, hcleanLabel, rfl, rfl⟩
  rw [onFields_object, choice_eq_ok, noOthers_onEntries]
  rw [noOthers_onEntries] at hothers
  exact ⟨hid, hlabel, optional_of_kept (fun _ => rfl) (fun _ => rfl) hrequirements,
    required_of_kept (fun _ => rfl) (fun _ => rfl) hmechanic, hothers⟩

/-- A node with its id and its text cleaned, and its choices. -/
structure CleanedNode (given n : Node) : Prop where
  id : n.id.text = cleanText given.id.text
  text : n.text = cleanText given.text
  choices : Option.Rel (List.Forall₂ CleanedChoice) given.choices n.choices
  type : n.type = given.type
  image : n.image = given.image
  onEnter : n.onEnter = given.onEnter

lemma node_eq_ok {n : Node} :
    Node.ofJson (.object fields) = .ok n ↔
      required fields (one "id") filled = .ok n.id ∧
      required fields (one "type") string = .ok n.type ∧
      optional fields (one "text") string "" = .ok n.text ∧
      optional fields (one "image") (nullable string) none = .ok n.image ∧
      optional fields onEnterField (nullable (list Action.ofJson)) none = .ok n.onEnter ∧
      optional fields (one "choices") (nullable (list Choice.ofJson)) none = .ok n.choices ∧
      noOthers fields [one "id", one "type", one "text", one "image", onEnterField,
        one "choices"] = .ok () := by
  cases n
  unfold Node.ofJson Reader.fields
  simp only [seqLeft_eq_ok, seq_eq_ok, checked_map_eq_ok, exists_and_left, and_assoc, and_true,
    exists_exists_and_eq_and, exists_exists_and_exists_and_eq_and, ↓existsAndEq,
    Node.mk.injEq]

/-- The change of a field of a node. -/
def changedInNode (f : Json → Json) (key : String) (j : Json) : Json :=
  if key = "choices" then onItems (onFields ["label", "id"] f) (changedIn ["text", "id"] f key j)
  else changedIn ["text", "id"] f key j

lemma onNodeTexts_object (f : Json → Json) (fields : Entries Json) :
    onNodeTexts f (.object fields) = .object (onEntries (changedInNode f) fields) := by
  unfold onNodeTexts
  rw [onFields_object, onField_onEntries]
  rfl

lemma exists_object_of_onNodeTexts {f : Json → Json} {j : Json} {changed : Entries Json}
    (h : onNodeTexts f j = .object changed) : ∃ fields, j = .object fields := by
  unfold onNodeTexts onField at h
  split at h
  · exact exists_object_of_onFields ‹_›
  · exact exists_object_of_onFields h

lemma follows_node :
    Follows Node.ofJson (onNodeTexts shownText) (onNodeTexts cleanValue) CleanedNode := by
  intro j n hn
  obtain ⟨cleaned, hcleaned, -⟩ := fields_eq_ok.mp hn
  obtain ⟨fields, rfl⟩ := exists_object_of_onNodeTexts hcleaned
  rw [onNodeTexts_object, node_eq_ok] at hn
  obtain ⟨hid, htype, htext, himage, honEnter, hchoices, hothers⟩ := hn
  obtain ⟨id, hid, hcleanId⟩ := required_cleaned (fun _ => rfl) hid
  obtain ⟨text, htext, hcleanText⟩ := optional_cleaned (fun _ => rfl) htext
  have hfollows : Follows (nullable (list Choice.ofJson)) (changedInNode shownText "choices")
      (changedInNode cleanValue "choices") (Option.Rel (List.Forall₂ CleanedChoice)) :=
    follows_nullable (follows_list follows_choice) (keepsNull_onItems _) (keepsNull_onItems _)
  obtain ⟨choices, hchoices, hcleanChoices⟩ := optional_follows hfollows hfollows .none hchoices
  refine ⟨⟨id, n.type, text, n.image, n.onEnter, choices⟩, ?_,
    hcleanId, hcleanText, hcleanChoices, rfl, rfl, rfl⟩
  rw [onNodeTexts_object, node_eq_ok, noOthers_onEntries]
  rw [noOthers_onEntries] at hothers
  exact ⟨hid, required_of_kept (fun _ => rfl) (fun _ => rfl) htype, htext,
    optional_of_kept (fun _ => rfl) (fun _ => rfl) himage,
    optional_of_kept (fun _ => rfl) (fun _ => rfl) honEnter, hchoices, hothers⟩

lemma item_eq_ok {i : Item} :
    Item.ofJson (.object fields) = .ok i ↔
      required fields (one "id") filled = .ok i.id ∧
      optional fields (one "name") string "" = .ok i.name ∧
      required fields (one "type") string = .ok i.type ∧
      optional fields (one "damage") (nullable string) none = .ok i.damage ∧
      optional fields attackBonusField (nullable number) none = .ok i.attackBonus ∧
      optional fields armorBonusField (nullable number) none = .ok i.armorBonus ∧
      optional fields (one "effect") (nullable Action.ofJson) none = .ok i.effect ∧
      optional fields scalingField (nullable string) none = .ok i.scalingAttribute ∧
      optional fields (one "aoe") (nullable bool) none = .ok i.areaOfEffect ∧
      noOthers fields [one "id", one "name", one "type", one "damage", attackBonusField,
        armorBonusField, one "effect", scalingField, one "aoe"] = .ok () := by
  cases i
  unfold Item.ofJson Reader.fields
  simp only [seqLeft_eq_ok, seq_eq_ok, checked_map_eq_ok, exists_and_left, and_assoc, and_true,
    exists_exists_and_eq_and, exists_exists_and_exists_and_eq_and, ↓existsAndEq,
    Item.mk.injEq]

lemma follows_item : Follows Item.ofJson (onFields ["name"] shownText)
    (onFields ["name"] cleanValue)
    fun given i => i = { given with name := cleanText given.name } := by
  intro j i hi
  obtain ⟨cleaned, hcleaned, -⟩ := fields_eq_ok.mp hi
  obtain ⟨fields, rfl⟩ := exists_object_of_onFields hcleaned
  rw [onFields_object, item_eq_ok] at hi
  obtain ⟨hid, hname, htype, hdamage, hattack, harmor, heffect, hscaling, hareas, hothers⟩ := hi
  obtain ⟨name, hname, hcleanName⟩ := optional_cleaned (fun _ => rfl) hname
  refine ⟨{ i with name }, ?_, by dsimp only; rw [← hcleanName]⟩
  rw [onFields_object, item_eq_ok, noOthers_onEntries]
  rw [noOthers_onEntries] at hothers
  exact ⟨required_of_kept (fun _ => rfl) (fun _ => rfl) hid, hname,
    required_of_kept (fun _ => rfl) (fun _ => rfl) htype,
    optional_of_kept (fun _ => rfl) (fun _ => rfl) hdamage,
    optional_of_kept (fun _ => rfl) (fun _ => rfl) hattack,
    optional_of_kept (fun _ => rfl) (fun _ => rfl) harmor,
    optional_of_kept (fun _ => rfl) (fun _ => rfl) heffect,
    optional_of_kept (fun _ => rfl) (fun _ => rfl) hscaling,
    optional_of_kept (fun _ => rfl) (fun _ => rfl) hareas, hothers⟩

lemma enemy_eq_ok {e : Enemy} :
    Enemy.ofJson (.object fields) = .ok e ↔
      required fields (one "id") filled = .ok e.id ∧
      optional fields (one "name") string "" = .ok e.name ∧
      optional fields (one "hp") number 1 = .ok e.hp ∧
      optional fields (one "ac") number 10 = .ok e.armor ∧
      optional fields attackBonusField number 0 = .ok e.attackBonus ∧
      optional fields (one "damage") filled Enemy.defaultDamage = .ok e.damage ∧
      optional fields rewardField number 0 = .ok e.reward ∧
      noOthers fields [one "id", one "name", one "hp", one "ac", attackBonusField, one "damage",
        rewardField] = .ok () := by
  cases e
  unfold Enemy.ofJson Reader.fields
  simp only [seqLeft_eq_ok, seq_eq_ok, checked_map_eq_ok, exists_and_left, and_assoc, and_true,
    exists_exists_and_eq_and, exists_exists_and_exists_and_eq_and, ↓existsAndEq,
    Enemy.mk.injEq]

lemma follows_enemy : Follows Enemy.ofJson (onFields ["name"] shownText)
    (onFields ["name"] cleanValue)
    fun given e => e = { given with name := cleanText given.name } := by
  intro j e he
  obtain ⟨cleaned, hcleaned, -⟩ := fields_eq_ok.mp he
  obtain ⟨fields, rfl⟩ := exists_object_of_onFields hcleaned
  rw [onFields_object, enemy_eq_ok] at he
  obtain ⟨hid, hname, hhp, harmor, hattack, hdamage, hreward, hothers⟩ := he
  obtain ⟨name, hname, hcleanName⟩ := optional_cleaned (fun _ => rfl) hname
  refine ⟨{ e with name }, ?_, by dsimp only; rw [← hcleanName]⟩
  rw [onFields_object, enemy_eq_ok, noOthers_onEntries]
  rw [noOthers_onEntries] at hothers
  exact ⟨required_of_kept (fun _ => rfl) (fun _ => rfl) hid, hname,
    optional_of_kept (fun _ => rfl) (fun _ => rfl) hhp,
    optional_of_kept (fun _ => rfl) (fun _ => rfl) harmor,
    optional_of_kept (fun _ => rfl) (fun _ => rfl) hattack,
    optional_of_kept (fun _ => rfl) (fun _ => rfl) hdamage,
    optional_of_kept (fun _ => rfl) (fun _ => rfl) hreward, hothers⟩

lemma encounter_eq_ok {e : Encounter} :
    Encounter.ofJson (.object fields) = .ok e ↔
      required fields (one "id") filled = .ok e.id ∧
      optional fields (one "name") (nullable string) none = .ok e.name ∧
      optional fields (one "type") (literal "combat") () = .ok () ∧
      optional fields (one "enemies") (list Spawn.ofJson) [] = .ok e.spawns ∧
      optional fields (one "resolution") Encounter.resolutionOfJson ("", "") =
        .ok (e.onVictory, e.onDefeat) ∧
      noOthers fields [one "id", one "name", one "type", one "enemies", one "resolution"] =
        .ok () := by
  cases e
  unfold Encounter.ofJson Reader.fields
  simp only [seqLeft_eq_ok, seq_eq_ok, checked_map_eq_ok, exists_and_left, and_assoc, and_true,
    exists_exists_and_eq_and, exists_exists_and_exists_and_eq_and, ↓existsAndEq, Prod.exists,
    Encounter.mk.injEq]

lemma follows_encounter : Follows Encounter.ofJson (onFields ["name"] shownText)
    (onFields ["name"] cleanValue)
    fun given e => e = { given with name := given.name.map cleanText } := by
  intro j e he
  obtain ⟨cleaned, hcleaned, -⟩ := fields_eq_ok.mp he
  obtain ⟨fields, rfl⟩ := exists_object_of_onFields hcleaned
  rw [onFields_object, encounter_eq_ok] at he
  obtain ⟨hid, hname, htype, hspawns, hends, hothers⟩ := he
  have hfollows : Follows (nullable string) (changedIn ["name"] shownText "name")
      (changedIn ["name"] cleanValue "name") (Option.Rel fun given s => s = cleanText given) :=
    follows_nullable follows_string keepsNull_shownText keepsNull_cleanValue
  obtain ⟨name, hname, hrel⟩ := optional_follows hfollows hfollows .none hname
  have hcleanName : e.name = name.map cleanText := by
    generalize e.name = cleanedName at hrel
    cases hrel with
    | none => rfl
    | some h => exact congrArg some h
  refine ⟨{ e with name }, ?_, by dsimp only; rw [← hcleanName]⟩
  rw [onFields_object, encounter_eq_ok, noOthers_onEntries]
  rw [noOthers_onEntries] at hothers
  exact ⟨required_of_kept (fun _ => rfl) (fun _ => rfl) hid, hname,
    optional_of_kept (fun _ => rfl) (fun _ => rfl) htype,
    optional_of_kept (fun _ => rfl) (fun _ => rfl) hspawns,
    optional_of_kept (fun _ => rfl) (fun _ => rfl) hends, hothers⟩

/-! ## Stories -/

lemma andThen_eq_ok {c : Checked α} {f : α → Checked β} {b : β} :
    c.andThen f = .ok b ↔ ∃ a, c = .ok a ∧ f a = .ok b := by
  cases c <;> simp [Checked.andThen]

/-- The collection is the one that is given by the field of the name, entity by entity, but for what
is changed. -/
def GivenAs [Keyed α] (f : Entries Json) (name : String) (read : Reader α) (R : α → α → Prop)
    (c : Collection α) : Prop :=
  ∃ given entities, optional f (one name) (Reader.map read) [] = .ok given ∧
    List.Forall₂ R (given.map (·.2)) entities ∧ c = .ofList entities

/-- The story is the one that is given by the fields, with its free texts cleaned. -/
structure CleanedStory (f : Entries Json) (story : Story) : Prop where
  nodes : GivenAs f "nodes" Node.ofJson CleanedNode story.nodes
  items : GivenAs f "items" Item.ofJson
    (fun given i => i = { given with name := cleanText given.name }) story.items
  enemies : GivenAs f "enemies" Enemy.ofJson
    (fun given e => e = { given with name := cleanText given.name }) story.enemies
  encounters : GivenAs f "encounters" Encounter.ofJson
    (fun given e => e = { given with name := given.name.map cleanText }) story.encounters

/-- The change of a collection. -/
def changedInStory (f : Json → Json) (key : String) (j : Json) : Json :=
  let named := onValues (onFields ["name"] f)
  let nodes := if key = "nodes" then onValues (onNodeTexts f) j else j
  let items := if key = "items" then named nodes else nodes
  let enemies := if key = "enemies" then named items else items
  if key = "encounters" then named enemies else enemies

lemma onFreeTexts_object (f : Json → Json) (fields : Entries Json) :
    onFreeTexts f (.object fields) = .object (onEntries (changedInStory f) fields) := by
  have hnodes : onField "nodes" (onValues (onNodeTexts f)) (.object fields) =
      .object (onEntries (fun key j => if key = "nodes" then onValues (onNodeTexts f) j else j)
        fields) := rfl
  unfold onFreeTexts
  dsimp only
  rw [hnodes, onField_onEntries, onField_onEntries, onField_onEntries]
  rfl

lemma givenAs_of_follows [Keyed α] {word : String} {onEntity : (Json → Json) → Json → Json}
    (hchange : ∀ f, changedInStory f word = onValues (onEntity f)) (hrefuses : RefusesKeyed read)
    (h : Follows read (onEntity shownText) (onEntity cleanValue) R) {entries : List (String × α)}
    (hentries : optional (onEntries (changedInStory cleanValue) fields) (one word)
      (Reader.map read) [] = .ok entries) :
    GivenAs (onEntries (changedInStory shownText) fields) word read R
      (.ofList (entries.map (·.2))) := by
  have hfollows : Follows (Reader.map read) (changedInStory shownText word)
      (changedInStory cleanValue word) (EntriesRelated R) := by
    rw [hchange, hchange]
    exact follows_map hrefuses h
  obtain ⟨given, hgiven, hrelated⟩ := optional_follows hfollows hfollows .nil hentries
  refine ⟨given, _, hgiven, ?_, rfl⟩
  rw [List.forall₂_map_left_iff, List.forall₂_map_right_iff]
  exact hrelated.imp fun _ _ h => h.2

lemma ofEntries_eq_ok {nodes : List (String × Node)} {items : List (String × Item)}
    {enemies : List (String × Enemy)} {encounters : List (String × Encounter)} {story : Story}
    (h : Story.ofEntries nodes items enemies encounters = .ok story) :
    story = ⟨.ofList (nodes.map (·.2)), .ofList (items.map (·.2)), .ofList (enemies.map (·.2)),
      .ofList (encounters.map (·.2))⟩ := by
  unfold Story.ofEntries at h
  split at h
  · exact (Checked.ok.inj h).symm
  · exact absurd h (by simp [Checked.fail])

/-- The fields of an imported story; what is no object counts as an empty one. -/
def storyFields : Json → Entries Json
  | .object fields => fields
  | _ => []

/-- The story with its garbled free texts as they are shown. -/
def shownTexts (j : Json) : Json := onFreeTexts shownText j

/-- A story that is read from a cleaned object is the one that the object gives, cleaned. -/
lemma cleanedStory_of_ofJson {story : Story}
    (h : Story.ofJson (onFreeTexts cleanValue (.object fields)) = .ok story) :
    CleanedStory (storyFields (shownTexts (.object fields))) story := by
  rw [onFreeTexts_object] at h
  unfold shownTexts
  rw [onFreeTexts_object]
  unfold Story.ofJson Reader.fields at h
  simp only [andThen_eq_ok, seq_eq_ok, checked_map_eq_ok] at h
  obtain ⟨_, ⟨_, _, ⟨_, _, ⟨_, _, ⟨_, hnodes, rfl⟩, hitems, rfl⟩, henemies, rfl⟩, hencounters, rfl⟩,
    hstory⟩ := h
  rw [ofEntries_eq_ok hstory]
  exact ⟨givenAs_of_follows (fun _ => rfl) (refusesKeyed_fields _) follows_node hnodes,
    givenAs_of_follows (fun _ => rfl) (refusesKeyed_fields _) follows_item hitems,
    givenAs_of_follows (fun _ => rfl) (refusesKeyed_fields _) follows_enemy henemies,
    givenAs_of_follows (fun _ => rfl) (refusesKeyed_fields _) follows_encounter hencounters⟩

/-- Cleaning changes the free texts of a story, unless it is nested too deep to be copied. -/
lemma cleanStory_object (room : ℕ) (fields : Entries Json) :
    cleanStory room (.object fields) =
      if (Json.object fields).height ≤ room then .ok (onFreeTexts cleanValue (.object fields))
      else .error ⟨⟩ := by
  unfold cleanStory Json.copy
  dsimp only
  split <;> rfl

lemma cleanStory_eq_ok {room : ℕ} {j cleaned : Json} (h : cleanStory room j = .ok cleaned) :
    cleaned = onFreeTexts cleanValue (.object (storyFields j)) ∧
      storyFields (shownTexts j) = storyFields (shownTexts (.object (storyFields j))) := by
  cases j with
  | object fields =>
    rw [cleanStory_object] at h
    split at h
    · exact ⟨(Except.ok.inj h).symm, rfl⟩
    · cases h
  | _ => exact ⟨(Except.ok.inj h).symm, rfl⟩

lemma importBundle_eq_ok {s : Settings} {manifest json : Json} {assets : List Json} {i : Imported}
    (h : Desk.importBundle s manifest json assets = .ok i) :
    ∃ cleaned, cleanStory s.maxCopied json = .ok cleaned ∧ Story.ofJson cleaned = .ok i.story := by
  unfold Desk.importBundle at h
  split at h
  · cases h
  · cases h
  · cases h
  · split at h
    · cases h
    · rename_i cleaned hcleaned
      split at h
      · cases h
      · rename_i story hstory
        split at h
        · cases h
        · obtain rfl := Except.ok.inj h
          exact ⟨cleaned, hcleaned, hstory⟩

/-- Cleaning takes every payload out of a text that it meets in one piece. The text that is left is
clean exactly if cleaning it again changes nothing. An imported story is the one that is given, with
just its free texts cleaned. -/
theorem importBundle_cleaned (text : String) (s : Settings) (manifest json : Json)
    (assets : List Json) :
    LeftWithout Payload text.toList (cleanText text).toList ∧
      (Clean (cleanText text).toList ↔ cleanText (cleanText text) = cleanText text) ∧
      ∀ i, Desk.importBundle s manifest json assets = .ok i →
        CleanedStory (storyFields (shownTexts json)) i.story := by
  refine ⟨?_, ?_, fun i h => ?_⟩
  · rw [toList_cleanText]
    exact leftWithout_cleanChars text.toList
  · rw [← cleanChars_eq_self_iff, ← toList_cleanText, String.toList_inj]
  · obtain ⟨cleaned, hcleaned, hstory⟩ := importBundle_eq_ok h
    obtain ⟨rfl, hfields⟩ := cleanStory_eq_ok hcleaned
    rw [hfields]
    exact cleanedStory_of_ofJson hstory

/-- The title page of a story about a ladder. -/
def ladderPage : Json :=
  .object [("storyId", .string "ladder"), ("version", .string "1"), ("title", .string "The ladder"),
    ("author", .string "a")]

/-- A text in which the script scheme stands within the script scheme. -/
def nestedScheme : String := "javajavascript:script:"

/-- The story of one node with the text. -/
def oneNode (text : String) : Json :=
  .object [("nodes", .object [("n_start",
    .object [("id", .string "n_start"), ("type", .string "ending"), ("text", .string text)])])]

theorem importBundle_cleaned_nestedScheme :
    ∃ i, Desk.importBundle .standard ladderPage (oneNode nestedScheme) [] = .ok i ∧
      CleanedStory (storyFields (shownTexts (oneNode nestedScheme))) i.story ∧
      LeftWithout Payload nestedScheme.toList (cleanText nestedScheme).toList := by
  obtain ⟨hleft, -, hstory⟩ :=
    importBundle_cleaned nestedScheme .standard ladderPage (oneNode nestedScheme) []
  obtain ⟨i, hi⟩ : ∃ i, Desk.importBundle .standard ladderPage (oneNode nestedScheme) [] = .ok i :=
    ⟨_, rfl⟩
  exact ⟨i, hi, hstory i hi, hleft⟩

/-- What was around the deleted scheme is a scheme. -/
theorem nestedScheme_left :
    ∃ i, Desk.importBundle .standard ladderPage (oneNode nestedScheme) [] = .ok i ∧
      ∃ n ∈ i.story.nodes.toList, ¬Clean n.text.toList := by
  refine ⟨_, rfl, ⟨⟨"n_start", by decide⟩, "ending", "javascript:", none, none, none⟩, ?_, ?_⟩
  · decide
  · intro hclean
    have hscheme : Spells "javascript:".toList "javascript:".toList := by decide
    exact hclean _ List.infix_rfl (.inr (.inl hscheme))

end Gamebook.Proofs
