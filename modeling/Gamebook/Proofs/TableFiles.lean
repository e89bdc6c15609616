import Gamebook.Desk.Save
import Gamebook.Proofs.TableText

/-!
# Written tables

Texts that are written together into a directory are read back afterwards, each from its own
path. Staging beside the paths and moving into place disturb neither the directory nor the
texts that are already there.
-/

namespace Gamebook.Proofs

/-! ## Entries under keys -/

section

variable {κ α : Type} [DecidableEq κ]

@[simp] lemma get?_put_self (key : κ) (value : α) (entries : List (κ × α)) :
    Entries.get? key (Entries.put key value entries) = some value := by
  unfold Entries.get?
  induction entries with
  | nil => rw [Entries.put, List.lookup_cons_self]
  | cons entry entries ih =>
    rw [Entries.put]
    split
    · rw [List.lookup_cons_self]
    · rename_i hkey
      have hbeq : (key == entry.1) = false := beq_eq_false_iff_ne.mpr (Ne.symm hkey)
      obtain ⟨k, v⟩ := entry
      simp only [List.lookup_cons, hbeq, ih]

lemma get?_put_ne {key other : κ} (h : other ≠ key) (value : α) (entries : List (κ × α)) :
    Entries.get? other (Entries.put key value entries) = Entries.get? other entries := by
  unfold Entries.get?
  have hother : (other == key) = false := beq_eq_false_iff_ne.mpr h
  induction entries with
  | nil => simp only [Entries.put, List.lookup_cons, hother]
  | cons entry entries ih =>
    obtain ⟨k, v⟩ := entry
    rw [Entries.put]
    split
    · rename_i hkey
      simp only at hkey
      subst hkey
      simp only [List.lookup_cons, hother]
    · simp only [List.lookup_cons, ih]

lemma get?_filter_ne {key other : κ} (h : other ≠ key) (entries : List (κ × α)) :
    Entries.get? other (entries.filter fun (k, _) => k ≠ key) = Entries.get? other entries := by
  unfold Entries.get?
  induction entries with
  | nil => rfl
  | cons entry entries ih =>
    obtain ⟨k, v⟩ := entry
    by_cases hk : k = key
    · have hother : (other == k) = false := beq_eq_false_iff_ne.mpr (hk ▸ h)
      rw [List.filter_cons_of_neg (by simpa using hk)]
      simp only [List.lookup_cons, hother, ih]
    · rw [List.filter_cons_of_pos (by simpa using hk)]
      simp only [List.lookup_cons, ih]

end

/-! ## Places in a directory -/

variable {w w' : Workspace} {directory place : Path}

@[simp] lemma parent_child (p : Path) (name : String) : (p.child name).parent = p := by
  cases p
  simp [Path.child, Path.parent]

@[simp] lemma name_child (p : Path) (name : String) : (p.child name).name = name := by
  simp [Path.child, Path.name, List.getLastD_eq_getLast?]

lemma child_ne_here (p : Path) (name : String) : p.child name ≠ .here := by
  intro heq
  have hnames : p.names ++ [name] = [] := congrArg Path.names heq
  simp at hnames

/-- A name that leads to something in its directory. -/
def Plain (name : String) : Prop := name ≠ ".." ∧ name ≠ ""

lemma child_notAbove {name : String} (h : Plain name) (p : Path) :
    (p.child name).isAbove = false := by
  unfold Path.isAbove
  rw [Bool.or_eq_false_iff]
  refine ⟨?_, ?_⟩
  · rw [decide_eq_false_iff_not]
    intro heq
    have hnames : p.names ++ [name] = [""] := congrArg Path.names heq
    cases hp : p.names with
    | nil =>
      rw [hp, List.nil_append, List.cons.injEq] at hnames
      exact h.2 hnames.1
    | cons a as =>
      rw [hp] at hnames
      simp at hnames
  · rw [List.all_eq_false]
    exact ⟨name, by simp [Path.child], by simpa using h.1⟩

lemma entryAt?_put_self {p : Path} (h : p.isAbove = false) (e : Entry) :
    (w.put p e).entryAt? p = some e := by
  unfold Workspace.entryAt? Workspace.put
  rw [h]
  exact get?_put_self p e w.entries

lemma entryAt?_put_ne {p q : Path} (h : q ≠ p) (e : Entry) :
    (w.put p e).entryAt? q = w.entryAt? q := by
  unfold Workspace.entryAt? Workspace.put
  rw [get?_put_ne h]

lemma entryAt?_erase_ne {p q : Path} (h : q ≠ p) : (w.erase p).entryAt? q = w.entryAt? q := by
  unfold Workspace.entryAt? Workspace.erase
  rw [get?_filter_ne h]

/-- Every directory of the first workspace is one of the second. -/
def KeepsDirectories (w w' : Workspace) : Prop :=
  ∀ p, w.entryAt? p = some .directory → w'.entryAt? p = some .directory

lemma keepsDirectories_put {p : Path} {e : Entry} (h : w.entryAt? p ≠ some .directory) :
    KeepsDirectories w (w.put p e) := by
  intro q hq
  have hne : q ≠ p := by
    rintro rfl
    exact h hq
  rw [entryAt?_put_ne hne]
  exact hq

lemma keepsDirectories_erase {p : Path} (h : w.entryAt? p ≠ some .directory) :
    KeepsDirectories w (w.erase p) := by
  intro q hq
  have hne : q ≠ p := by
    rintro rfl
    exact h hq
  rw [entryAt?_erase_ne hne]
  exact hq

lemma enter_of_keeps (hkeeps : KeepsDirectories w w') {p : Path} {names : List String}
    (h : w.enter p names = .ok place) : w'.enter p names = .ok place := by
  induction names generalizing p with
  | nil => exact h
  | cons name names ih =>
    rw [Workspace.enter] at h ⊢
    split at h
    · rename_i hentry
      rw [hkeeps _ hentry]
      exact ih h
    · exact absurd h (by simp)
    · exact absurd h (by simp)

/-- The path leads to the directory at the place. -/
def LeadsTo (w : Workspace) (directory place : Path) : Prop :=
  w.enter .here directory.names = .ok place

lemma locate_child {name : String} (h : LeadsTo w directory place) (hname : name ≠ "..") :
    w.locate (directory.child name) = .ok (place.child name) := by
  unfold Workspace.locate
  rw [if_neg (child_ne_here directory name), parent_child, h, name_child]
  simp [Except.map, Path.step, hname]

lemma leadsTo_of_locate {name : String} {q : Path} (hname : name ≠ "..")
    (h : w.locate (directory.child name) = .ok q) :
    ∃ place, LeadsTo w directory place ∧ q = place.child name := by
  cases henter : w.enter .here directory.names with
  | error cause =>
    unfold Workspace.locate at h
    rw [if_neg (child_ne_here directory name), parent_child, henter] at h
    exact absurd h (by simp [Except.map])
  | ok place =>
    rw [locate_child henter hname, Except.ok.injEq] at h
    exact ⟨place, henter, h.symm⟩

lemma enter_append {p : Path} {names : List String} {name : String}
    (h : w.enter p (names ++ [name]) = .ok place) :
    ∃ q, w.enter p names = .ok q ∧ w.entryAt? (q.step name) = some .directory ∧
      place = q.step name := by
  induction names generalizing p with
  | nil =>
    rw [List.nil_append, Workspace.enter] at h
    split at h
    · rename_i hentry
      rw [Workspace.enter, Except.ok.injEq] at h
      exact ⟨p, rfl, hentry, h.symm⟩
    · exact absurd h (by simp)
    · exact absurd h (by simp)
  | cons first names ih =>
    rw [List.cons_append, Workspace.enter] at h
    split at h
    · rename_i hentry
      obtain ⟨q, hq, hdirectory, hplace⟩ := ih h
      refine ⟨q, ?_, hdirectory, hplace⟩
      rw [Workspace.enter, hentry]
      exact hq
    · exact absurd h (by simp)
    · exact absurd h (by simp)

lemma makeDirectory_of_leadsTo (h : LeadsTo w directory place) :
    w.makeDirectory directory = .ok w := by
  obtain ⟨names⟩ := directory
  unfold Workspace.makeDirectory
  rcases List.eq_nil_or_concat names with rfl | ⟨init, last, rfl⟩
  · rfl
  · rw [List.concat_eq_append] at h ⊢
    obtain ⟨q, hq, hdirectory, -⟩ := enter_append h
    have hne : (⟨init ++ [last]⟩ : Path) ≠ .here := by
      intro heq
      have hnames : init ++ [last] = [] := congrArg Path.names heq
      simp at hnames
    have hlocate : w.locate ⟨init ++ [last]⟩ = .ok (q.step last) := by
      unfold Workspace.locate
      rw [if_neg hne]
      simp [Path.parent, Path.name, hq, Except.map, List.getLastD_eq_getLast?]
    rw [List.reverse_append, List.reverse_singleton, List.singleton_append, Workspace.makeWay]
    simp only [List.reverse_cons, List.reverse_reverse]
    unfold Workspace.makeOne
    rw [hlocate]
    dsimp only
    rw [hdirectory]

/-! ## Staging -/

lemma notDirectory_of_any {p : Path} (h : ¬(w.entryAt? p).any Entry.isDirectory = true) :
    w.entryAt? p ≠ some .directory := by
  intro heq
  rw [heq] at h
  exact h rfl

lemma write_child {name : String} {content : ByteArray} (h : LeadsTo w directory place)
    (hname : name ≠ "..") (hwrite : w.write (directory.child name) content = .ok w') :
    w' = w.put (place.child name) (.file content) ∧
      w.entryAt? (place.child name) ≠ some .directory := by
  unfold Workspace.write at hwrite
  rw [locate_child h hname] at hwrite
  dsimp only at hwrite
  split at hwrite
  · exact absurd hwrite (by simp)
  · rename_i hentry
    exact ⟨(Except.ok.inj hwrite).symm, notDirectory_of_any hentry⟩

/-- What a written file changes. -/
structure Adds (w w' : Workspace) (place : Path) (content : ByteArray) : Prop where
  there : w'.entryAt? place = some (.file content)
  others : ∀ p, p ≠ place → w'.entryAt? p = w.entryAt? p
  keeps : KeepsDirectories w w'

lemma adds_put {name : String} {content : ByteArray} (hname : Plain name)
    (h : w.entryAt? (place.child name) ≠ some .directory) :
    Adds w (w.put (place.child name) (.file content)) (place.child name) content :=
  ⟨entryAt?_put_self (child_notAbove hname place) _, fun _ hp => entryAt?_put_ne hp _,
    keepsDirectories_put h⟩

lemma writeText_of_leadsTo {name text : String} (h : LeadsTo w directory place)
    (hname : Plain name) (hwrite : w.writeText (directory.child name) text = .ok w') :
    Adds w w' (place.child name) (Text.encode text) := by
  unfold Workspace.writeText at hwrite
  rw [parent_child, makeDirectory_of_leadsTo h] at hwrite
  dsimp only at hwrite
  split at hwrite
  · exact absurd hwrite (by simp)
  · rename_i v hv
    rw [Except.ok.injEq] at hwrite
    rw [← hwrite]
    obtain ⟨rfl, hentry⟩ := write_child h hname.1 hv
    exact adds_put hname hentry

lemma leadsTo_of_writeText {name text : String} (hname : Plain name)
    (hwrite : w.writeText (directory.child name) text = .ok w') :
    ∃ place, LeadsTo w' directory place ∧
      w'.entryAt? (place.child name) = some (.file (Text.encode text)) := by
  unfold Workspace.writeText at hwrite
  split at hwrite
  · exact absurd hwrite (by simp)
  · rename_i v _
    split at hwrite
    · exact absurd hwrite (by simp)
    · rename_i u hu
      rw [Except.ok.injEq] at hwrite
      subst hwrite
      have hlocated : ∃ q, v.locate (directory.child name) = .ok q := by
        unfold Workspace.write at hu
        split at hu
        · exact absurd hu (by simp)
        · rename_i q hq
          exact ⟨q, hq⟩
      obtain ⟨q, hq⟩ := hlocated
      obtain ⟨place, hplace, -⟩ := leadsTo_of_locate hname.1 hq
      obtain ⟨rfl, hentry⟩ := write_child hplace hname.1 hu
      have hadds : Adds v _ _ (Text.encode text) := adds_put hname hentry
      exact ⟨place, enter_of_keeps hadds.keeps hplace, hadds.there⟩

/-- The name under which a text is staged. -/
def stagingName (name : String) : String := name ++ ".tmp"

@[simp] lemma staging_child (name : String) :
    Workspace.staging (directory.child name) = directory.child (stagingName name) := by
  obtain ⟨names⟩ := directory
  simp [Workspace.staging, Path.withEnding, Path.child, Path.parent, Path.name, stagingName,
    List.getLastD_eq_getLast?]

lemma plain_stagingName (name : String) : Plain (stagingName name) := by
  have hlength : 4 ≤ (stagingName name).toList.length := by
    unfold stagingName
    rw [String.toList_append, List.length_append]
    have htmp : ".tmp".toList.length = 4 := by decide
    omega
  refine ⟨?_, ?_⟩
  · intro h
    rw [h] at hlength
    exact absurd hlength (by decide)
  · intro h
    rw [h] at hlength
    exact absurd hlength (by decide)

lemma child_injective {p : Path} {a b : String} (h : p.child a = p.child b) : a = b := by
  have hnames : p.names ++ [a] = p.names ++ [b] := congrArg Path.names h
  simpa using hnames

/-- The texts with their paths in a directory. -/
def placed (directory : Path) (texts : List (String × String)) : List (Path × String) :=
  texts.map fun t => (directory.child t.1, t.2)

lemma stage_of_leadsTo {texts : List (String × String)} {staged : List Path}
    (h : LeadsTo w directory place) (hnodup : (texts.map fun t => stagingName t.1).Nodup)
    (hstage : w.stage staged (placed directory texts) = .ok w') :
    LeadsTo w' directory place ∧
      (∀ t ∈ texts, w'.entryAt? (place.child (stagingName t.1)) =
        some (.file (Text.encode t.2))) ∧
      ∀ p, (∀ t ∈ texts, p ≠ place.child (stagingName t.1)) → w'.entryAt? p = w.entryAt? p := by
  induction texts generalizing w staged with
  | nil =>
    have heq : w = w' := Except.ok.inj hstage
    subst heq
    exact ⟨h, by simp, fun _ _ => rfl⟩
  | cons t texts ih =>
    rw [List.map_cons, List.nodup_cons] at hnodup
    obtain ⟨hnew, hrest⟩ := hnodup
    unfold placed at hstage
    rw [List.map_cons, Workspace.stage] at hstage
    split at hstage
    · rename_i v hv
      rw [staging_child] at hv
      have hadds := writeText_of_leadsTo h (plain_stagingName t.1) hv
      obtain ⟨hleads, hstaged, hothers⟩ := ih (enter_of_keeps hadds.keeps h) hrest hstage
      refine ⟨hleads, ?_, ?_⟩
      · intro u hu
        obtain rfl | hu := List.mem_cons.mp hu
        · rw [hothers _ (by
            intro x hx heq
            exact hnew (List.mem_map.mpr ⟨x, hx, (child_injective heq).symm⟩))]
          exact hadds.there
        · exact hstaged u hu
      · intro p hp
        rw [hothers p fun u hu => hp u (List.mem_cons_of_mem t hu)]
        exact hadds.others p (hp t List.mem_cons_self)
    · exact absurd hstage (by simp)

/-! ## Moving into place -/

lemma read_child {name : String} {content : ByteArray} (h : LeadsTo w directory place)
    (hname : name ≠ "..") (hentry : w.entryAt? (place.child name) = some (.file content)) :
    w.read (directory.child name) = .ok content := by
  unfold Workspace.read Workspace.find
  rw [locate_child h hname]
  dsimp only
  rw [hentry]

lemma rename_child {source target : String} {content : ByteArray} (h : LeadsTo w directory place)
    (hsource : Plain source) (htarget : Plain target) (hne : source ≠ target)
    (hentry : w.entryAt? (place.child source) = some (.file content))
    (hrename : w.rename (directory.child source) (directory.child target) = .ok w') :
    LeadsTo w' directory place ∧ w'.entryAt? (place.child target) = some (.file content) ∧
      ∀ p, p ≠ place.child source → p ≠ place.child target → w'.entryAt? p = w.entryAt? p := by
  unfold Workspace.rename at hrename
  rw [read_child h hsource.1 hentry] at hrename
  dsimp only at hrename
  rw [locate_child h htarget.1] at hrename
  dsimp only at hrename
  split at hrename
  · exact absurd hrename (by simp)
  · rename_i hoccupied
    have hfree := notDirectory_of_any hoccupied
    have hdiscard : w.discard (directory.child source) = w.erase (place.child source) := by
      unfold Workspace.discard
      rw [locate_child h hsource.1]
    rw [Except.ok.injEq, hdiscard] at hrename
    subst hrename
    have herase : KeepsDirectories w (w.erase (place.child source)) :=
      keepsDirectories_erase (by rw [hentry]; simp)
    have htargetne : place.child target ≠ place.child source :=
      fun heq => hne (child_injective heq).symm
    have hstill :
        (w.erase (place.child source)).entryAt? (place.child target) ≠ some .directory := by
      rw [entryAt?_erase_ne htargetne]
      exact hfree
    have hput : KeepsDirectories (w.erase (place.child source)) _ :=
      keepsDirectories_put (e := .file content) hstill
    refine ⟨enter_of_keeps hput (enter_of_keeps herase h),
      entryAt?_put_self (child_notAbove htarget place) _, ?_⟩
    intro p hsourcep htargetp
    rw [entryAt?_put_ne htargetp, entryAt?_erase_ne hsourcep]

lemma stagingName_injective {a b : String} (h : stagingName a = stagingName b) : a = b := by
  have hlist := congrArg String.toList h
  unfold stagingName at hlist
  rw [String.toList_append, String.toList_append, List.append_cancel_right_eq] at hlist
  rw [← String.toList_inj, hlist]

/-- Names of files that can be written together: distinct, and none that another is staged under. -/
structure Apart (names : List String) : Prop where
  plain : ∀ a ∈ names, Plain a
  distinct : names.Nodup
  staging : ∀ a ∈ names, ∀ b ∈ names, a ≠ stagingName b

lemma apart_of_cons {a : String} {names : List String} (h : Apart (a :: names)) : Apart names :=
  ⟨fun b hb => h.plain b (List.mem_cons_of_mem a hb), (List.nodup_cons.mp h.distinct).2,
    fun b hb c hc => h.staging b (List.mem_cons_of_mem a hb) c (List.mem_cons_of_mem a hc)⟩

/-- Moving staged files into place gives every name its text and changes nothing else. -/
lemma swap_of_leadsTo {texts : List (String × String)} (h : LeadsTo w directory place)
    (hapart : Apart (texts.map Prod.fst))
    (hstaged : ∀ t ∈ texts, w.entryAt? (place.child (stagingName t.1)) =
      some (.file (Text.encode t.2)))
    (hswap : w.swap (Entries.keys (placed directory texts)) = .ok w') :
    LeadsTo w' directory place ∧
      (∀ t ∈ texts, w'.entryAt? (place.child t.1) = some (.file (Text.encode t.2))) ∧
      ∀ p, (∀ t ∈ texts, p ≠ place.child t.1 ∧ p ≠ place.child (stagingName t.1)) →
        w'.entryAt? p = w.entryAt? p := by
  induction texts generalizing w with
  | nil =>
    have heq : w = w' := Except.ok.inj hswap
    subst heq
    exact ⟨h, by simp, fun _ _ => rfl⟩
  | cons t texts ih =>
    have hself : t.1 ∈ (t :: texts).map Prod.fst := List.mem_map.mpr ⟨t, List.mem_cons_self, rfl⟩
    have hlater : ∀ u ∈ texts, u.1 ∈ (t :: texts).map Prod.fst := fun u hu =>
      List.mem_map.mpr ⟨u, List.mem_cons_of_mem t hu, rfl⟩
    have hnew : ∀ u ∈ texts, t.1 ≠ u.1 := fun u hu heq =>
      (List.nodup_cons.mp hapart.distinct).1 (List.mem_map.mpr ⟨u, hu, heq.symm⟩)
    unfold placed Entries.keys at hswap
    rw [List.map_cons, List.map_cons, Workspace.swap] at hswap
    split at hswap
    · rename_i v hv
      rw [staging_child] at hv
      obtain ⟨hleads, hthere, hothers⟩ := rename_child h (plain_stagingName t.1)
        (hapart.plain _ hself) (Ne.symm (hapart.staging _ hself _ hself))
        (hstaged t List.mem_cons_self) hv
      have hstill : ∀ u ∈ texts, v.entryAt? (place.child (stagingName u.1)) =
          some (.file (Text.encode u.2)) := by
        intro u hu
        rw [hothers _ ?_ ?_]
        · exact hstaged u (List.mem_cons_of_mem t hu)
        · exact fun heq => hnew u hu (stagingName_injective (child_injective heq)).symm
        · exact fun heq => hapart.staging _ hself _ (hlater u hu) (child_injective heq).symm
      obtain ⟨hleads', hplaced, hothers'⟩ := ih hleads (apart_of_cons hapart) hstill hswap
      refine ⟨hleads', ?_, ?_⟩
      · intro u hu
        obtain rfl | hu := List.mem_cons.mp hu
        · rw [hothers' _ (by
            intro x hx
            exact ⟨fun heq => hnew x hx (child_injective heq),
              fun heq => hapart.staging _ hself _ (hlater x hx) (child_injective heq)⟩)]
          exact hthere
        · exact hplaced u hu
      · intro p hp
        obtain ⟨hname, hstaging⟩ := hp t List.mem_cons_self
        rw [hothers' p fun u hu => hp u (List.mem_cons_of_mem t hu)]
        exact hothers p hstaging hname
    · exact absurd hswap (by simp)

/-- Texts that are written together into a directory are read back from their paths. -/
theorem read_of_writeTexts {texts : List (String × String)} (hapart : Apart (texts.map Prod.fst))
    (hwrite : w.writeTexts (placed directory texts) = .ok w') :
    ∀ t ∈ texts, w'.read (directory.child t.1) = .ok (Text.encode t.2) := by
  cases texts with
  | nil => simp
  | cons t texts =>
    have hnodup : ((t :: texts).map fun u => stagingName u.1).Nodup := by
      have hmap := hapart.distinct.map fun _ _ heq => stagingName_injective heq
      rw [List.map_map] at hmap
      exact hmap
    rw [List.map_cons, List.nodup_cons] at hnodup
    obtain ⟨hnew, hrest⟩ := hnodup
    unfold Workspace.writeTexts at hwrite
    split at hwrite
    · rename_i staged hstage
      unfold placed at hstage
      rw [List.map_cons, Workspace.stage] at hstage
      split at hstage
      · rename_i v hv
        rw [staging_child] at hv
        -- The first text makes the directory, the others find it there.
        obtain ⟨place, hleads, hfirst⟩ := leadsTo_of_writeText (plain_stagingName t.1) hv
        obtain ⟨hstagedLeads, hothersThere, hothers⟩ := stage_of_leadsTo hleads hrest hstage
        have hstaged : ∀ u ∈ t :: texts, staged.entryAt? (place.child (stagingName u.1)) =
            some (.file (Text.encode u.2)) := by
          intro u hu
          obtain rfl | hu := List.mem_cons.mp hu
          · rw [hothers _ (by
              intro x hx heq
              exact hnew (List.mem_map.mpr ⟨x, hx, (child_injective heq).symm⟩))]
            exact hfirst
          · exact hothersThere u hu
        obtain ⟨hfinal, hplaced, -⟩ := swap_of_leadsTo hstagedLeads hapart hstaged hwrite
        intro u hu
        have hname : u.1 ∈ (t :: texts).map Prod.fst := List.mem_map.mpr ⟨u, hu, rfl⟩
        exact read_child hfinal (hapart.plain _ hname).1 (hplaced u hu)
      · exact absurd hstage (by simp)
    · exact absurd hwrite (by simp)

/-! ## The tables of a story -/

lemma encode_eq_of_data {s : String} {bytes : List UInt8}
    (h : (Text.encode s).data.toList = bytes) : Text.encode s = ⟨bytes.toArray⟩ := by
  rw [← h]

@[simp] lemma decodeMarked?_encode (s : String) :
    Text.decodeMarked? (Text.encode s) = some (Text.dropMark s.toList) := by
  have hends : Text.endsInMark (Text.encode s) = false := by
    have hone : Text.decode? ⟨#[0xEF]⟩ = none := by decide +kernel
    have htwo : Text.decode? ⟨#[0xEF, 0xBB]⟩ = none := by decide +kernel
    have hdecode := Text.decode?_encode s
    rw [Bool.eq_false_iff]
    intro hends
    unfold Text.endsInMark at hends
    split at hends
    · rename_i a hbytes
      have ha : a = 0xEF := by simpa using hends
      rw [encode_eq_of_data hbytes, ha, hone] at hdecode
      exact absurd hdecode (by simp)
    · rename_i a b hbytes
      have hab : a = 0xEF ∧ b = 0xBB := by simpa using hends
      rw [encode_eq_of_data hbytes, hab.1, hab.2, htwo] at hdecode
      exact absurd hdecode (by simp)
    · exact absurd hends (by simp)
  unfold Text.decodeMarked?
  rw [hends, Text.decode?_encode]
  rfl

lemma table_head (s : Story) (kind : EntityKind) : ∃ cs, (s.table kind).toList = 'i' :: cs := by
  have hid : (Csv.escape "id").toList = ['i', 'd'] := by decide
  have hline : ∀ column columns,
      ∃ cs, (Csv.line ("id" :: column :: columns)).toList = 'i' :: cs := by
    intro column columns
    rw [line_cons, hid]
    exact ⟨_, rfl⟩
  have hlines : ∀ column columns lines,
      ∃ cs, linesText (("id" :: column :: columns) :: lines) = 'i' :: cs := by
    intro column columns lines
    obtain ⟨cs, hcs⟩ := hline column columns
    cases lines with
    | nil =>
      rw [linesText_singleton, hcs]
      exact ⟨_, rfl⟩
    | cons l lines =>
      rw [linesText_cons, hcs]
      exact ⟨_, rfl⟩
  rw [table_eq]
  cases kind <;> exact hlines _ _ _

/-- The files of the tables hold the texts that a story is written as. -/
def HoldsTables (w : Workspace) (s : Settings) (story : Story) : Prop :=
  ∀ kind, w.read (s.table kind) = .ok (Text.encode (story.table kind))

/-- After writing the tables of a story, their files hold its texts. -/
theorem holdsTables_of_writeTables {s : Settings} {stamp : Int} {story : Story}
    {backups : List Path} (h : Desk.writeTables s stamp story w = .ok (backups, w')) :
    HoldsTables w' s story := by
  intro kind
  have hapart : Apart (EntityKind.all.map EntityKind.file) := by
    refine ⟨?_, by decide, ?_⟩
    · unfold Plain
      decide
    · unfold stagingName
      decide
  have hall : placed s.tables (EntityKind.all.map fun k => (k.file, story.table k)) =
      EntityKind.all.map fun k => (s.table k, story.table k) := by
    rw [placed, List.map_map]
    rfl
  unfold Desk.writeTables at h
  split at h
  · exact absurd h (by simp)
  · split at h
    · exact absurd h (by simp)
    · rename_i u hu
      simp only [Except.ok.injEq, Prod.mk.injEq] at h
      rw [← h.2]
      rw [← hall] at hu
      have hmem : kind ∈ EntityKind.all := by cases kind <;> decide
      exact read_of_writeTexts (by rw [List.map_map]; exact hapart) hu
        (kind.file, story.table kind) (List.mem_map.mpr ⟨kind, hmem, rfl⟩)

/-- The table of a story is read back as its lines, unless a field does not fit. -/
theorem readTable_of_holdsTables {s : Settings} {story : Story} (h : HoldsTables w s story)
    (kind : EntityKind) :
    w.readTable (s.table kind) =
      if ∀ l ∈ storyLines story kind, ∀ f ∈ l, FitsField f then
        .ok (Csv.rows (storyLines story kind))
      else .error (.unreadable (s.table kind) (.table .oversized)) := by
  obtain ⟨cs, hcs⟩ := table_head story kind
  have hmark : Text.dropMark (story.table kind).toList = (story.table kind).toList := by
    rw [hcs]
    rfl
  unfold Workspace.readTable
  rw [h kind]
  dsimp only
  rw [decodeMarked?_encode, hmark]
  dsimp only
  unfold Csv.read
  rw [records_table]
  by_cases hfit : ∀ l ∈ storyLines story kind, ∀ f ∈ l, FitsField f
  · rw [if_pos hfit, if_pos hfit]
    rfl
  · rw [if_neg hfit, if_neg hfit]
    rfl

/-- The tables of a story are read back together exactly when every field fits. -/
theorem readTables_of_holdsTables {s : Settings} {story : Story} (h : HoldsTables w s story)
    {t : Tables} :
    w.readTables s.tables = .ok t ↔
      FitsFields story ∧ t = .ofKinds fun kind => Csv.rows (storyLines story kind) := by
  have hkind := readTable_of_holdsTables h
  have hread : w.readTables s.tables = (do
      let nodes ← w.readTable (s.table .node)
      let items ← w.readTable (s.table .item)
      let enemies ← w.readTable (s.table .enemy)
      let encounters ← w.readTable (s.table .encounter)
      return ⟨nodes, items, enemies, encounters⟩) := rfl
  rw [hread, hkind, hkind, hkind, hkind]
  constructor
  · intro hok
    by_cases hnode : ∀ l ∈ storyLines story .node, ∀ f ∈ l, FitsField f
    · by_cases hitem : ∀ l ∈ storyLines story .item, ∀ f ∈ l, FitsField f
      · by_cases henemy : ∀ l ∈ storyLines story .enemy, ∀ f ∈ l, FitsField f
        · by_cases hencounter : ∀ l ∈ storyLines story .encounter, ∀ f ∈ l, FitsField f
          · rw [if_pos hnode, if_pos hitem, if_pos henemy, if_pos hencounter] at hok
            refine ⟨?_, (Except.ok.inj hok).symm⟩
            intro kind
            cases kind
            · exact hnode
            · exact hitem
            · exact henemy
            · exact hencounter
          · rw [if_neg hencounter, if_pos hnode, if_pos hitem, if_pos henemy] at hok
            exact absurd hok (by simp [bind, Except.bind])
        · rw [if_neg henemy, if_pos hnode, if_pos hitem] at hok
          exact absurd hok (by simp [bind, Except.bind])
      · rw [if_neg hitem, if_pos hnode] at hok
        exact absurd hok (by simp [bind, Except.bind])
    · rw [if_neg hnode] at hok
      exact absurd hok (by simp [bind, Except.bind])
  · rintro ⟨hfits, rfl⟩
    rw [if_pos (hfits .node), if_pos (hfits .item), if_pos (hfits .enemy),
      if_pos (hfits .encounter)]
    rfl

end Gamebook.Proofs
