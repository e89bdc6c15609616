import Gamebook.Proofs.CompiledRows

/-!
# What tables give

Whatever the tables hold, a story that compiles from them is representable, its numbers are
settled, and it is in its normal form but for encounters without a name. So it can be written
and compiled again without losing anything.
-/

namespace Gamebook.Proofs

/-- An encounter that goes by its id where it has no name. -/
def namedEncounter (e : Encounter) : Encounter := { e with name := some (e.name.getD e.id.text) }

/-- The story with a name for every encounter. -/
def namedStory (s : Story) : Story :=
  { s with encounters := mapEntities namedEncounter (fun _ => rfl) s.encounters }

/-! ## Cells -/

lemma withoutEmpty_eq_self {o : Option String} (h : ∀ s ∈ o, s ≠ "") : withoutEmpty o = o := by
  cases o with
  | none => rfl
  | some s => simp [withoutEmpty, h s rfl]

lemma withoutEmptyList_eq_self {α : Type} {o : Option (List α)} (h : ∀ l ∈ o, l ≠ []) :
    withoutEmptyList o = o := by
  cases o with
  | none => rfl
  | some l => simp [withoutEmptyList, h l rfl]

lemma map_eq_self {α : Type} {f : α → α} {o : Option α} (h : ∀ x ∈ o, f x = x) : o.map f = o := by
  cases o with
  | none => rfl
  | some x => rw [Option.map_some, h x rfl]

lemma list_map_eq_self {α : Type} {f : α → α} {l : List α} (h : ∀ x ∈ l, f x = x) :
    l.map f = l :=
  (List.map_congr_left h).trans (List.map_id l)

lemma getD_forall {α : Type} {P : α → Prop} {o : Option (List α)} (h : ∀ l ∈ o, ∀ x ∈ l, P x) :
    ∀ x ∈ o.getD [], P x := by
  cases o with
  | none => simp
  | some l => exact h l rfl

lemma text_of_ofText? {s : String} {id : Filled} (h : Filled.ofText? s = some id) :
    id.text = s := by
  unfold Filled.ofText? at h
  by_cases hs : s = ""
  · rw [dif_pos hs] at h
    exact absurd h (by simp)
  · rw [dif_neg hs, Option.some.injEq] at h
    rw [← h]

lemma ok_of_toOption {α : Type} {r : Except TokenFault α} {a : α} (h : a ∈ r.toOption) :
    r = .ok a := by
  cases r with
  | error fault => simp [Except.toOption] at h
  | ok b => simpa [Except.toOption] using h

lemma mem_readable {α : Type} {read : Token → Except TokenFault α} {cell : String} {x : α}
    (h : x ∈ readable read cell) : ∃ s, read (.ofText s) = .ok x := by
  obtain ⟨s, -, hs⟩ := List.mem_filterMap.mp h
  exact ⟨s, ok_of_toOption hs⟩

lemma settled_numberIn {s : String} (hs : Trimmed s) {k : ℤ} (hk : k = 0 ∨ k = 1 ∨ k = 10) :
    SettledNumber (numberIn s (.int k)) := by
  rw [← numberOr_text hs]
  exact settled_numberOr s (settled_int_small hk)

/-! ## Choices and nodes -/

/-- A choice as tables give it. -/
structure CompiledChoice (c : Choice) : Prop where
  representable : RepresentableChoice c
  normal : normalChoice c = c
  settled : settledChoice c = c

lemma compiled_choiceIn {row : Row} {slot : ℕ} {c : Choice} (h : choiceIn row slot = some c) :
    CompiledChoice c := by
  simp only [choiceIn, Option.bind_eq_bind, Option.bind_eq_some_iff, Option.pure_def,
    Option.some.injEq] at h
  obtain ⟨id, hid, m, hm, rfl⟩ := h
  obtain ⟨hrepresentable, hnormal, hsettled⟩ := settled_of_mechanic (ok_of_toOption hm)
  have hrequirements : ∀ l ∈ nonempty?
      (readable Requirement.ofToken (row.cell (choiceColumn slot "visibility"))),
      l ≠ [] ∧ ∀ r ∈ l, SettledRequirement r := by
    intro l hl
    obtain ⟨rfl, hne⟩ := nonempty?_eq_some hl
    refine ⟨hne, fun r hr => ?_⟩
    obtain ⟨s, hs⟩ := mem_readable hr
    exact settled_of_requirement hs
  refine ⟨⟨?_, ?_, ?_, ?_⟩, ?_, ?_⟩
  · rw [text_of_ofText? hid]
    exact trimmed_rowCell _ _
  · exact trimmed_rowCell _ _
  · exact getD_forall fun l hl r hr => ((hrequirements l hl).2 r hr).1
  · exact hrepresentable
  · unfold normalChoice
    rw [withoutEmptyList_eq_self fun l hl => (hrequirements l hl).1, hnormal]
  · unfold settledChoice
    rw [map_eq_self fun l hl => list_map_eq_self fun r hr => ((hrequirements l hl).2 r hr).2,
      hsettled]

/-- A node as tables give it. -/
structure CompiledNode (n : Node) : Prop where
  representable : RepresentableNode n
  normal : normalNode n = n
  settled : settledNode n = n

lemma compiled_node {row : Row} {n : Node} (h : NodeOfRow row n) : CompiledNode n := by
  have honEnter : ∀ l ∈ n.onEnter, l ≠ [] ∧ ∀ a ∈ l, SettledAction a := by
    intro l hl
    obtain ⟨rfl, hne⟩ := nonempty?_eq_some (h.onEnter.symm.trans hl)
    refine ⟨hne, fun a ha => ?_⟩
    obtain ⟨s, hs⟩ := mem_readable ha
    exact settled_of_ofToken hs
  have hchoices : ∀ l ∈ n.choices, l ≠ [] ∧ ∀ c ∈ l, CompiledChoice c := by
    intro l hl
    obtain ⟨rfl, hne⟩ := nonempty?_eq_some (h.choices.symm.trans hl)
    refine ⟨hne, fun c hc => ?_⟩
    obtain ⟨slot, -, hslot⟩ := List.mem_filterMap.mp hc
    exact compiled_choiceIn hslot
  have himage : ∀ s ∈ n.image, Trimmed s ∧ s ≠ "" := fun s hs => mem_cell? (h.image ▸ hs)
  refine ⟨⟨?_, ?_, ?_, ?_, ?_, ?_⟩, ?_, ?_⟩
  · exact h.id ▸ trimmed_rowCell _ _
  · exact h.type ▸ trimmed_rowCell _ _
  · exact h.text ▸ trimmed_rowCell _ _
  · exact fun s hs => (himage s hs).1
  · exact getD_forall fun l hl a ha => ((honEnter l hl).2 a ha).1
  · exact getD_forall fun l hl c hc => ((hchoices l hl).2 c hc).representable
  · unfold normalNode
    rw [withoutEmpty_eq_self fun s hs => (himage s hs).2,
      withoutEmptyList_eq_self fun l hl => (honEnter l hl).1,
      withoutEmptyList_eq_self fun l hl => (hchoices l hl).1,
      map_eq_self fun l hl => list_map_eq_self fun c hc => ((hchoices l hl).2 c hc).normal]
  · unfold settledNode
    rw [map_eq_self fun l hl => list_map_eq_self fun a ha => ((honEnter l hl).2 a ha).2,
      map_eq_self fun l hl => list_map_eq_self fun c hc => ((hchoices l hl).2 c hc).settled]

/-! ## The other entities -/

/-- An item as tables give it. -/
structure CompiledItem (i : Item) : Prop where
  representable : RepresentableItem i
  normal : normalItem i = i
  settled : settledItem i = i

lemma settled_optionalNumber {row : Row} {column : String} {o : Option Number}
    (ho : o = (row.cell? column).map fun s => numberIn s 0) : ∀ n ∈ o, SettledNumber n := by
  intro n hn
  obtain ⟨s, hs, rfl⟩ := Option.map_eq_some_iff.mp (ho.symm.trans hn)
  exact settled_numberIn (mem_cell? hs).1 (.inl rfl)

lemma trimmed_name (row : Row) :
    Trimmed ((row.cell? "name").getD (row.cell "id")) := by
  cases h : row.cell? "name" with
  | none => exact trimmed_rowCell row "id"
  | some s => exact (mem_cell? h).1

lemma nameOrId_eq_self {name : String} {id : Filled} (h : name ≠ "") : nameOrId name id = name :=
  if_neg h

lemma name_ne_empty {row : Row} {id : Filled} (hid : id.text = row.cell "id") :
    (row.cell? "name").getD (row.cell "id") ≠ "" := by
  cases h : row.cell? "name" with
  | none => exact hid ▸ id.filled
  | some s => exact (mem_cell? h).2

lemma compiled_item {row : Row} {i : Item} (h : ItemOfRow row i) : CompiledItem i := by
  have hdamage : ∀ s ∈ i.damage, Trimmed s ∧ s ≠ "" := fun s hs => mem_cell? (h.damage ▸ hs)
  have hscaling : ∀ s ∈ i.scalingAttribute, Trimmed s ∧ s ≠ "" :=
    fun s hs => mem_cell? (h.scalingAttribute ▸ hs)
  have hattack := settled_optionalNumber h.attackBonus
  have harmor := settled_optionalNumber h.armorBonus
  have heffect : ∀ a ∈ i.effect, SettledAction a := by
    intro a ha
    obtain ⟨s, -, hs⟩ := Option.bind_eq_some_iff.mp (h.effect.symm.trans ha)
    exact settled_of_ofToken (ok_of_toOption hs)
  have hname : i.name ≠ "" := h.name ▸ name_ne_empty h.id
  refine ⟨⟨h.id ▸ trimmed_rowCell _ _, h.name ▸ trimmed_name row, h.type ▸ trimmed_rowCell _ _,
    fun s hs => (hdamage s hs).1, fun n hn => (hattack n hn).1, fun n hn => (harmor n hn).1,
    fun a ha => (heffect a ha).1, fun s hs => (hscaling s hs).1⟩, ?_, ?_⟩
  · unfold normalItem
    rw [nameOrId_eq_self hname, withoutEmpty_eq_self fun s hs => (hdamage s hs).2,
      withoutEmpty_eq_self fun s hs => (hscaling s hs).2]
  · unfold settledItem
    rw [map_eq_self fun n hn => (hattack n hn).2, map_eq_self fun n hn => (harmor n hn).2,
      map_eq_self fun a ha => (heffect a ha).2]

/-- An enemy as tables give it. -/
structure CompiledEnemy (e : Enemy) : Prop where
  representable : RepresentableEnemy e
  normal : normalEnemy e = e
  settled : settledEnemy e = e

lemma compiled_enemy {row : Row} {e : Enemy} (h : EnemyOfRow row e) : CompiledEnemy e := by
  have hhp : SettledNumber e.hp :=
    h.hp ▸ settled_numberIn (trimmed_rowCell _ _) (.inr (.inl rfl))
  have harmor : SettledNumber e.armor :=
    h.armor ▸ settled_numberIn (trimmed_rowCell _ _) (.inr (.inr rfl))
  have hattack : SettledNumber e.attackBonus :=
    h.attackBonus ▸ settled_numberIn (trimmed_rowCell _ _) (.inl rfl)
  have hreward : SettledNumber e.reward :=
    h.reward ▸ settled_numberIn (trimmed_rowCell _ _) (.inl rfl)
  have hdamage : Trimmed e.damage.text := by
    rw [h.damage]
    cases hcell : row.cell? "damage" with
    | none =>
      have hdefault : Trimmed Enemy.defaultDamage.text := by decide
      exact hdefault
    | some s => exact (mem_cell? hcell).1
  refine ⟨⟨h.id ▸ trimmed_rowCell _ _, h.name ▸ trimmed_name row, hhp.1, harmor.1, hattack.1,
    hdamage, hreward.1⟩, ?_, ?_⟩
  · unfold normalEnemy
    rw [nameOrId_eq_self (h.name ▸ name_ne_empty h.id)]
  · unfold settledEnemy
    rw [hhp.2, harmor.2, hattack.2, hreward.2]

/-- An encounter as tables give it: it may have no name, but no empty one. -/
structure CompiledEncounter (e : Encounter) : Prop where
  representable : RepresentableEncounter e
  normal : normalEncounter e = namedEncounter e
  settled : settledEncounter e = e

lemma settled_spawns {row : Row} {e : Encounter} (h : EncounterOfRow row e) :
    ∀ spawn ∈ e.spawns, SettledSpawn spawn := by
  intro spawn hspawn
  obtain ⟨t, ht, hof⟩ := exists_of_forall₂ h.spawns spawn hspawn
  obtain ⟨s, -, rfl⟩ := List.mem_map.mp (List.mem_filter.mp ht).1
  have hcount : SettledNumber spawn.count :=
    hof.count ▸ settled_numberIn (tokenPart_argument s 0).1 (.inr (.inl rfl))
  refine ⟨⟨hof.enemyId ▸ (tokenPart_name s).1, hcount.1⟩, ?_⟩
  unfold settledSpawn
  rw [hcount.2]

lemma compiled_encounter {row : Row} {e : Encounter} (h : EncounterOfRow row e) :
    CompiledEncounter e := by
  have hspawns := settled_spawns h
  have hname : ∀ s ∈ e.name, Trimmed s ∧ s ≠ "" := fun s hs => mem_cell? (h.name ▸ hs)
  refine ⟨⟨h.id ▸ trimmed_rowCell _ _, fun s hs => (hname s hs).1, fun s hs => (hspawns s hs).1,
    h.onVictory ▸ trimmed_rowCell _ _, h.onDefeat ▸ trimmed_rowCell _ _⟩, ?_, ?_⟩
  · unfold normalEncounter namedEncounter
    cases hcase : e.name with
    | none => simp [nameOrId]
    | some s =>
      rw [Option.getD_some, Option.getD_some, nameOrId_eq_self (hname s hcase).2]
  · unfold settledEncounter
    rw [list_map_eq_self fun s hs => (hspawns s hs).2]

/-! ## Stories -/

section

variable {α : Type}

lemma mapEntities_eq [Keyed α] {f : α → α} {hf : ∀ x, Keyed.key (f x) = Keyed.key x}
    {g : α → α} {hg : ∀ x, Keyed.key (g x) = Keyed.key x} {c : Collection α}
    (h : ∀ x ∈ c.toList, f x = g x) : mapEntities f hf c = mapEntities g hg c := by
  unfold mapEntities
  congr 1
  exact List.map_congr_left h

lemma mapEntities_eq_self [Keyed α] {f : α → α} {hf : ∀ x, Keyed.key (f x) = Keyed.key x}
    {c : Collection α} (h : ∀ x ∈ c.toList, f x = x) : mapEntities f hf c = c := by
  obtain ⟨l, hl⟩ := c
  unfold mapEntities
  congr 1
  exact list_map_eq_self h

end

/-- A story as tables give it. -/
structure CompiledStory (s : Story) : Prop where
  representable : RepresentableStory s
  normal : normalStory s = namedStory s
  settled : settledStory s = s

/-- Whatever the rows hold, the story that compiles from them can be written and compiled again. -/
theorem compiledStory_of_compile {t : Tables} {s : Story} (h : Gives t.compile s) :
    CompiledStory s := by
  have hrows := storyOfTables_of_gives h
  have hnode : ∀ n ∈ s.nodes.toList, CompiledNode n := by
    intro n hn
    obtain ⟨row, -, hof⟩ := hrows.nodes.each n hn
    exact compiled_node hof
  have hitem : ∀ i ∈ s.items.toList, CompiledItem i := by
    intro i hi
    obtain ⟨row, -, hof⟩ := hrows.items.each i hi
    exact compiled_item hof
  have henemy : ∀ e ∈ s.enemies.toList, CompiledEnemy e := by
    intro e he
    obtain ⟨row, -, hof⟩ := hrows.enemies.each e he
    exact compiled_enemy hof
  have hencounter : ∀ e ∈ s.encounters.toList, CompiledEncounter e := by
    intro e he
    obtain ⟨row, -, hof⟩ := hrows.encounters.each e he
    exact compiled_encounter hof
  refine ⟨⟨fun n hn => (hnode n hn).representable, fun i hi => (hitem i hi).representable,
    fun e he => (henemy e he).representable, fun e he => (hencounter e he).representable⟩, ?_, ?_⟩
  · unfold normalStory namedStory
    congr 1
    · exact mapEntities_eq_self fun n hn => (hnode n hn).normal
    · exact mapEntities_eq_self fun i hi => (hitem i hi).normal
    · exact mapEntities_eq_self fun e he => (henemy e he).normal
    · exact mapEntities_eq fun e he => (hencounter e he).normal
  · obtain ⟨nodes, items, enemies, encounters⟩ := s
    unfold settledStory
    congr 1
    · exact mapEntities_eq_self fun n hn => (hnode n hn).settled
    · exact mapEntities_eq_self fun i hi => (hitem i hi).settled
    · exact mapEntities_eq_self fun e he => (henemy e he).settled
    · exact mapEntities_eq_self fun e he => (hencounter e he).settled

end Gamebook.Proofs
