import Gamebook.Desk.Load
import Gamebook.Proofs.RowRoundTrip

/-!
# Stories as JSON and back

A story is read from the object that it is written as, whatever else the object holds. So a load
response can be sent back as it is.
-/

namespace Gamebook.Proofs

open Reader

/-- The fields that hold something. -/
def present (fields : List (String × Option Json)) : Entries Json :=
  fields.flatMap fun field => fieldIf field.1 field.2

section

variable {α : Type} {fields : List (String × Option Json)}

lemma present_cons (name : String) (j : Option Json) (rest : List (String × Option Json)) :
    present ((name, j) :: rest) = fieldIf name j ++ present rest := rfl

@[simp] lemma mem_present {name : String} {j : Json} :
    (name, j) ∈ present fields ↔ (name, some j) ∈ fields := by
  unfold present fieldIf
  rw [List.mem_flatMap]
  constructor
  · rintro ⟨⟨key, value⟩, hfield, hj⟩
    cases value with
    | none => exact absurd hj (by simp)
    | some value =>
      obtain ⟨rfl, rfl⟩ := Prod.mk.inj (List.mem_singleton.mp hj)
      exact hfield
  · exact fun h => ⟨_, h, List.mem_singleton.mpr rfl⟩

lemma get?_present (name : String) (h : (fields.map Prod.fst).Nodup) :
    Entries.get? name (present fields) = (fields.lookup name).join := by
  unfold Entries.get?
  induction fields with
  | nil => rfl
  | cons field fields ih =>
    obtain ⟨key, j⟩ := field
    rw [List.map_cons, List.nodup_cons] at h
    rw [present_cons, List.lookup_append, ih h.2]
    by_cases hkey : name = key
    · subst hkey
      have hnone : fields.lookup name = none := by
        rw [List.lookup_eq_none_iff]
        intro field hfield
        rw [bne_iff_ne]
        rintro rfl
        exact h.1 (List.mem_map.mpr ⟨field, hfield, rfl⟩)
      rw [hnone, List.lookup_cons_self]
      cases j with
      | none => rfl
      | some j => simp [fieldIf]
    · have hbeq : (name == key) = false := beq_eq_false_iff_ne.mpr hkey
      have hfirst : (fieldIf key j).lookup name = none := by
        cases j with
        | none => rfl
        | some j => simp [fieldIf, hkey]
      rw [hfirst, Option.none_or]
      simp only [List.lookup_cons, hbeq]

lemma keyIn?_of_get? {f : FieldName} {object : Entries Json} {j : Json}
    (h : Entries.get? f.camel object = some j) : f.keyIn? object = some f.camel := by
  unfold FieldName.keyIn?
  rw [h]
  rfl

lemma optional_of_get? {f : FieldName} {object : Entries Json} {j : Json} {read : Reader α}
    {default a : α} (h : Entries.get? f.camel object = some j) (hread : read j = .ok a) :
    Reader.optional object f read default = .ok a := by
  have hkey : f.keyIn? object = some f.camel := keyIn?_of_get? h
  unfold Reader.optional
  rw [hkey]
  dsimp only
  rw [h, Option.getD_some, hread]
  rfl

lemma get?_camel_present {f : FieldName} {j : Json} (hnodup : (fields.map Prod.fst).Nodup)
    (h : fields.lookup f.camel = some (some j)) :
    Entries.get? f.camel (present fields) = some j := by
  rw [get?_present _ hnodup, h]
  rfl

lemma required_present {f : FieldName} {j : Json} {read : Reader α} {a : α}
    (hnodup : (fields.map Prod.fst).Nodup) (h : fields.lookup f.camel = some (some j))
    (hread : read j = .ok a) : required (present fields) f read = .ok a := by
  have hget : Entries.get? f.camel (present fields) = some j := get?_camel_present hnodup h
  have hkey : f.keyIn? (present fields) = some f.camel := keyIn?_of_get? hget
  unfold required
  rw [hkey]
  dsimp only
  rw [hget, Option.getD_some, hread]
  rfl

lemma optional_present {f : FieldName} {j : Json} {read : Reader α} {default a : α}
    (hnodup : (fields.map Prod.fst).Nodup) (h : fields.lookup f.camel = some (some j))
    (hread : read j = .ok a) : Reader.optional (present fields) f read default = .ok a :=
  optional_of_get? (get?_camel_present hnodup h) hread

lemma optional_nullable {f : FieldName} {o : Option α} {read : Reader α} {write : α → Json}
    (hnodup : (fields.map Prod.fst).Nodup) (h : fields.lookup f.camel = some (o.map write))
    (hsnake : f.snake = f.camel ∨ fields.lookup f.snake = none)
    (hread : ∀ a ∈ o, nullable read (write a) = .ok (some a)) :
    Reader.optional (present fields) f (nullable read) none = .ok o := by
  cases o with
  | some a => exact optional_present hnodup h (hread a rfl)
  | none =>
    have hcamel : Entries.get? f.camel (present fields) = none := by
      rw [get?_present _ hnodup, h]
      rfl
    have hsnakeNone : Entries.get? f.snake (present fields) = none := by
      obtain heq | hlookup := hsnake
      · rw [heq]
        exact hcamel
      · rw [get?_present _ hnodup, hlookup]
        rfl
    unfold Reader.optional FieldName.keyIn?
    rw [hcamel, hsnakeNone]
    rfl

lemma noOthers_present {names : List FieldName}
    (h : ∀ key ∈ fields.map Prod.fst, ∃ f ∈ names, f.camel = key) :
    noOthers (present fields) names = .ok () := by
  have hnone : (Entries.keys (present fields)).filter
      (fun key => !(names.filterMap fun f => f.keyIn? (present fields)).contains key) = [] := by
    rw [List.filter_eq_nil_iff]
    intro key hkey
    obtain ⟨⟨k, j⟩, hentry, rfl⟩ := List.mem_map.mp hkey
    obtain ⟨f, hf, hcamel⟩ := h k (List.mem_map.mpr ⟨_, mem_present.mp hentry, rfl⟩)
    have hthere : (Entries.get? f.camel (present fields)).isSome = true := by
      unfold Entries.get?
      rw [List.lookup_isSome_iff, hcamel]
      exact ⟨(k, j), hentry, by simp⟩
    have htaken : f.keyIn? (present fields) = some k := by
      unfold FieldName.keyIn?
      rw [if_pos hthere, hcamel]
    have hmemTaken : k ∈ names.filterMap fun f => f.keyIn? (present fields) :=
      List.mem_filterMap.mpr ⟨f, hf, htaken⟩
    simpa using hmemTaken
  unfold noOthers
  dsimp only
  rw [hnone]

lemma tagged_present {tag : FieldName} {name : String}
    {variants : List (String × (Entries Json → Checked α))} {read : Entries Json → Checked α}
    {a : α}
    (hnodup : (fields.map Prod.fst).Nodup)
    (h : fields.lookup tag.camel = some (some (.string name)))
    (hread : variants.lookup name = some read) (hok : read (present fields) = .ok a) :
    tagged tag variants (.object (present fields)) = .ok a := by
  have hget : Entries.get? tag.camel (present fields) = some (.string name) :=
    get?_camel_present hnodup h
  have hkey : tag.keyIn? (present fields) = some tag.camel := keyIn?_of_get? hget
  unfold tagged
  dsimp only
  rw [hkey, Option.bind_some, hget]
  dsimp only
  rw [hread]
  dsimp only
  rw [hok]
  rfl

end

/-! ## Leaves and lists -/

section

variable {α : Type}

@[simp] lemma arg_text (a : Arg) : arg (.string a.text) = .ok a := by
  unfold arg
  dsimp only
  rw [ofText?_text]

@[simp] lemma filled_text (s : Filled) : filled (.string s.text) = .ok s := by
  unfold filled
  dsimp only
  rw [ofText?_filled]

lemma all_map {β : Type} {f : β → Checked α} {g : β → α} {l : List β}
    (h : ∀ x ∈ l, f x = .ok (g x)) :
    Checked.all (l.map f) = .ok (l.map g) := by
  induction l with
  | nil => rfl
  | cons x l ih =>
    rw [List.map_cons, Checked.all, h x List.mem_cons_self,
      ih fun y hy => h y (List.mem_cons_of_mem x hy)]
    rfl

lemma list_toJson {read : Reader α} {write : α → Json} {l : List α}
    (h : ∀ x ∈ l, read (write x) = .ok x) : Reader.list read (.array (l.map write)) = .ok l := by
  have hall : ∀ (l : List α) (k : ℕ), (∀ x ∈ l, read (write x) = .ok x) →
      Checked.all ((l.map write).mapIdx fun i j => (read j).under (natText (k + i))) = .ok l := by
    intro l
    induction l with
    | nil => exact fun _ _ => rfl
    | cons x l ih =>
      intro k hx
      have hrest := ih (k + 1) fun y hy => hx y (List.mem_cons_of_mem x hy)
      have hshift : (fun (i : ℕ) (j : Json) => (read j).under (natText (k + 1 + i))) =
          fun i j => (read j).under (natText (k + (i + 1))) := by
        funext i j
        congr 2
        omega
      rw [hshift] at hrest
      rw [List.map_cons, List.mapIdx_cons, Checked.all, hx x List.mem_cons_self, hrest]
      rfl
  have hzero := hall l 0 h
  simp only [Nat.zero_add] at hzero
  exact hzero

lemma nullable_some {read : Reader α} {j : Json} {a : α} (hnull : j ≠ .null) (h : read j = .ok a) :
    nullable read j = .ok (some a) := by
  unfold nullable
  split
  · exact absurd rfl hnull
  · rw [h]
    rfl

end

/-! ## Kinds with one field -/

/-- A kind and one field. -/
def kindFields (tag name key : String) (j : Json) : List (String × Option Json) :=
  [(tag, some (.string name)), (key, some j)]

section

variable {α β : Type} {tag name : String} {field : FieldName} {j : Json} {read : Reader β}
  {make : β → α} {b : β} {variants : List (String × (Entries Json → Checked α))}

lemma nodup_kindFields (hne : tag ≠ field.camel) :
    ((kindFields tag name field.camel j).map Prod.fst).Nodup := by
  simp [kindFields, hne]

lemma lookup_kindFields (hne : tag ≠ field.camel) :
    (kindFields tag name field.camel j).lookup field.camel = some (some j) := by
  have hother : (field.camel == tag) = false := by simp [Ne.symm hne]
  simp [kindFields, List.lookup_cons, hother]

lemma noOthers_kindFields :
    noOthers (present (kindFields tag name field.camel j)) [one tag, field] = .ok () :=
  noOthers_present (by simp [kindFields, one, FieldName.word])

lemma tagged_required (field : FieldName) (hne : tag ≠ field.camel) (hread : read j = .ok b)
    (hvariant : variants.lookup name =
      some fun f => make <$> required f field read <* noOthers f [one tag, field]) :
    tagged (one tag) variants (.object (present (kindFields tag name field.camel j))) =
      .ok (make b) := by
  have hfield : required (present (kindFields tag name field.camel j)) field read = .ok b :=
    required_present (nodup_kindFields hne) (lookup_kindFields hne) hread
  refine tagged_present (nodup_kindFields hne) (by simp [kindFields, one, FieldName.word])
    hvariant ?_
  rw [hfield, noOthers_kindFields]
  rfl

lemma tagged_optional (field : FieldName) {default : β} (hne : tag ≠ field.camel)
    (hread : read j = .ok b) (hvariant : variants.lookup name =
      some fun f => make <$> Reader.optional f field read default <* noOthers f [one tag, field]) :
    tagged (one tag) variants (.object (present (kindFields tag name field.camel j))) =
      .ok (make b) := by
  have hfield : Reader.optional (present (kindFields tag name field.camel j)) field read default =
      .ok b := optional_present (nodup_kindFields hne) (lookup_kindFields hne) hread
  refine tagged_present (nodup_kindFields hne) (by simp [kindFields, one, FieldName.word])
    hvariant ?_
  rw [hfield, noOthers_kindFields]
  rfl

end

/-! ## Actions and requirements -/

/-- The kind of an action and its fields. -/
def actionFields : Action → List (String × Option Json)
  | .setFlag key value =>
    [("action", some "set_flag"), ("key", some key.text), ("value", some (.bool value))]
  | .addItem itemId n =>
    [("action", some "add_item"), ("itemId", some itemId.text), ("qty", some (.number n))]
  | .removeItem itemId n =>
    [("action", some "remove_item"), ("itemId", some itemId.text), ("qty", some (.number n))]
  | .adjustHp n => [("action", some "adjust_hp"), ("amount", some (.number n))]
  | .adjustCurrency n => [("action", some "adjust_currency"), ("amount", some (.number n))]
  | .heal amount => [("action", some "heal"), ("amount", some amount.text)]

lemma action_toJson (a : Action) : a.toJson = .object (present (actionFields a)) := by
  cases a <;> rfl

/-- Giving and taking an item are read alike. -/
lemma itemAction_ofJson {make : Arg → Number → Action} {name : String} (itemId : Arg) (n : Number)
    (hvariant : Action.variants.lookup name = some fun f =>
      make <$> required f itemIdField arg <*> Reader.optional f (one "qty") number 1
        <* noOthers f [one "action", itemIdField, one "qty"]) :
    Action.ofJson (.object (present
      [("action", some (.string name)), ("itemId", some (.string itemId.text)),
        ("qty", some (.number n))])) = .ok (make itemId n) := by
  have hnodup : ([("action", some (Json.string name)), ("itemId", some (.string itemId.text)),
      ("qty", some (.number n))].map Prod.fst).Nodup := by simp
  have hitem : required (present [("action", some (.string name)),
      ("itemId", some (.string itemId.text)), ("qty", some (.number n))]) itemIdField arg =
      .ok itemId := required_present hnodup rfl (arg_text itemId)
  have hqty : Reader.optional (present [("action", some (.string name)),
      ("itemId", some (.string itemId.text)), ("qty", some (.number n))]) (one "qty") number 1 =
      .ok n := optional_present hnodup rfl rfl
  have hothers : noOthers (present [("action", some (.string name)),
      ("itemId", some (.string itemId.text)), ("qty", some (.number n))])
      [one "action", itemIdField, one "qty"] = .ok () :=
    noOthers_present (by simp [itemIdField, one, FieldName.word])
  refine tagged_present hnodup rfl hvariant ?_
  rw [hitem, hqty, hothers]
  rfl

@[simp] lemma action_ofJson (a : Action) : Action.ofJson a.toJson = .ok a := by
  rw [action_toJson]
  cases a with
  | setFlag key value =>
    have hnodup : ((actionFields (.setFlag key value)).map Prod.fst).Nodup := by
      simp [actionFields]
    have hkey : required (present (actionFields (.setFlag key value))) (one "key") arg = .ok key :=
      required_present hnodup rfl (arg_text key)
    have hvalue : Reader.optional (present (actionFields (.setFlag key value))) (one "value")
        bool true = .ok value := optional_present hnodup rfl rfl
    have hothers : noOthers (present (actionFields (.setFlag key value)))
        [one "action", one "key", one "value"] = .ok () :=
      noOthers_present (by simp [actionFields, one, FieldName.word])
    refine tagged_present hnodup rfl rfl ?_
    rw [hkey, hvalue, hothers]
    rfl
  | addItem itemId n => exact itemAction_ofJson itemId n rfl
  | removeItem itemId n => exact itemAction_ofJson itemId n rfl
  | adjustHp n => exact tagged_optional (one "amount") (by decide) rfl rfl
  | adjustCurrency n => exact tagged_optional (one "amount") (by decide) rfl rfl
  | heal amount => exact tagged_optional (one "amount") (by decide) (arg_text amount) rfl

/-- The kind of a requirement and its fields. -/
def requirementFields : Requirement → List (String × Option Json)
  | .hasFlag key => [("type", some "has_flag"), ("key", some key.text)]
  | .notHasFlag key => [("type", some "not_has_flag"), ("key", some key.text)]
  | .hasItem itemId => [("type", some "has_item"), ("itemId", some itemId.text)]
  | .statCheck stat operator n =>
    [("type", some "stat_check"), ("stat", some stat.text), ("operator", some operator.text),
      ("value", some (.number n))]

lemma requirement_toJson (r : Requirement) :
    r.toJson = .object (present (requirementFields r)) := by
  cases r <;> rfl

@[simp] lemma requirement_ofJson (r : Requirement) : Requirement.ofJson r.toJson = .ok r := by
  rw [requirement_toJson]
  cases r with
  | hasFlag key => exact tagged_required (one "key") (by decide) (arg_text key) rfl
  | notHasFlag key => exact tagged_required (one "key") (by decide) (arg_text key) rfl
  | hasItem itemId => exact tagged_required itemIdField (by decide) (arg_text itemId) rfl
  | statCheck stat operator n =>
    have hnodup : ((requirementFields (.statCheck stat operator n)).map Prod.fst).Nodup := by
      simp [requirementFields]
    have hstat : required (present (requirementFields (.statCheck stat operator n))) (one "stat")
        arg = .ok stat := required_present hnodup rfl (arg_text stat)
    have hoperator : required (present (requirementFields (.statCheck stat operator n)))
        (one "operator") arg = .ok operator := required_present hnodup rfl (arg_text operator)
    have hvalue : Reader.optional (present (requirementFields (.statCheck stat operator n)))
        (one "value") number 0 = .ok n := optional_present hnodup rfl rfl
    have hothers : noOthers (present (requirementFields (.statCheck stat operator n)))
        [one "type", one "stat", one "operator", one "value"] = .ok () :=
      noOthers_present (by simp [requirementFields, one, FieldName.word])
    refine tagged_present hnodup rfl rfl ?_
    rw [hstat, hoperator, hvalue, hothers]
    rfl

/-! ## Mechanics -/

@[simp] lemma outcome_ofJson (nodeId : String) :
    outcomeOfJson (outcomeToJson nodeId) = .ok nodeId := by
  have hnodup : ([("nextNodeId", some (Json.string nodeId))].map Prod.fst).Nodup := by simp
  have hnode : Reader.optional (present [("nextNodeId", some (.string nodeId))]) nextNodeIdField
      string "" = .ok nodeId := optional_present hnodup rfl rfl
  have hothers : noOthers (present [("nextNodeId", some (.string nodeId))]) [nextNodeIdField] =
      .ok () := noOthers_present (by simp [nextNodeIdField])
  have hobject : outcomeToJson nodeId =
      .object (present [("nextNodeId", some (.string nodeId))]) := rfl
  rw [hobject]
  unfold outcomeOfJson Reader.fields
  dsimp only
  rw [hnode, hothers]
  rfl

/-- The kind of a mechanic and its fields. -/
def mechanicFields : Mechanic → List (String × Option Json)
  | .navigate nodeId => [("type", some "navigate"), ("nextNodeId", some nodeId.text)]
  | .combat encounterId => [("type", some "combat_init"), ("encounterId", some encounterId.text)]
  | .skillCheck c =>
    [("type", some "skill_check"), ("dice", some c.dice.text), ("dc", some (.number c.difficulty)),
      ("attribute", c.ability.map Json.string), ("onSuccess", some (outcomeToJson c.onSuccess)),
      ("onFailure", some (outcomeToJson c.onFailure)),
      ("onFailureEncounterId", c.failureEncounter.map Json.string)]

lemma mechanic_toJson (m : Mechanic) : m.toJson = .object (present (mechanicFields m)) := by
  cases m with
  | navigate nodeId => rfl
  | combat encounterId => rfl
  | skillCheck c => simp [Mechanic.toJson, mechanicFields, present, fieldIf]

@[simp] lemma mechanic_ofJson (m : Mechanic) : Mechanic.ofJson m.toJson = .ok m := by
  rw [mechanic_toJson]
  cases m with
  | navigate nodeId => exact tagged_required nextNodeIdField (by decide) (arg_text nodeId) rfl
  | combat encounterId =>
    exact tagged_required encounterIdField (by decide) (arg_text encounterId) rfl
  | skillCheck c =>
    have hnodup : ((mechanicFields (.skillCheck c)).map Prod.fst).Nodup := by
      simp [mechanicFields]
    have hdice : required (present (mechanicFields (.skillCheck c))) (one "dice") arg =
        .ok c.dice := required_present hnodup rfl (arg_text c.dice)
    have hdc : Reader.optional (present (mechanicFields (.skillCheck c))) (one "dc") number 0 =
        .ok c.difficulty := optional_present hnodup rfl rfl
    have hability : Reader.optional (present (mechanicFields (.skillCheck c))) (one "attribute")
        (nullable string) none = .ok c.ability :=
      optional_nullable hnodup rfl (.inl rfl) fun _ _ => rfl
    have hsuccess : required (present (mechanicFields (.skillCheck c))) onSuccessField
        outcomeOfJson = .ok c.onSuccess := required_present hnodup rfl (outcome_ofJson _)
    have hfailure : required (present (mechanicFields (.skillCheck c))) onFailureField
        outcomeOfJson = .ok c.onFailure := required_present hnodup rfl (outcome_ofJson _)
    have hencounter : Reader.optional (present (mechanicFields (.skillCheck c)))
        failureEncounterField (nullable string) none = .ok c.failureEncounter :=
      optional_nullable hnodup rfl (.inr rfl) fun _ _ => rfl
    have hothers : noOthers (present (mechanicFields (.skillCheck c)))
        [one "type", one "dice", one "dc", one "attribute", onSuccessField, onFailureField,
          failureEncounterField] = .ok () :=
      noOthers_present (by
        simp [mechanicFields, onSuccessField, onFailureField, failureEncounterField, one,
          FieldName.word])
    refine tagged_present hnodup rfl rfl ?_
    unfold Mechanic.checkOfFields
    rw [hdice, hdc, hability, hsuccess, hfailure, hencounter, hothers]
    rfl

/-! ## Nodes -/

/-- The fields of a choice. -/
def choiceFields (c : Choice) : List (String × Option Json) :=
  [("id", some (.string c.id.text)), ("label", some (.string c.label)),
    ("visibilityRequirements", c.requirements.map fun rs => .array (rs.map Requirement.toJson)),
    ("mechanic", some c.mechanic.toJson)]

lemma choice_toJson (c : Choice) : c.toJson = .object (present (choiceFields c)) := by
  simp [Choice.toJson, choiceFields, present, fieldIf]

@[simp] lemma choice_ofJson (c : Choice) : Choice.ofJson c.toJson = .ok c := by
  have hnodup : ((choiceFields c).map Prod.fst).Nodup := by simp [choiceFields]
  have hid : required (present (choiceFields c)) (one "id") filled = .ok c.id :=
    required_present hnodup rfl (filled_text c.id)
  have hlabel : Reader.optional (present (choiceFields c)) (one "label") string "" = .ok c.label :=
    optional_present hnodup rfl rfl
  have hrequirements : Reader.optional (present (choiceFields c)) requirementsField
      (nullable (list Requirement.ofJson)) none = .ok c.requirements := by
    refine optional_nullable hnodup rfl (.inr rfl) fun rs _ => ?_
    exact nullable_some (by simp) (list_toJson fun r _ => requirement_ofJson r)
  have hmechanic : required (present (choiceFields c)) (one "mechanic") Mechanic.ofJson =
      .ok c.mechanic := required_present hnodup rfl (mechanic_ofJson c.mechanic)
  have hothers : noOthers (present (choiceFields c))
      [one "id", one "label", requirementsField, one "mechanic"] = .ok () :=
    noOthers_present (by simp [choiceFields, requirementsField, one, FieldName.word])
  rw [choice_toJson]
  unfold Choice.ofJson Reader.fields
  dsimp only
  rw [hid, hlabel, hrequirements, hmechanic, hothers]
  rfl

/-- The fields of a node. -/
def nodeFields (n : Node) : List (String × Option Json) :=
  [("id", some (.string n.id.text)), ("type", some (.string n.type)),
    ("text", some (.string n.text)), ("image", n.image.map Json.string),
    ("onEnter", n.onEnter.map fun actions => .array (actions.map Action.toJson)),
    ("choices", n.choices.map fun choices => .array (choices.map Choice.toJson))]

lemma node_toJson (n : Node) : n.toJson = .object (present (nodeFields n)) := by
  simp [Node.toJson, nodeFields, present, fieldIf]

@[simp] lemma node_ofJson (n : Node) : Node.ofJson n.toJson = .ok n := by
  have hnodup : ((nodeFields n).map Prod.fst).Nodup := by simp [nodeFields]
  have hid : required (present (nodeFields n)) (one "id") filled = .ok n.id :=
    required_present hnodup rfl (filled_text n.id)
  have htype : required (present (nodeFields n)) (one "type") string = .ok n.type :=
    required_present hnodup rfl rfl
  have htext : Reader.optional (present (nodeFields n)) (one "text") string "" = .ok n.text :=
    optional_present hnodup rfl rfl
  have himage : Reader.optional (present (nodeFields n)) (one "image") (nullable string) none =
      .ok n.image := optional_nullable hnodup rfl (.inl rfl) fun _ _ => rfl
  have henter : Reader.optional (present (nodeFields n)) onEnterField
      (nullable (list Action.ofJson)) none = .ok n.onEnter := by
    refine optional_nullable hnodup rfl (.inr rfl) fun actions _ => ?_
    exact nullable_some (by simp) (list_toJson fun a _ => action_ofJson a)
  have hchoices : Reader.optional (present (nodeFields n)) (one "choices")
      (nullable (list Choice.ofJson)) none = .ok n.choices := by
    refine optional_nullable hnodup rfl (.inl rfl) fun choices _ => ?_
    exact nullable_some (by simp) (list_toJson fun c _ => choice_ofJson c)
  have hothers : noOthers (present (nodeFields n))
      [one "id", one "type", one "text", one "image", onEnterField, one "choices"] = .ok () :=
    noOthers_present (by simp [nodeFields, onEnterField, one, FieldName.word])
  rw [node_toJson]
  unfold Node.ofJson Reader.fields
  dsimp only
  rw [hid, htype, htext, himage, henter, hchoices, hothers]
  rfl

/-! ## Items, enemies and encounters -/

/-- The fields of an item. -/
def itemFields (i : Item) : List (String × Option Json) :=
  [("id", some (.string i.id.text)), ("name", some (.string i.name)),
    ("type", some (.string i.type)), ("damage", i.damage.map Json.string),
    ("attackBonus", i.attackBonus.map Json.number), ("acBonus", i.armorBonus.map Json.number),
    ("effect", i.effect.map Action.toJson),
    ("scalingAttribute", i.scalingAttribute.map Json.string),
    ("aoe", i.areaOfEffect.map Json.bool)]

lemma item_toJson (i : Item) : i.toJson = .object (present (itemFields i)) := by
  simp [Item.toJson, itemFields, present, fieldIf]

@[simp] lemma item_ofJson (i : Item) : Item.ofJson i.toJson = .ok i := by
  have hnodup : ((itemFields i).map Prod.fst).Nodup := by simp [itemFields]
  have hid : required (present (itemFields i)) (one "id") filled = .ok i.id :=
    required_present hnodup rfl (filled_text i.id)
  have hname : Reader.optional (present (itemFields i)) (one "name") string "" = .ok i.name :=
    optional_present hnodup rfl rfl
  have htype : required (present (itemFields i)) (one "type") string = .ok i.type :=
    required_present hnodup rfl rfl
  have hdamage : Reader.optional (present (itemFields i)) (one "damage") (nullable string) none =
      .ok i.damage := optional_nullable hnodup rfl (.inl rfl) fun _ _ => rfl
  have hattack : Reader.optional (present (itemFields i)) attackBonusField (nullable number) none =
      .ok i.attackBonus := optional_nullable hnodup rfl (.inr rfl) fun _ _ => rfl
  have harmor : Reader.optional (present (itemFields i)) armorBonusField (nullable number) none =
      .ok i.armorBonus := optional_nullable hnodup rfl (.inr rfl) fun _ _ => rfl
  have heffect : Reader.optional (present (itemFields i)) (one "effect")
      (nullable Action.ofJson) none = .ok i.effect := by
    refine optional_nullable hnodup rfl (.inl rfl) fun a _ => ?_
    exact nullable_some (by simp [action_toJson]) (action_ofJson a)
  have hscaling : Reader.optional (present (itemFields i)) scalingField (nullable string) none =
      .ok i.scalingAttribute := optional_nullable hnodup rfl (.inr rfl) fun _ _ => rfl
  have haoe : Reader.optional (present (itemFields i)) (one "aoe") (nullable bool) none =
      .ok i.areaOfEffect := optional_nullable hnodup rfl (.inl rfl) fun _ _ => rfl
  have hothers : noOthers (present (itemFields i))
      [one "id", one "name", one "type", one "damage", attackBonusField, armorBonusField,
        one "effect", scalingField, one "aoe"] = .ok () :=
    noOthers_present (by
      simp [itemFields, attackBonusField, armorBonusField, scalingField, one, FieldName.word])
  rw [item_toJson]
  unfold Item.ofJson Reader.fields
  dsimp only
  rw [hid, hname, htype, hdamage, hattack, harmor, heffect, hscaling, haoe, hothers]
  rfl

/-- The fields of an enemy. -/
def enemyFields (e : Enemy) : List (String × Option Json) :=
  [("id", some (.string e.id.text)), ("name", some (.string e.name)), ("hp", some (.number e.hp)),
    ("ac", some (.number e.armor)), ("attackBonus", some (.number e.attackBonus)),
    ("damage", some (.string e.damage.text)), ("xpReward", some (.number e.reward))]

@[simp] lemma enemy_ofJson (e : Enemy) : Enemy.ofJson e.toJson = .ok e := by
  have hnodup : ((enemyFields e).map Prod.fst).Nodup := by simp [enemyFields]
  have hid : required (present (enemyFields e)) (one "id") filled = .ok e.id :=
    required_present hnodup rfl (filled_text e.id)
  have hname : Reader.optional (present (enemyFields e)) (one "name") string "" = .ok e.name :=
    optional_present hnodup rfl rfl
  have hhp : Reader.optional (present (enemyFields e)) (one "hp") number 1 = .ok e.hp :=
    optional_present hnodup rfl rfl
  have harmor : Reader.optional (present (enemyFields e)) (one "ac") number 10 = .ok e.armor :=
    optional_present hnodup rfl rfl
  have hattack : Reader.optional (present (enemyFields e)) attackBonusField number 0 =
      .ok e.attackBonus := optional_present hnodup rfl rfl
  have hdamage : Reader.optional (present (enemyFields e)) (one "damage") filled
      Enemy.defaultDamage = .ok e.damage := optional_present hnodup rfl (filled_text e.damage)
  have hreward : Reader.optional (present (enemyFields e)) rewardField number 0 = .ok e.reward :=
    optional_present hnodup rfl rfl
  have hothers : noOthers (present (enemyFields e))
      [one "id", one "name", one "hp", one "ac", attackBonusField, one "damage", rewardField] =
      .ok () :=
    noOthers_present (by simp [enemyFields, attackBonusField, rewardField, one, FieldName.word])
  have hobject : e.toJson = .object (present (enemyFields e)) := rfl
  rw [hobject]
  unfold Enemy.ofJson Reader.fields
  dsimp only
  rw [hid, hname, hhp, harmor, hattack, hdamage, hreward, hothers]
  rfl

/-- The fields of a spawn. -/
def spawnFields (s : Spawn) : List (String × Option Json) :=
  [("enemyId", some (.string s.enemyId.text)), ("count", some (.number s.count))]

@[simp] lemma spawn_ofJson (s : Spawn) : Spawn.ofJson s.toJson = .ok s := by
  have hnodup : ((spawnFields s).map Prod.fst).Nodup := by simp [spawnFields]
  have henemy : required (present (spawnFields s)) enemyIdField arg = .ok s.enemyId :=
    required_present hnodup rfl (arg_text s.enemyId)
  have hcount : Reader.optional (present (spawnFields s)) (one "count") number 1 = .ok s.count :=
    optional_present hnodup rfl rfl
  have hothers : noOthers (present (spawnFields s)) [enemyIdField, one "count"] = .ok () :=
    noOthers_present (by simp [spawnFields, enemyIdField, one, FieldName.word])
  have hobject : s.toJson = .object (present (spawnFields s)) := rfl
  rw [hobject]
  unfold Spawn.ofJson Reader.fields
  dsimp only
  rw [henemy, hcount, hothers]
  rfl

/-- The fields of the resolution of an encounter. -/
def resolutionFields (onVictory onDefeat : String) : List (String × Option Json) :=
  [("onVictory", some (outcomeToJson onVictory)), ("onDefeat", some (outcomeToJson onDefeat))]

lemma resolution_ofJson (onVictory onDefeat : String) :
    Encounter.resolutionOfJson (.object (present (resolutionFields onVictory onDefeat))) =
      .ok (onVictory, onDefeat) := by
  have hnodup : ((resolutionFields onVictory onDefeat).map Prod.fst).Nodup := by
    simp [resolutionFields]
  have hvictory : Reader.optional (present (resolutionFields onVictory onDefeat)) onVictoryField
      outcomeOfJson "" = .ok onVictory := optional_present hnodup rfl (outcome_ofJson _)
  have hdefeat : Reader.optional (present (resolutionFields onVictory onDefeat)) onDefeatField
      outcomeOfJson "" = .ok onDefeat := optional_present hnodup rfl (outcome_ofJson _)
  have hothers : noOthers (present (resolutionFields onVictory onDefeat))
      [onVictoryField, onDefeatField] = .ok () :=
    noOthers_present (by simp [resolutionFields, onVictoryField, onDefeatField])
  unfold Encounter.resolutionOfJson Reader.fields
  dsimp only
  rw [hvictory, hdefeat, hothers]
  rfl

/-- The fields of an encounter. -/
def encounterFields (e : Encounter) : List (String × Option Json) :=
  [("id", some (.string e.id.text)), ("name", e.name.map Json.string), ("type", some "combat"),
    ("enemies", some (.array (e.spawns.map Spawn.toJson))),
    ("resolution", some (.object (present (resolutionFields e.onVictory e.onDefeat))))]

lemma encounter_toJson (e : Encounter) : e.toJson = .object (present (encounterFields e)) := by
  simp [Encounter.toJson, encounterFields, resolutionFields, present, fieldIf]

@[simp] lemma encounter_ofJson (e : Encounter) : Encounter.ofJson e.toJson = .ok e := by
  have hnodup : ((encounterFields e).map Prod.fst).Nodup := by simp [encounterFields]
  have hid : required (present (encounterFields e)) (one "id") filled = .ok e.id :=
    required_present hnodup rfl (filled_text e.id)
  have hname : Reader.optional (present (encounterFields e)) (one "name") (nullable string) none =
      .ok e.name := optional_nullable hnodup rfl (.inl rfl) fun _ _ => rfl
  have htype : Reader.optional (present (encounterFields e)) (one "type") (literal "combat") () =
      .ok () := optional_present hnodup rfl rfl
  have hspawns : Reader.optional (present (encounterFields e)) (one "enemies")
      (list Spawn.ofJson) [] = .ok e.spawns :=
    optional_present hnodup rfl (list_toJson fun s _ => spawn_ofJson s)
  have hends : Reader.optional (present (encounterFields e)) (one "resolution")
      Encounter.resolutionOfJson ("", "") = .ok (e.onVictory, e.onDefeat) :=
    optional_present hnodup rfl (resolution_ofJson _ _)
  have hothers : noOthers (present (encounterFields e))
      [one "id", one "name", one "type", one "enemies", one "resolution"] = .ok () :=
    noOthers_present (by simp [encounterFields, one, FieldName.word])
  rw [encounter_toJson]
  unfold Encounter.ofJson Reader.fields
  dsimp only
  rw [hid, hname, htype, hspawns, hends, hothers]
  rfl

/-! ## Stories -/

section

variable {α : Type} [Keyed α]

lemma map_toJson (c : Collection α) {read : Reader α} {write : α → Json}
    (hwrite : ∀ x, ∃ fields, write x = .object fields) (h : ∀ x, read (write x) = .ok x) :
    Reader.map read (c.toJson write) = .ok (c.toList.map fun x => (Keyed.key x, x)) := by
  unfold Reader.map Collection.toJson
  dsimp only
  rw [List.map_map]
  refine all_map fun x _ => ?_
  obtain ⟨fields, hfields⟩ := hwrite x
  have hread := h x
  rw [hfields] at hread
  dsimp only [Function.comp]
  rw [hfields, Reader.entry, hread]
  · rfl
  · nofun

@[simp] lemma mismatches_keyed (name : String) (l : List α) :
    Collection.mismatches name (l.map fun x => (Keyed.key x, x)) = [] := by
  unfold Collection.mismatches
  simp

@[simp] lemma ofList_values (c : Collection α) :
    Collection.ofList ((c.toList.map fun x => (Keyed.key x, x)).map (·.2)) = c := by
  have hvalues : (c.toList.map fun x => (Keyed.key x, x)).map (·.2) = c.toList := by
    rw [List.map_map]
    exact List.map_id _
  rw [hvalues, ofList_toList]

end

lemma story_ofEntries (s : Story) :
    Story.ofEntries (s.nodes.toList.map fun n => (Keyed.key n, n))
      (s.items.toList.map fun i => (Keyed.key i, i))
      (s.enemies.toList.map fun e => (Keyed.key e, e))
      (s.encounters.toList.map fun e => (Keyed.key e, e)) = .ok s := by
  unfold Story.ofEntries
  rw [mismatches_keyed, mismatches_keyed, mismatches_keyed, mismatches_keyed]
  simp only [List.append_nil]
  rw [ofList_values, ofList_values, ofList_values, ofList_values]

/-- A story is read from the object of its fields, whatever stands behind them. -/
theorem story_ofJson (s : Story) (others : Entries Json) :
    Story.ofJson (.object (s.toFields ++ others)) = .ok s := by
  have hnodes : Reader.optional (s.toFields ++ others) (one "nodes") (Reader.map Node.ofJson) [] =
      .ok (s.nodes.toList.map fun n => (Keyed.key n, n)) :=
    optional_of_get? rfl (map_toJson s.nodes (fun _ => ⟨_, rfl⟩) node_ofJson)
  have hitems : Reader.optional (s.toFields ++ others) (one "items") (Reader.map Item.ofJson) [] =
      .ok (s.items.toList.map fun i => (Keyed.key i, i)) :=
    optional_of_get? rfl (map_toJson s.items (fun _ => ⟨_, rfl⟩) item_ofJson)
  have henemies : Reader.optional (s.toFields ++ others) (one "enemies")
      (Reader.map Enemy.ofJson) [] = .ok (s.enemies.toList.map fun e => (Keyed.key e, e)) :=
    optional_of_get? rfl (map_toJson s.enemies (fun _ => ⟨_, rfl⟩) enemy_ofJson)
  have hencounters : Reader.optional (s.toFields ++ others) (one "encounters")
      (Reader.map Encounter.ofJson) [] = .ok (s.encounters.toList.map fun e => (Keyed.key e, e)) :=
    optional_of_get? rfl (map_toJson s.encounters (fun _ => ⟨_, rfl⟩) encounter_ofJson)
  have hentries := story_ofEntries s
  unfold Story.ofJson Reader.fields
  dsimp only
  rw [hnodes, hitems, henemies, hencounters]
  exact hentries

@[simp] theorem story_ofJson_toJson (s : Story) : Story.ofJson s.toJson = .ok s := by
  have hread := story_ofJson s []
  rwa [List.append_nil] at hread

/-- A load response is read as the story that was loaded. -/
@[simp] theorem story_ofJson_loaded (l : Loaded) : Story.ofJson l.toJson = .ok l.story :=
  story_ofJson l.story _

end Gamebook.Proofs
