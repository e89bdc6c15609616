import Gamebook.Proofs.HeldNumbers
import Gamebook.Proofs.JsonText
import Gamebook.Proofs.SchemaRoundTrip

/-!
# Numbers that can be written

A value can be written if no whole number in it has too many digits. A table holds doubles only, and
a whole number that is a double has few enough digits. So a story that tables can hold is written
whole as JSON.
-/

namespace Gamebook.Proofs

/-! ## Numbers -/

/-- A number has no more decimal digits than binary ones. -/
lemma length_digits_le {k m a b c d e : ℕ} (h : k * Nat.pow 2 d = m * Nat.pow 2 e)
    (hm : m < Nat.pow 2 a) (he : e ≤ b) (hbits : a + b ≤ c + d) (hc : 0 < c) :
    (decimalDigits k).length ≤ c := by
  have hlt : k * 2 ^ d < 2 ^ c * 2 ^ d :=
    calc k * 2 ^ d = m * 2 ^ e := h
      _ < 2 ^ a * 2 ^ e := Nat.mul_lt_mul_of_pos_right hm (Nat.two_pow_pos e)
      _ ≤ 2 ^ a * 2 ^ b := Nat.mul_le_mul_left _ (Nat.pow_le_pow_right (by decide) he)
      _ = 2 ^ (a + b) := (pow_add 2 a b).symm
      _ ≤ 2 ^ (c + d) := Nat.pow_le_pow_right (by decide) hbits
      _ = 2 ^ c * 2 ^ d := pow_add 2 c d
  refine (Nat.length_toDigits_le_iff (by decide) hc).mpr ?_
  calc k < 2 ^ c := Nat.lt_of_mul_lt_mul_right hlt
    _ ≤ 10 ^ c := Nat.pow_le_pow_left (by decide) c

/-- A whole number that is a double has 1024 binary digits at most, and so no more decimal ones. -/
lemma writable_number {n : Number} (h : ExactNumber n) : (Json.number n).isWritable = true := by
  cases n with
  | double x => rfl
  | int k =>
    obtain ⟨negative, m, hplace⟩ := exactNumber_iff.mp h
    have hunits : k * unitsPerOne = signedUnits negative m :=
      Place.unit.inj (Option.some.inj hplace)
    have habs : k.natAbs * unitsPerOne = m.units := by
      have hcast := congrArg Int.natAbs hunits
      rw [Int.natAbs_mul, Int.natAbs_natCast] at hcast
      rw [hcast]
      unfold signedUnits
      cases negative <;> simp
    unfold unitsPerOne Magnitude.units at habs
    have hshort : (decimalDigits k.natAbs).length ≤ Text.maxDigits :=
      length_digits_le habs m.mantissa_lt m.exponent_le (by decide) (by decide)
    simpa [Json.isWritable, Json.isShort] using hshort

section

variable {α : Type} {write : α → Json}

lemma writable_present {fields : List (String × Option Json)}
    (h : ∀ field ∈ fields, ∀ j ∈ field.2, j.isWritable = true) :
    (Json.object (present fields)).isWritable = true :=
  fieldsAreWritable_iff.mpr fun _ hfield => h _ (mem_present.mp hfield) _ rfl

lemma writable_map {l : List α} (h : ∀ x ∈ l, (write x).isWritable = true) :
    (Json.array (l.map write)).isWritable = true := by
  refine areWritable_iff.mpr fun j hj => ?_
  obtain ⟨x, hx, rfl⟩ := List.mem_map.mp hj
  exact h x hx

lemma writable_optional {o : Option α} (h : ∀ x ∈ o, (write x).isWritable = true) :
    ∀ j ∈ o.map write, j.isWritable = true := by
  intro j hj
  obtain ⟨x, hx, rfl⟩ := Option.map_eq_some_iff.mp hj
  exact h x hx

lemma writable_optionalList {o : Option (List α)}
    (h : ∀ x ∈ o.getD [], (write x).isWritable = true) :
    ∀ j ∈ o.map fun l => Json.array (l.map write), j.isWritable = true := by
  refine writable_optional fun l hl => writable_map fun x hx => h x ?_
  rwa [Option.mem_def.mp hl]

lemma writable_collection [Keyed α] {c : Collection α}
    (h : ∀ x ∈ c.toList, (write x).isWritable = true) : (c.toJson write).isWritable = true := by
  refine fieldsAreWritable_iff.mpr fun field hfield => ?_
  obtain ⟨x, hx, rfl⟩ := List.mem_map.mp hfield
  exact h x hx

end

@[simp] lemma writable_string (t : String) : (Json.string t).isWritable = true := rfl

lemma writable_action {a : Action} (h : RepresentableAction a) : a.toJson.isWritable = true := by
  rw [action_toJson]
  refine writable_present ?_
  cases a with
  | setFlag key value => simp [actionFields, Json.isWritable]
  | heal amount => simp [actionFields, Json.isWritable]
  | addItem itemId n => simp [actionFields, writable_number h.2]
  | removeItem itemId n => simp [actionFields, writable_number h.2]
  | adjustHp n => simp [actionFields, writable_number h]
  | adjustCurrency n => simp [actionFields, writable_number h]

lemma writable_requirement {r : Requirement} (h : RepresentableRequirement r) :
    r.toJson.isWritable = true := by
  rw [requirement_toJson]
  refine writable_present ?_
  cases r with
  | statCheck stat operator n => simp [requirementFields, writable_number h.2.2]
  | _ => simp [requirementFields]

lemma writable_mechanic {m : Mechanic} (h : RepresentableMechanic m) :
    m.toJson.isWritable = true := by
  have houtcome : ∀ nodeId, (outcomeToJson nodeId).isWritable = true := fun _ => rfl
  rw [mechanic_toJson]
  refine writable_present ?_
  cases m with
  | skillCheck c =>
    have hnumber := writable_number h.difficulty
    simp [mechanicFields, hnumber, houtcome]
  | _ => simp [mechanicFields]

lemma writable_choice {c : Choice} (h : RepresentableChoice c) : c.toJson.isWritable = true := by
  have hrequirements := writable_optionalList fun r hr => writable_requirement (h.requirements r hr)
  rw [choice_toJson]
  refine writable_present ?_
  simp only [choiceFields, List.mem_cons, List.not_mem_nil, or_false, forall_eq_or_imp, forall_eq]
  exact ⟨by simp, by simp, hrequirements, by simp [writable_mechanic h.mechanic]⟩

lemma writable_node {n : Node} (h : RepresentableNode n) : n.toJson.isWritable = true := by
  have henter := writable_optionalList fun a ha => writable_action (h.onEnter a ha)
  have hchoices := writable_optionalList fun c hc => writable_choice (h.choices c hc)
  rw [node_toJson]
  refine writable_present ?_
  simp only [nodeFields, List.mem_cons, List.not_mem_nil, or_false, forall_eq_or_imp, forall_eq]
  exact ⟨by simp, by simp, by simp, by simp, henter, hchoices⟩

lemma writable_item {i : Item} (h : RepresentableItem i) : i.toJson.isWritable = true := by
  rw [item_toJson]
  refine writable_present ?_
  simp only [itemFields, List.mem_cons, List.not_mem_nil, or_false, forall_eq_or_imp, forall_eq]
  exact ⟨by simp, by simp, by simp,
    writable_optional fun t _ => rfl,
    writable_optional fun n hn => writable_number (h.attackBonus n hn),
    writable_optional fun n hn => writable_number (h.armorBonus n hn),
    writable_optional fun a ha => writable_action (h.effect a ha),
    writable_optional fun t _ => rfl, writable_optional fun b _ => rfl⟩

lemma writable_enemy {e : Enemy} (h : RepresentableEnemy e) : e.toJson.isWritable = true := by
  have hobject : e.toJson = .object (present (enemyFields e)) := rfl
  rw [hobject]
  refine writable_present ?_
  simp [enemyFields, writable_number h.hp, writable_number h.armor,
    writable_number h.attackBonus, writable_number h.reward]

lemma writable_encounter {e : Encounter} (h : RepresentableEncounter e) :
    e.toJson.isWritable = true := by
  have hspawn : ∀ s ∈ e.spawns, s.toJson.isWritable = true := by
    intro s hs
    have hobject : s.toJson = .object (present (spawnFields s)) := rfl
    rw [hobject]
    have hcount := writable_number (h.spawns s hs).2
    exact writable_present (by simp [spawnFields, hcount])
  have hresolution : (Json.object (present (resolutionFields e.onVictory e.onDefeat))).isWritable =
      true := rfl
  rw [encounter_toJson]
  refine writable_present ?_
  simp [encounterFields, writable_map hspawn, hresolution]

lemma writable_story {s : Story} (h : RepresentableStory s) : s.toJson.isWritable = true := by
  have hnodes := writable_collection fun n hn => writable_node (h.nodes n hn)
  have hitems := writable_collection fun i hi => writable_item (h.items i hi)
  have henemies := writable_collection fun e he => writable_enemy (h.enemies e he)
  have hencounters := writable_collection fun e he => writable_encounter (h.encounters e he)
  refine fieldsAreWritable_iff.mpr ?_
  simp [Story.toFields, hnodes, hitems, henemies, hencounters]

end Gamebook.Proofs
