import Gamebook.Proofs.CleanedPlaces
import Gamebook.Proofs.Requests

/-!
# Imported packages

Importing a package comes to one of few ends, whatever the package holds. An unfit manifest is
turned away, then an unfit story; every other package is judged. Before that the import is stopped
by a value that is nested too deep or by a number that is too long. Nothing is written in any case.
-/

namespace Gamebook.Proofs

open Package Reader

/-! ## Manifests -/

/-- A text with a character that is not white space. -/
def Telling (text : String) : Prop := ∃ c ∈ text.toList, Text.isBlank c = false

lemma telling_iff {text : String} : Telling text ↔ Text.isBlankText text = false := by
  unfold Telling Text.isBlankText
  rw [List.all_eq_false]
  simp only [Bool.not_eq_true]

/-- The value of a field that a manifest needs. A garbled text holds a surrogate, which is no white
space. -/
def FitField (j : Json) : Prop :=
  (∃ g, j = .garbled g) ∨ ∃ text, j = .string text ∧ Telling text

@[simp] lemma fieldFault?_eq_none {j : Json} : fieldFault? j = none ↔ FitField j := by
  unfold FitField
  cases j with
  | string text =>
    simp only [fieldFault?, reduceCtorEq, exists_false, false_or, Json.string.injEq,
      exists_eq_left', telling_iff]
    cases Text.isBlankText text <;> simp
  | _ => simp [fieldFault?]

/-- An object with the four fields that a manifest needs. -/
def FitManifest (j : Json) : Prop :=
  ∃ fields, j = .object fields ∧
    ∀ name ∈ manifestFields, ∃ value, Entries.get? name fields = some value ∧ FitField value

@[simp] lemma manifestFaults_eq_nil {j : Json} : manifestFaults j = [] ↔ FitManifest j := by
  unfold FitManifest
  cases j with
  | object fields =>
    simp only [manifestFaults, List.append_eq_nil_iff, List.map_eq_nil_iff,
      List.filter_eq_nil_iff, List.filterMap_eq_nil_iff, ← forall_and, Json.object.injEq,
      exists_eq_left']
    refine forall₂_congr fun name _ => ?_
    cases Entries.get? name fields with
    | none => simp
    | some value => simp
  | _ => simp [manifestFaults]

/-- The values that the messages on a manifest show: the manifest itself if it is no object, and the
values of its fields that are no texts. -/
inductive ShownFor : Json → Json → Prop
  | manifest {j : Json} (h : ∀ fields, j ≠ .object fields) : ShownFor j j
  | field {fields : Entries Json} {name : String} {value : Json} (hname : name ∈ manifestFields)
      (hvalue : Entries.get? name fields = some value) (htext : value.text? = none) :
      ShownFor (.object fields) value

/-- All messages on a manifest can be made: no value that they show is nested too deep or has too
long a number. -/
def Tellable (room : ℕ) (manifest : Json) : Prop :=
  ∀ j, ShownFor manifest j → j.height ≤ room ∧ j.isWritable = true

lemma value?_of_fieldFault? {value : Json} {fault : ManifestFault}
    (h : fieldFault? value = some fault) {j : Json} :
    fault.value? = some j ↔ value.text? = none ∧ j = value := by
  cases value with
  | string text =>
    unfold fieldFault? at h
    dsimp only at h
    split at h
    · obtain rfl := Option.some.inj h
      simp [ManifestFault.value?, Json.text?]
    · cases h
  | garbled g => cases h
  | _ =>
    obtain rfl := Option.some.inj h
    simp [ManifestFault.value?, Json.text?, eq_comm]

lemma exists_value?_iff {manifest j : Json} :
    (∃ fault ∈ manifestFaults manifest, fault.value? = some j) ↔ ShownFor manifest j := by
  constructor
  · rintro ⟨fault, hfault, hvalue⟩
    cases manifest with
    | object fields =>
      rcases List.mem_append.mp hfault with hmissing | hfault
      · obtain ⟨name, -, rfl⟩ := List.mem_map.mp hmissing
        cases hvalue
      · obtain ⟨name, hname, hfault⟩ := List.mem_filterMap.mp hfault
        obtain ⟨value, hget, hfault⟩ := Option.bind_eq_some_iff.mp hfault
        obtain ⟨htext, rfl⟩ := (value?_of_fieldFault? hfault).mp hvalue
        exact .field hname hget htext
    | _ =>
      obtain rfl := List.mem_singleton.mp hfault
      obtain rfl := Option.some.inj hvalue
      exact .manifest (by simp)
  · intro h
    cases h with
    | @field fields name value hname hget htext =>
      obtain ⟨fault, hfault⟩ : ∃ fault, fieldFault? j = some fault := by
        cases j with
        | string text => cases htext
        | garbled g => cases htext
        | _ => exact ⟨_, rfl⟩
      refine ⟨fault, List.mem_append_right _ (List.mem_filterMap.mpr ⟨name, hname, ?_⟩),
        (value?_of_fieldFault? hfault).mpr ⟨htext, rfl⟩⟩
      rw [hget]
      exact hfault
    | manifest hobject =>
      cases manifest with
      | object fields => exact absurd rfl (hobject fields)
      | _ => exact ⟨_, List.mem_singleton_self _, rfl⟩

@[simp] lemma unshown?_eq_none {room : ℕ} {j : Json} :
    Json.unshown? room j = none ↔ j.height ≤ room ∧ j.isWritable = true := by
  unfold Json.unshown?
  split
  · rename_i hdeep
    simp [Nat.not_le.mpr hdeep]
  · rename_i hroom
    rw [Nat.not_lt] at hroom
    cases j.isWritable <;> simp [hroom]

/-- Telling the faults gives their messages, unless one of them shows what cannot be shown. -/
lemma mapM_tell (room : ℕ) (faults : List ManifestFault) :
    (∀ fault ∈ faults, ∀ j ∈ fault.value?, Json.unshown? room j = none) ∧
        faults.mapM (ManifestFault.tell room) = .ok (faults.map ManifestFault.message) ∨
      (∃ fault ∈ faults, ∃ j ∈ fault.value?, Json.unshown? room j ≠ none) ∧
        ∃ unshown, faults.mapM (ManifestFault.tell room) = .error unshown := by
  induction faults with
  | nil => exact .inl ⟨by simp, rfl⟩
  | cons fault faults ih =>
    rw [List.mapM_cons]
    cases htold : fault.value?.bind (Json.unshown? room) with
    | some unshown =>
      obtain ⟨j, hj, hunshown⟩ := Option.bind_eq_some_iff.mp htold
      refine .inr ⟨⟨fault, List.mem_cons_self, j, hj, by simp [hunshown]⟩, unshown, ?_⟩
      unfold ManifestFault.tell
      rw [htold]
      rfl
    | none =>
      have hfault : ∀ j ∈ fault.value?, Json.unshown? room j = none :=
        Option.bind_eq_none_iff.mp htold
      have htell : fault.tell room = .ok fault.message := by
        unfold ManifestFault.tell
        rw [htold]
      rw [htell]
      rcases ih with ⟨hall, hmessages⟩ | ⟨⟨other, hother, hunshown⟩, unshown, hstop⟩
      · rw [hmessages]
        exact .inl ⟨List.forall_mem_cons.mpr ⟨hfault, hall⟩, rfl⟩
      · rw [hstop]
        exact .inr ⟨⟨other, List.mem_cons_of_mem _ hother, hunshown⟩, unshown, rfl⟩

/-- The messages on a manifest that is fit, on one that is not, and on one whose faults cannot be
told. -/
lemma manifestProblems_cases (room : ℕ) (manifest : Json) :
    (FitManifest manifest ∧ manifestProblems room manifest = .ok []) ∨
      (¬FitManifest manifest ∧ Tellable room manifest ∧
        ∃ problem rest, manifestProblems room manifest = .ok (problem :: rest)) ∨
      (¬FitManifest manifest ∧ ¬Tellable room manifest ∧
        ∃ unshown, manifestProblems room manifest = .error unshown) := by
  unfold manifestProblems
  rcases mapM_tell room (manifestFaults manifest) with ⟨hall, hmessages⟩ |
    ⟨⟨fault, hfault, j, hj, hunshown⟩, unshown, hstop⟩
  · rw [hmessages]
    by_cases hfit : FitManifest manifest
    · rw [manifestFaults_eq_nil.mpr hfit]
      exact .inl ⟨hfit, rfl⟩
    · obtain ⟨fault, faults, hfaults⟩ :=
        List.exists_cons_of_ne_nil fun hnil => hfit (manifestFaults_eq_nil.mp hnil)
      refine .inr (.inl ⟨hfit, fun j hj => ?_, fault.message, faults.map ManifestFault.message, ?_⟩)
      · obtain ⟨fault, hfault, hvalue⟩ := exists_value?_iff.mpr hj
        exact unshown?_eq_none.mp (hall fault hfault j hvalue)
      · rw [hfaults]
        rfl
  · refine .inr (.inr ⟨fun hfit => ?_, fun htell => ?_, unshown, hstop⟩)
    · rw [manifestFaults_eq_nil.mpr hfit] at hfault
      cases hfault
    · exact hunshown (unshown?_eq_none.mpr (htell j (exists_value?_iff.mp ⟨fault, hfault, hj⟩)))

lemma manifestProblems_of_fit {room : ℕ} {manifest : Json} (h : FitManifest manifest) :
    manifestProblems room manifest = .ok [] := by
  rcases manifestProblems_cases room manifest with ⟨-, hnone⟩ | ⟨hunfit, -⟩ | ⟨hunfit, -⟩
  · exact hnone
  · exact absurd h hunfit
  · exact absurd h hunfit

/-! ## Stories -/

section

variable {α : Type} [Keyed α] {f : Entries Json} {name : String} {read : Reader α}
  {entries : List (String × α)}

end

/-- An object with a name and with data that is an image or a sound and not too large. -/
def FitAsset (limit : Int) (asset : Json) : Prop :=
  ∃ name text data, (asset.field? "name").bind Json.text? = some name ∧
    (asset.field? "base64").bind Json.text? = some text ∧ decode64? text = some data ∧
    (data.length : Int) ≤ limit ∧ hasKnownSignature data = true

@[simp] lemma assetFault?_eq_none {limit : Int} {index : ℕ} {asset : Json} :
    assetFault? limit index asset = none ↔ FitAsset limit asset := by
  unfold assetFault? FitAsset
  split
  · rename_i name text hname htext
    cases hdata : decode64? text with
    | none => simp [hname, htext, hdata]
    | some data =>
      by_cases hlarge : limit < data.length
      · have hnot : ¬(data.length : Int) ≤ limit := by omega
        simp [hname, htext, hdata, hlarge, hnot]
      · have hle : (data.length : Int) ≤ limit := by omega
        simp [hname, htext, hdata, hlarge, hle]
  · rename_i hnone
    simp only [reduceCtorEq, false_iff]
    rintro ⟨name, text, -, hname, htext, -⟩
    exact hnone name text hname htext

lemma assetFaults_eq_nil {limit : Int} {assets : List Json} :
    assetFaults limit assets = [] ↔ ∀ asset ∈ assets, FitAsset limit asset := by
  unfold assetFaults
  rw [List.filterMap_eq_nil_iff, List.forall_mem_iff_forall_getElem]
  simp only [id_eq, List.length_mapIdx, List.getElem_mapIdx, assetFault?_eq_none]
  exact List.forall_mem_iff_forall_getElem.symm

/-! ## Packages -/

section

variable {s : Settings} {manifest : Json} {model : Entries Json} {assets : List Json}

/-- Once the manifest is fit, the rest of the import goes step by step. -/
lemma importBundle_of_fit (hfit : FitManifest manifest) (story : Json) :
    Desk.importBundle s manifest story assets =
      match cleanStory s.maxCopied story with
      | .error _ => .error .tooDeep
      | .ok cleaned =>
        match Story.ofJson cleaned with
        | .refused problems => .error (.failure (.unfitStory problems.length))
        | .ok story =>
          match s.check story with
          | .error _ => .error .oversized
          | .ok verdict => .ok ⟨manifest, story, verdict, assetFaults s.maxAssetBytes assets⟩ := by
  have hproblems : manifestProblems s.maxShown manifest = .ok [] := manifestProblems_of_fit hfit
  unfold Desk.importBundle
  split <;> rename_i h
  · cases hproblems.symm.trans h
  · cases hproblems.symm.trans h
  · cases hproblems.symm.trans h
  · rfl

end

end Gamebook.Proofs
