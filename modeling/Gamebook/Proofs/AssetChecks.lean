import Gamebook.Proofs.EncodedBytes
import Gamebook.Proofs.ImportedPackages

/-!
# Checks of assets

Whatever is given as assets, each is judged by itself: it passes, or there is one diagnostic for it.
The diagnostics stand in the order of their assets. Data in the standard encoding are always read,
so just their size and their first twelve bytes count.
-/

namespace Gamebook.Proofs

open Package

variable {limit : Int} {asset : Json} {data : List UInt8}

/-! ## Signatures -/

lemma isPrefixOf_take {bytes : List UInt8} {n : ℕ} (h : bytes.length ≤ n) (data : List UInt8) :
    bytes.isPrefixOf (data.take n) = bytes.isPrefixOf data := by
  rw [Bool.eq_iff_iff, List.isPrefixOf_iff_prefix, List.isPrefixOf_iff_prefix,
    List.prefix_take_iff]
  exact and_iff_left h

/-- The first twelve bytes tell, and fewer than twelve tell nothing. -/
lemma hasKnownSignature_eq (data : List UInt8) :
    hasKnownSignature data =
      (decide (12 ≤ data.length) && hasKnownSignature (data.take 12)) := by
  by_cases hlong : 12 ≤ data.length
  · have hstarts : ∀ bytes : List UInt8, bytes.length ≤ 12 →
        bytes.isPrefixOf (data.take 12) = bytes.isPrefixOf data :=
      fun bytes h => isPrefixOf_take h data
    have heighth : ∀ bytes : List UInt8, bytes.length ≤ 4 →
        bytes.isPrefixOf ((data.take 12).drop 8) = bytes.isPrefixOf (data.drop 8) := by
      intro bytes h
      rw [List.drop_take]
      exact isPrefixOf_take h _
    have hlength : ¬(data.take 12).length < 12 := by
      rw [List.length_take]
      omega
    have htake : (data.take 12).take 12 = data.take 12 := by rw [List.take_take, Nat.min_self]
    rw [decide_eq_true hlong, Bool.true_and]
    unfold hasKnownSignature
    dsimp only
    rw [htake, if_neg hlength, if_neg hlength]
    simp only [hstarts, heighth, List.length_cons, List.length_nil, Nat.reduceAdd,
      Nat.reduceLeDiff]
    congr 1
    rcases data with _ | ⟨first, _ | ⟨second, rest⟩⟩ <;> rfl
  · have hlength : (data.take 12).length < 12 := by
      rw [List.length_take]
      omega
    rw [decide_eq_false hlong, Bool.false_and]
    unfold hasKnownSignature
    dsimp only
    rw [if_pos hlength]

/-! ## Data of assets -/

/-- The text of a field, garbled or not. -/
def textIn (key : String) (asset : Json) : Option String := (asset.field? key).bind Json.text?

/-- The asset is an object with a name and with a text that decodes to the data. -/
structure HoldsData (asset : Json) (data : List UInt8) : Prop where
  named : ∃ name, textIn "name" asset = some name
  decoded : ∃ text, textIn "base64" asset = some text ∧ decode64? text = some data

/-- The asset is an object with a name and with the standard encoding of the data. -/
structure Encodes (asset : Json) (data : List UInt8) : Prop where
  named : ∃ name, textIn "name" asset = some name
  encoded : textIn "base64" asset = some (encode64 data)

lemma Encodes.holdsData (h : Encodes asset data) : HoldsData asset data :=
  ⟨h.named, encode64 data, h.encoded, decode64?_encode64 data⟩

lemma HoldsData.unique {other : List UInt8} (h : HoldsData asset data)
    (hother : HoldsData asset other) : data = other := by
  obtain ⟨text, htext, hdata⟩ := h.decoded
  obtain ⟨text', htext', hother⟩ := hother.decoded
  obtain rfl : text = text' := Option.some.inj (htext.symm.trans htext')
  exact Option.some.inj (hdata.symm.trans hother)

lemma assetFault?_of_holdsData (h : HoldsData asset data) (limit : Int) (index : ℕ) :
    ∃ name, assetFault? limit index asset =
      if limit < data.length then some (.tooLarge name data.length limit)
      else if hasKnownSignature data then none
      else some (.signature name) := by
  obtain ⟨name, hname⟩ := h.named
  obtain ⟨text, htext, hdata⟩ := h.decoded
  unfold textIn at hname htext
  refine ⟨name, ?_⟩
  unfold assetFault?
  rw [hname, htext]
  dsimp only
  rw [hdata]

lemma assetFault?_of_not_holdsData (h : ∀ data, ¬HoldsData asset data) (limit : Int) (index : ℕ) :
    ∃ fault, assetFault? limit index asset = some fault ∧
      fault.diagnostic.code = "asset_shape" := by
  unfold assetFault?
  split
  · rename_i name text hname htext
    cases hdata : decode64? text with
    | none => exact ⟨_, rfl, rfl⟩
    | some data => exact absurd ⟨⟨name, hname⟩, text, htext, hdata⟩ (h data)
  · exact ⟨_, rfl, rfl⟩

/-! ## Verdicts -/

/-- What the diagnostic of an asset says, if there is one: just one of four things holds. -/
structure JudgedAsset (limit : Int) (asset : Json) (verdict : Option Diagnostic) : Prop where
  passes : verdict = none ↔
    ∃ data, HoldsData asset data ∧ data.length ≤ limit ∧ hasKnownSignature data = true
  shape : verdict.map (·.code) = some "asset_shape" ↔ ∀ data, ¬HoldsData asset data
  tooLarge : verdict.map (·.code) = some "asset_too_large" ↔
    ∃ data, HoldsData asset data ∧ limit < data.length
  signature : verdict.map (·.code) = some "asset_signature" ↔
    ∃ data, HoldsData asset data ∧ data.length ≤ limit ∧ hasKnownSignature data = false

lemma fitAsset_iff : FitAsset limit asset ↔
    ∃ data, HoldsData asset data ∧ data.length ≤ limit ∧ hasKnownSignature data = true := by
  constructor
  · rintro ⟨name, text, data, hname, htext, hdata, hsize, hknown⟩
    exact ⟨data, ⟨⟨name, hname⟩, text, htext, hdata⟩, hsize, hknown⟩
  · rintro ⟨data, ⟨⟨name, hname⟩, text, htext, hdata⟩, hsize, hknown⟩
    exact ⟨name, text, data, hname, htext, hdata, hsize, hknown⟩

lemma exists_holdsData_iff (h : HoldsData asset data) {P : List UInt8 → Prop} :
    (∃ other, HoldsData asset other ∧ P other) ↔ P data := by
  constructor
  · rintro ⟨other, hother, hP⟩
    rwa [h.unique hother]
  · exact fun hP => ⟨data, h, hP⟩

lemma judgedAsset_of_holdsData (h : HoldsData asset data) (limit : Int) (index : ℕ) :
    JudgedAsset limit asset ((assetFault? limit index asset).map AssetFault.diagnostic) := by
  obtain ⟨name, hfault⟩ := assetFault?_of_holdsData h limit index
  have hshape : ¬∀ data, ¬HoldsData asset data := fun hnone => hnone data h
  rw [hfault]
  by_cases hlarge : limit < data.length
  · have hnot : ¬(data.length : Int) ≤ limit := by omega
    rw [if_pos hlarge]
    constructor <;>
      simp [exists_holdsData_iff h, hshape, hlarge, hnot, AssetFault.diagnostic, AssetFault.error]
  · have hle : (data.length : Int) ≤ limit := by omega
    rw [if_neg hlarge]
    cases hknown : hasKnownSignature data <;> constructor <;>
      simp [exists_holdsData_iff h, hshape, hlarge, hle, hknown, AssetFault.diagnostic,
        AssetFault.error]

lemma judgedAsset_of_not_holdsData (h : ∀ data, ¬HoldsData asset data) (limit : Int) (index : ℕ) :
    JudgedAsset limit asset ((assetFault? limit index asset).map AssetFault.diagnostic) := by
  obtain ⟨fault, hfault, hcode⟩ := assetFault?_of_not_holdsData h limit index
  rw [hfault]
  constructor <;> simp [h, hcode]

lemma judgedAsset (limit : Int) (index : ℕ) (asset : Json) :
    JudgedAsset limit asset ((assetFault? limit index asset).map AssetFault.diagnostic) := by
  by_cases h : ∃ data, HoldsData asset data
  · obtain ⟨data, h⟩ := h
    exact judgedAsset_of_holdsData h limit index
  · exact judgedAsset_of_not_holdsData (not_exists.mp h) limit index

/-! ## Lists of assets -/

/-- The fault when more assets stand in front. -/
def shifted (count : ℕ) : AssetFault → AssetFault
  | .shape index => .shape (index + count)
  | other => other

lemma assetFault?_add (limit : Int) (index count : ℕ) (asset : Json) :
    assetFault? limit (index + count) asset =
      (assetFault? limit index asset).map (shifted count) := by
  unfold assetFault?
  split
  · rename_i name text hname htext
    cases decode64? text with
    | none => rfl
    | some data =>
      dsimp only
      split
      · rfl
      · split <;> rfl
  · rfl

lemma filterMap_mapIdx_map {α β γ : Type} (f : ℕ → α → Option β) (g : β → γ) (l : List α) :
    (l.mapIdx fun i a => (f i a).map g).filterMap id = ((l.mapIdx f).filterMap id).map g := by
  simp only [List.mapIdx_eq_zipIdx_map, List.filterMap_map, List.map_filterMap]
  rfl

lemma assetFaults_append (limit : Int) (first second : List Json) :
    assetFaults limit (first ++ second) =
      assetFaults limit first ++ (assetFaults limit second).map (shifted first.length) := by
  have hshift : (fun index => assetFault? limit (index + first.length)) =
      fun index asset => (assetFault? limit index asset).map (shifted first.length) :=
    funext₂ fun index asset => assetFault?_add limit index first.length asset
  unfold assetFaults
  rw [List.mapIdx_append, List.filterMap_append, hshift, filterMap_mapIdx_map]

lemma forall₂_mapIdx_of {α β : Type} {R : α → β → Prop} {f : ℕ → α → β} (h : ∀ i a, R a (f i a))
    (l : List α) : List.Forall₂ R l (l.mapIdx f) := by
  refine List.forall₂_iff_get.mpr ⟨List.length_mapIdx.symm, fun i hi hmap => ?_⟩
  rw [List.get_eq_getElem, List.get_eq_getElem, List.getElem_mapIdx]
  exact h i _

/-- Each asset is judged once, in turn, by itself: just the index of an asset of no known shape
depends on the others. An asset in the standard encoding passes if it is not too large and its
signature is known, and of its data the signature needs twelve bytes and no more. -/
theorem assetFaults_judged (limit : Int) (assets : List Json) :
    (∃ verdicts, List.Forall₂ (JudgedAsset limit) assets verdicts ∧
        (assetFaults limit assets).map AssetFault.diagnostic = verdicts.reduceOption) ∧
      (∀ more, assetFaults limit (assets ++ more) =
        assetFaults limit assets ++ (assetFaults limit more).map (shifted assets.length)) ∧
      (∀ asset data, Encodes asset data →
        (assetFaults limit [asset] = [] ↔
          data.length ≤ limit ∧ hasKnownSignature data = true)) ∧
      ∀ data, hasKnownSignature data =
        (decide (12 ≤ data.length) && hasKnownSignature (data.take 12)) := by
  refine ⟨⟨assets.mapIdx fun index asset => (assetFault? limit index asset).map
      AssetFault.diagnostic, ?_, ?_⟩, assetFaults_append limit assets, ?_, hasKnownSignature_eq⟩
  · exact forall₂_mapIdx_of (judgedAsset limit) assets
  · exact (filterMap_mapIdx_map _ _ assets).symm
  · intro asset data hencodes
    rw [assetFaults_eq_nil, List.forall_mem_singleton, fitAsset_iff,
      exists_holdsData_iff hencodes.holdsData]

/-- An asset with the first bytes of a picture. -/
def smallPicture : Json :=
  .object [("name", "dot.gif"), ("base64", "R0lGODlhAQABAAAA")]

theorem assetFaults_judged_smallPicture : assetFaults 12 [smallPicture] = [] := by
  have hencodes : Encodes smallPicture
      [0x47, 0x49, 0x46, 0x38, 0x39, 0x61, 0x01, 0x00, 0x01, 0x00, 0x00, 0x00] :=
    ⟨⟨_, rfl⟩, by decide +kernel⟩
  exact ((assetFaults_judged 12 []).2.2.1 smallPicture _ hencodes).mpr ⟨by decide, by decide⟩

end Gamebook.Proofs
