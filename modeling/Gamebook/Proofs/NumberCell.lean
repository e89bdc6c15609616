import Gamebook.Cell.Token
import Gamebook.Proofs.Numeral

/-!
# Numbers in cells

A number that is exactly the value of a finite double is read back from its cell with its
value. Reading gives nothing but such numbers, in a settled kind: whole ones are whole
numbers, the others are doubles.
-/

namespace Gamebook.Proofs

/-- The number is finite and exactly the value of a double. -/
def ExactNumber (n : Number) : Prop := ∃ negative m, n.eq (.double (.finite negative m)) = true

/-- The number in the kind in which it is read from text. -/
def settledNumber : Number → Number
  | .int k => .int k
  | .double x =>
    match x.toInt? with
    | some k => .int k
    | none => .double x

lemma place_compare_eq {a b : Place} : Place.compare a b = .eq ↔ a = b := by
  cases a <;> cases b <;>
    simp only [Place.compare, reduceCtorEq, Place.unit.injEq, compare_eq_iff_eq]

lemma number_eq_iff {a b : Number} :
    a.eq b = true ↔ ∃ p, a.place? = some p ∧ b.place? = some p := by
  unfold Number.eq Number.compare?
  cases a.place? with
  | none =>
    refine ⟨fun h => ?_, fun ⟨p, hp, _⟩ => ?_⟩
    · exact absurd h Bool.false_ne_true
    · exact absurd hp (Option.some_ne_none p).symm
  | some p =>
    cases b.place? with
    | none =>
      refine ⟨fun h => ?_, fun ⟨p, _, hp⟩ => ?_⟩
      · exact absurd h Bool.false_ne_true
      · exact absurd hp (Option.some_ne_none p).symm
    | some q =>
      change (some (p.compare q) == some .eq) = true ↔ _
      rw [beq_iff_eq, Option.some.injEq, place_compare_eq]
      constructor
      · rintro rfl
        exact ⟨p, rfl, rfl⟩
      · rintro ⟨r, hp, hq⟩
        rw [Option.some.injEq] at hp hq
        rw [hp, hq]

/-- The units of a signed magnitude. -/
def signedUnits (negative : Bool) (m : Magnitude) : ℤ :=
  if negative then -(m.units : ℤ) else m.units

lemma exactNumber_iff {n : Number} :
    ExactNumber n ↔ ∃ negative m, n.place? = some (.unit (signedUnits negative m)) := by
  constructor
  · rintro ⟨negative, m, h⟩
    obtain ⟨p, hn, hp⟩ := number_eq_iff.mp h
    exact ⟨negative, m, by rw [hn, ← hp]; rfl⟩
  · rintro ⟨negative, m, h⟩
    exact ⟨negative, m, number_eq_iff.mpr ⟨_, h, rfl⟩⟩

lemma exactNumber_congr {a b : Number} (h : a.eq b = true) : ExactNumber a ↔ ExactNumber b := by
  obtain ⟨p, ha, hb⟩ := number_eq_iff.mp h
  rw [exactNumber_iff, exactNumber_iff, ha, hb]

lemma exactNumber_finite (negative : Bool) (m : Magnitude) :
    ExactNumber (.double (.finite negative m)) := exactNumber_iff.mpr ⟨negative, m, rfl⟩

lemma finite_of_exactNumber {x : Double} (h : ExactNumber (.double x)) :
    ∃ negative m, x = .finite negative m := by
  obtain ⟨negative, m, hx⟩ := exactNumber_iff.mp h
  cases x with
  | finite negative m => exact ⟨negative, m, rfl⟩
  | infinite negative => cases negative <;> cases hx
  | nan => cases hx

/-! ## Whole doubles -/

lemma isWhole_iff (m : Magnitude) : m.isWhole = true ↔ m.whole * unitsPerOne = m.units := by
  unfold Magnitude.isWhole Magnitude.whole
  rw [beq_iff_eq]
  constructor
  · intro h
    exact Nat.div_mul_cancel (Nat.dvd_of_mod_eq_zero h)
  · intro h
    rw [← h]
    exact Nat.mul_mod_left _ _

lemma place?_of_toInt? {x : Double} {k : ℤ} (h : x.toInt? = some k) :
    x.place? = some (.unit (k * unitsPerOne)) := by
  cases x with
  | finite negative m =>
    simp only [Double.toInt?, Option.ite_none_right_eq_some, Option.some.injEq] at h
    obtain ⟨hwhole, rfl⟩ := h
    rw [isWhole_iff] at hwhole
    have hcast : ((m.whole : ℕ) : ℤ) * unitsPerOne = m.units := by exact_mod_cast hwhole
    cases negative
    · rw [if_neg Bool.false_ne_true, hcast]
      rfl
    · rw [if_pos rfl, neg_mul, hcast]
      rfl
  | infinite negative => cases h
  | nan => cases h

@[simp] lemma settledNumber_place? (n : Number) : (settledNumber n).place? = n.place? := by
  cases n with
  | int k => rfl
  | double x =>
    cases h : x.toInt? with
    | some k =>
      simp only [settledNumber, h]
      exact (place?_of_toInt? h).symm
    | none => simp only [settledNumber, h]

lemma settledNumber_eq {n : Number} (h : ExactNumber n) : (settledNumber n).eq n = true := by
  obtain ⟨negative, m, hn⟩ := exactNumber_iff.mp h
  exact number_eq_iff.mpr ⟨_, (settledNumber_place? n).trans hn, hn⟩

/-! ## Reading cells -/

lemma toInt?_of_units {negative : Bool} {m : Magnitude} {a : ℕ} (h : a * unitsPerOne = m.units) :
    (Double.finite negative m).toInt? = some (if negative then -(a : ℤ) else a) := by
  have hwhole : m.whole = a := by
    unfold Magnitude.whole
    rw [← h]
    exact Nat.mul_div_cancel _ unitsPerOne_pos
  have hisWhole : m.isWhole = true := by
    rw [isWhole_iff, hwhole, h]
  simp only [Double.toInt?]
  rw [if_pos hisWhole, hwhole]

lemma signedUnits_of_units {k : ℤ} {m : Magnitude} (h : k.natAbs * unitsPerOne = m.units) :
    signedUnits (decide (k < 0)) m = k * unitsPerOne := by
  unfold signedUnits
  rw [← h, Nat.cast_mul]
  by_cases hneg : k < 0
  · rw [if_pos (decide_eq_true hneg), Int.ofNat_natAbs_of_nonpos hneg.le, neg_mul, neg_neg]
  · rw [if_neg (by simpa using hneg), Int.natAbs_of_nonneg (not_lt.mp hneg)]

lemma units_of_signedUnits {negative : Bool} {k : ℤ} {m : Magnitude}
    (h : k * unitsPerOne = signedUnits negative m) : k.natAbs * unitsPerOne = m.units := by
  have habs := congrArg Int.natAbs h
  rw [Int.natAbs_mul, Int.natAbs_natCast] at habs
  refine habs.trans ?_
  unfold signedUnits
  split
  · rw [Int.natAbs_neg, Int.natAbs_natCast]
  · rw [Int.natAbs_natCast]

lemma exactInt_iff_units {k : ℤ} :
    ExactNumber (.int k) ↔ ∃ m : Magnitude, k.natAbs * unitsPerOne = m.units := by
  rw [exactNumber_iff]
  constructor
  · rintro ⟨negative, m, hplace⟩
    exact ⟨m, units_of_signedUnits (Place.unit.inj (Option.some.inj hplace))⟩
  · rintro ⟨m, h⟩
    exact ⟨decide (k < 0), m, by rw [signedUnits_of_units h]; rfl⟩

lemma toInt?_toDouble {k : ℤ} (h : ExactNumber (.int k)) :
    ∃ x, Decimal.toDouble ⟨decide (k < 0), k.natAbs, 0⟩ = x ∧ x.isFinite = true ∧
      x.toInt? = some k := by
  by_cases hk : k = 0
  · subst hk
    exact ⟨.finite false .zero, rfl, rfl, toInt?_of_units (a := 0) (by rw [zero_mul]; rfl)⟩
  obtain ⟨m, hunits⟩ := exactInt_iff_units.mp h
  have hnearest := nearest?_units m 1 one_pos
  refine ⟨.finite (decide (k < 0)) m, ?_, rfl, ?_⟩
  · rw [toDouble_eq_ofRatio _ (Int.natAbs_ne_zero.mpr hk)]
    apply ofRatio_of_some
    simp only [Int.toNat_zero, neg_zero, pow_zero, mul_one]
    rw [hunits, ← hnearest, mul_one]
  · rw [toInt?_of_units hunits]
    by_cases hneg : k < 0
    · simp only [hneg, decide_true, if_true, Option.some.injEq]
      omega
    · simp only [hneg, decide_false, Bool.false_eq_true, if_false, Option.some.injEq]
      omega

lemma numeralChars_intText (k : ℤ) : NumeralChars (intText k) := by
  rw [intText_eq_signed]
  exact numeralChars_signed _ (numeralChars_digits (digitChars_decimalDigits k.natAbs))

lemma numeralChars_text (negative : Bool) (m : Magnitude) :
    NumeralChars (Double.finite negative m).text :=
  numeralChars_signed negative (numeralText_text m).2

lemma contains_underscore {cs : List Char} (h : NumeralChars cs) : cs.contains '_' = false := by
  have hmem := notMem_numeralChars h (c := '_') (by decide)
  simpa using hmem

lemma numeralChars_cell {n : Number} (h : ExactNumber n) : NumeralChars n.cell := by
  cases n with
  | int k => exact numeralChars_intText k
  | double x =>
    obtain ⟨negative, m, rfl⟩ := finite_of_exactNumber h
    unfold Number.cell
    dsimp only
    split
    · exact numeralChars_intText _
    · exact numeralChars_text negative m

lemma ofText?_intText {k : ℤ} (h : ExactNumber (.int k)) :
    Number.ofText? (intText k) = some (.int k) := by
  obtain ⟨x, hx, hfinite, hint⟩ := toInt?_toDouble h
  unfold Number.ofText?
  rw [contains_underscore (numeralChars_intText k), readDouble?_intText, hx]
  simp [Number.ofDouble?, hfinite, hint]

/-- An exact number is read from its cell as what it is worth. -/
theorem ofText?_cell {n : Number} (h : ExactNumber n) :
    Number.ofText? n.cell = some (settledNumber n) := by
  cases n with
  | int k => exact ofText?_intText h
  | double x =>
    obtain ⟨negative, m, rfl⟩ := finite_of_exactNumber h
    cases hint : (Double.finite negative m).toInt? with
    | some k =>
      have hk : ExactNumber (.int k) := exactNumber_iff.mpr ⟨negative, m, by
        rw [Number.place?, ← place?_of_toInt? hint]
        rfl⟩
      simp only [Number.cell, settledNumber, hint]
      exact ofText?_intText hk
    | none =>
      simp only [Number.cell, settledNumber, hint]
      unfold Number.ofText?
      rw [contains_underscore (numeralChars_text negative m), readDouble?_text]
      simp [Number.ofDouble?, Double.isFinite, hint]

/-- What is read from text is exact and settled. -/
theorem ofText?_settled {cs : List Char} {n : Number} (h : Number.ofText? cs = some n) :
    ExactNumber n ∧ settledNumber n = n := by
  unfold Number.ofText? at h
  split at h
  · simp at h
  obtain ⟨x, -, hx⟩ := Option.bind_eq_some_iff.mp h
  unfold Number.ofDouble? at hx
  rw [Option.ite_none_right_eq_some] at hx
  obtain ⟨hfinite, hx⟩ := hx
  cases x with
  | finite negative m =>
    cases hint : (Double.finite negative m).toInt? with
    | some k =>
      simp only [hint, Option.some.injEq] at hx
      subst hx
      refine ⟨exactNumber_iff.mpr ⟨negative, m, ?_⟩, rfl⟩
      rw [Number.place?, ← place?_of_toInt? hint]
      rfl
    | none =>
      simp only [hint, Option.some.injEq] at hx
      subst hx
      exact ⟨exactNumber_finite negative m, by simp only [settledNumber, hint]⟩
  | infinite negative => cases hfinite
  | nan => cases hfinite

lemma exactNumber_iff_read {n : Number} :
    ExactNumber n ↔ Number.ofText? n.cell = some (settledNumber n) := by
  constructor
  · exact ofText?_cell
  · intro h
    have hsettled := (ofText?_settled h).1
    rw [exactNumber_iff, settledNumber_place?] at hsettled
    exact exactNumber_iff.mpr hsettled

instance (n : Number) : Decidable (ExactNumber n) := decidable_of_iff _ exactNumber_iff_read.symm

end Gamebook.Proofs
