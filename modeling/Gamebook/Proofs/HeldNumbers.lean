import Gamebook.Proofs.NearestDouble
import Gamebook.Proofs.TokenText

/-!
# Numbers that cells can hold

A cell holds a number if the number is read back from it whatever the fallback. These are the
numbers that are finite and exactly the value of a double: all finite doubles, and the whole numbers
that have at most 53 binary digits before the zeros at their end and lie below the largest double.
Reading gives no other numbers.
-/

namespace Gamebook.Proofs

/-! ## Exact numbers -/

@[simp] lemma exactDouble_iff {x : Double} : ExactNumber (.double x) ↔ x.isFinite = true := by
  constructor
  · intro h
    obtain ⟨negative, m, rfl⟩ := finite_of_exactNumber h
    rfl
  · intro h
    cases x with
    | finite negative m => exact exactNumber_finite negative m
    | infinite negative => cases h
    | nan => cases h

/-- The double is finite and has the value of the whole number. -/
def IsInt (x : Double) (n : ℤ) : Prop :=
  x.isFinite = true ∧ (Number.double x).eq (.int n) = true

lemma exactInt_iff_rounded {n : ℤ} : ExactNumber (.int n) ↔ IsInt (.ofInt n) n := by
  constructor
  · intro h
    obtain ⟨m, hunits⟩ := exactInt_iff_units.mp h
    have hround : Double.ofInt n = .finite (decide (n < 0)) m := by
      have hnearest := nearest?_units m 1 one_pos
      rw [mul_one, ← hunits] at hnearest
      exact ofRatio_of_some hnearest
    have hplace : (Double.finite (decide (n < 0)) m).place? = some (.unit (n * unitsPerOne)) := by
      rw [← signedUnits_of_units hunits]
      rfl
    unfold IsInt
    rw [hround]
    exact ⟨rfl, number_eq_iff.mpr ⟨_, hplace, rfl⟩⟩
  · rintro ⟨hfinite, heq⟩
    rw [← exactNumber_congr heq]
    exact exactDouble_iff.mpr hfinite

lemma exists_magnitude {mantissa exponent : ℕ} (hmantissa : mantissa < 2 ^ 53)
    (hexponent : exponent ≤ 2045) : ∃ m : Magnitude, m.units = mantissa * 2 ^ exponent := by
  induction exponent generalizing mantissa with
  | zero => exact ⟨⟨mantissa, 0, hmantissa, by decide, .inr rfl⟩, rfl⟩
  | succ exponent ih =>
    by_cases hlong : 2 ^ 52 ≤ mantissa
    · exact ⟨⟨mantissa, exponent + 1, hmantissa, hexponent, .inl hlong⟩, rfl⟩
    · have hdouble : 2 * mantissa < 2 ^ 53 := by omega
      obtain ⟨m, hm⟩ := ih hdouble (by omega)
      refine ⟨m, hm.trans ?_⟩
      ring

/-- The exact whole numbers are those of at most 53 binary digits, followed by at most 971 zeros. -/
theorem exactInt_iff {n : ℤ} :
    ExactNumber (.int n) ↔
      ∃ digits zeros, digits < 2 ^ 53 ∧ zeros ≤ 971 ∧ n.natAbs = digits * 2 ^ zeros := by
  obtain ⟨e, he, hone⟩ := unitsPerOne_eq_pow
  rw [exactInt_iff_units, hone]
  constructor
  · rintro ⟨m, hunits⟩
    have hmantissa : m.mantissa < 2 ^ 53 := m.mantissa_lt
    have hexponent := m.exponent_le
    change n.natAbs * 2 ^ e = m.mantissa * 2 ^ m.exponent at hunits
    by_cases hle : e ≤ m.exponent
    · refine ⟨m.mantissa, m.exponent - e, hmantissa, by omega, ?_⟩
      rw [← Nat.sub_add_cancel hle, pow_add, ← mul_assoc] at hunits
      exact Nat.eq_of_mul_eq_mul_right (by positivity) hunits
    · have hshift : n.natAbs * 2 ^ (e - m.exponent) = m.mantissa := by
        rw [← Nat.sub_add_cancel (not_le.mp hle).le, pow_add, ← mul_assoc] at hunits
        exact Nat.eq_of_mul_eq_mul_right (by positivity) hunits
      have hsmall : n.natAbs ≤ m.mantissa := by
        rw [← hshift]
        exact Nat.le_mul_of_pos_right _ (by positivity)
      exact ⟨n.natAbs, 0, by omega, by omega, by rw [pow_zero, mul_one]⟩
  · rintro ⟨digits, zeros, hdigits, hzeros, hn⟩
    have hexponent : zeros + e ≤ 2045 := by omega
    obtain ⟨m, hm⟩ := exists_magnitude hdigits hexponent
    refine ⟨m, ?_⟩
    rw [hm, hn, pow_add, mul_assoc]

/-- Beyond `2 ^ 53` not every whole number is exact. -/
example : ExactNumber (.int (2 ^ 53)) ∧ ¬ExactNumber (.int (2 ^ 53 + 1)) := by decide +kernel

/-! ## Cells -/

/-- The number is read back from its cell, whatever the fallback. -/
def HeldInCell (v : Number) : Prop :=
  ∀ fallback, ((Scalar.text (Scalar.number v).cell).numberOr fallback).eq v = true

lemma numberOr_cases (s : String) :
    (∀ fallback, (Scalar.text s).numberOr fallback = fallback) ∨
      ∃ n, ExactNumber n ∧ settledNumber n = n ∧
        ∀ fallback, (Scalar.text s).numberOr fallback = n := by
  unfold Scalar.numberOr
  dsimp only
  cases hread : Number.ofText? (Text.trimBy Text.isBlank (Scalar.text s).plain.toList) with
  | none => exact .inl fun _ => rfl
  | some n =>
    obtain ⟨hexact, hsettled⟩ := ofText?_settled hread
    exact .inr ⟨n, hexact, hsettled, fun _ => rfl⟩

@[simp] lemma int_eq_iff {j k : ℤ} : (Number.int j).eq (.int k) = true ↔ j = k := by
  have hone : (unitsPerOne : ℤ) ≠ 0 := by exact_mod_cast unitsPerOne_pos.ne'
  rw [number_eq_iff]
  constructor
  · rintro ⟨p, hj, hk⟩
    have hunits := Place.unit.inj (Option.some.inj (hj.trans hk.symm))
    exact mul_right_cancel₀ hone hunits
  · rintro rfl
    exact ⟨_, rfl, rfl⟩

lemma heldInCell_iff {v : Number} : HeldInCell v ↔ ExactNumber v := by
  constructor
  · intro h
    rcases numberOr_cases (Scalar.number v).cell with hnone | ⟨n, hexact, -, hread⟩
    · -- The number would be both of two fallbacks.
      have hzero := h (.int 0)
      have hone := h (.int 1)
      rw [hnone, number_eq_iff] at hzero hone
      obtain ⟨p, hzero, hp⟩ := hzero
      obtain ⟨q, hone, hq⟩ := hone
      obtain rfl : p = q := Option.some.inj (hp.symm.trans hq)
      exact absurd (int_eq_iff.mp (number_eq_iff.mpr ⟨p, hzero, hone⟩)) zero_ne_one
    · have heq := h (.int 0)
      rw [hread] at heq
      exact (exactNumber_congr heq).mp hexact
  · intro h fallback
    have hread : (Scalar.text (Scalar.number v).cell).numberOr fallback = settledNumber v :=
      numberOr_cell h fallback
    rw [hread]
    exact settledNumber_eq h

lemma int_of_settled {n : Number} {k : ℤ} (hexact : ExactNumber n) (h : settledNumber n = n)
    (heq : n.eq (.int k) = true) : n = .int k := by
  cases n with
  | int j => rw [int_eq_iff.mp heq]
  | double x =>
    obtain ⟨negative, m, rfl⟩ := finite_of_exactNumber hexact
    obtain ⟨p, hx, hk⟩ := number_eq_iff.mp heq
    have hunits := units_of_signedUnits (Place.unit.inj (Option.some.inj (hk.trans hx.symm)))
    simp only [settledNumber, toInt?_of_units hunits] at h
    exact absurd h (by simp)

/-- What a text may give in the place of a number, beside a fallback. -/
structure ExactlyRead (fallback n : Number) : Prop where
  exact : ExactNumber n
  whole : n ≠ fallback → ∀ k, n.eq (.int k) = true → n = .int k
  finite : ∀ x, n = .double x → x.isFinite = true

lemma exactlyRead_numberOr (s : String) {fallback : Number} (h : ExactNumber fallback) :
    ExactlyRead fallback ((Scalar.text s).numberOr fallback) := by
  have hfinite : ∀ n, ExactNumber n → ∀ x, n = .double x → x.isFinite = true := by
    rintro n hn x rfl
    exact exactDouble_iff.mp hn
  rcases numberOr_cases s with hnone | ⟨n, hexact, hsettled, hread⟩
  · rw [hnone]
    exact ⟨h, fun hne => absurd rfl hne, hfinite _ h⟩
  · rw [hread]
    exact ⟨hexact, fun _ _ heq => int_of_settled hexact hsettled heq, hfinite _ hexact⟩

/-- A cell holds the exact numbers, and reading gives exact numbers. -/
theorem cells_holdExact :
    (∀ v, HeldInCell v ↔ ExactNumber v) ∧
    (∀ x, ExactNumber (.double x) ↔ x.isFinite = true) ∧
    (∀ n : ℤ, RoundsTo (decide (n < 0)) n.natAbs (.ofInt n) ∧
      (ExactNumber (.int n) ↔ IsInt (.ofInt n) n)) ∧
    ∀ s fallback, ExactNumber fallback →
      ExactlyRead fallback ((Scalar.text s).numberOr fallback) :=
  ⟨fun _ => heldInCell_iff, fun _ => exactDouble_iff,
    fun n => ⟨roundsTo_ofInt n, exactInt_iff_rounded⟩, fun s _ h => exactlyRead_numberOr s h⟩

theorem cells_holdExact_thousand :
    ExactNumber (.int 7) ∧ (Scalar.text " 1e3 ").numberOr (.int 7) = .int 1000 ∧
      ExactlyRead (.int 7) (.int 1000) := by
  have hexact : ExactNumber (.int 7) := by decide +kernel
  have hread : (Scalar.text " 1e3 ").numberOr (.int 7) = .int 1000 := by decide +kernel
  refine ⟨hexact, hread, ?_⟩
  rw [← hread]
  exact cells_holdExact.2.2.2 " 1e3 " (.int 7) hexact

end Gamebook.Proofs
