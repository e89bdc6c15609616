import Gamebook.Proofs.NumberCell
import Mathlib.Algebra.Order.Field.Basic
import Mathlib.Data.Rat.Cast.Order
import Mathlib.Order.WithBot

/-!
# Numbers on a line

Whole numbers and finite doubles are rational numbers, and an infinite double stands at one end of
them. Numbers of either kind are compared by these values without rounding. What is not a number has
no value and compares as false.
-/

namespace Gamebook.Proofs

/-- The rational numbers with an end on either side. -/
abbrev Line := WithBot (WithTop ℚ)

/-- The value of a number, if it is one. -/
def value? : Number → Option Line
  | .int k => some ((k : ℚ) : WithTop ℚ)
  | .double (.finite negative m) =>
    let magnitude : ℚ := m.mantissa * 2 ^ (m.exponent - 1074 : ℤ)
    some ((if negative then -magnitude else magnitude : ℚ) : WithTop ℚ)
  | .double (.infinite negative) => some (if negative then ⊥ else ⊤)
  | .double .nan => none

/-- The value at a place. -/
def placeValue : Gamebook.Place → Line
  | .below => ⊥
  | .unit k => ((k / unitsPerOne : ℚ) : WithTop ℚ)
  | .above => ⊤

lemma unitsPerOne_rat : (0 : ℚ) < unitsPerOne := by
  exact_mod_cast unitsPerOne_pos

lemma cast_powTwo {n k : ℕ} (h : n = Nat.pow 2 k) : (n : ℚ) = 2 ^ (k : ℤ) := by
  rw [h, Nat.pow_eq, Nat.cast_pow, Nat.cast_ofNat, zpow_natCast]

lemma units_div (m : Magnitude) :
    (m.units : ℚ) / unitsPerOne = m.mantissa * 2 ^ (m.exponent - 1074 : ℤ) := by
  have hone : (unitsPerOne : ℚ) = 2 ^ ((1074 : ℕ) : ℤ) := cast_powTwo (by decide +kernel)
  have hpow : ((Nat.pow 2 m.exponent : ℕ) : ℚ) = 2 ^ (m.exponent : ℤ) := cast_powTwo rfl
  rw [Magnitude.units, Nat.cast_mul, hone, hpow, mul_div_assoc, ← zpow_sub₀ two_ne_zero,
    Nat.cast_ofNat]

lemma value?_eq (a : Number) : value? a = a.place?.map placeValue := by
  cases a with
  | int k =>
    have hk : ((k * unitsPerOne : ℤ) : ℚ) / unitsPerOne = k := by
      rw [Int.cast_mul, Int.cast_natCast, mul_div_cancel_right₀ _ unitsPerOne_rat.ne']
    simp only [value?, Number.place?, Option.map_some, placeValue, hk]
  | double x =>
    cases x with
    | finite negative m =>
      cases negative
      · simp only [value?, Number.place?, Double.place?, Option.map_some, placeValue,
          Bool.false_eq_true, if_false, Int.cast_natCast, units_div]
      · simp only [value?, Number.place?, Double.place?, Option.map_some, placeValue, if_true,
          Int.cast_neg, Int.cast_natCast, neg_div, units_div]
    | infinite negative => cases negative <;> rfl
    | nan => rfl

/-! ## The order of places -/

@[simp] lemma unit_lt_unit {j k : ℤ} : placeValue (.unit j) < placeValue (.unit k) ↔ j < k := by
  simp only [placeValue, WithBot.coe_lt_coe, WithTop.coe_lt_coe]
  rw [div_lt_div_iff_of_pos_right unitsPerOne_rat, Int.cast_lt]

lemma below_lt_unit (k : ℤ) : placeValue .below < placeValue (.unit k) := WithBot.bot_lt_coe _

lemma unit_lt_above (k : ℤ) : placeValue (.unit k) < placeValue .above :=
  WithBot.coe_lt_coe.mpr (WithTop.coe_lt_top _)

lemma below_lt_above : placeValue .below < placeValue .above :=
  (below_lt_unit 0).trans (unit_lt_above 0)

lemma place_compare_lt {p q : Gamebook.Place} :
    p.compare q = .lt ↔ placeValue p < placeValue q := by
  cases p with
  | below =>
    cases q with
    | below => simp only [Place.compare, reduceCtorEq, lt_irrefl]
    | unit k => simp only [Place.compare, below_lt_unit]
    | above => simp only [Place.compare, below_lt_above]
  | unit j =>
    cases q with
    | below => simp only [Place.compare, reduceCtorEq, (below_lt_unit j).not_gt]
    | unit k => rw [unit_lt_unit, Place.compare, compare_lt_iff_lt]
    | above => simp only [Place.compare, unit_lt_above]
  | above =>
    cases q with
    | below => simp only [Place.compare, reduceCtorEq, below_lt_above.not_gt]
    | unit k => simp only [Place.compare, reduceCtorEq, (unit_lt_above k).not_gt]
    | above => simp only [Place.compare, reduceCtorEq, lt_irrefl]

lemma place_compare_cases (p q : Gamebook.Place) :
    p.compare q = .lt ∨ p = q ∨ q.compare p = .lt := by
  cases p with
  | below => cases q <;> simp [Place.compare]
  | unit j =>
    cases q with
    | below => exact .inr (.inr rfl)
    | unit k =>
      simp only [Place.compare, compare_lt_iff_lt, Place.unit.injEq]
      exact lt_trichotomy j k
    | above => exact .inl rfl
  | above => cases q <;> simp [Place.compare]

lemma placeValue_injective : Function.Injective placeValue := by
  intro p q h
  rcases place_compare_cases p q with hlt | heq | hgt
  · exact absurd h (place_compare_lt.mp hlt).ne
  · exact heq
  · exact absurd h (place_compare_lt.mp hgt).ne'

/-! ## Comparisons -/

variable {a b : Number}

lemma lt_iff : a.lt b = true ↔ ∃ x y, value? a = some x ∧ value? b = some y ∧ x < y := by
  rw [value?_eq, value?_eq, Number.lt, Number.compare?]
  cases a.place? with
  | none => simp
  | some p =>
    cases b.place? with
    | none => simp
    | some q => simp [place_compare_lt]

lemma eq_iff : a.eq b = true ↔ ∃ x, value? a = some x ∧ value? b = some x := by
  rw [number_eq_iff, value?_eq, value?_eq]
  constructor
  · rintro ⟨p, ha, hb⟩
    exact ⟨placeValue p, by rw [ha, Option.map_some], by rw [hb, Option.map_some]⟩
  · rintro ⟨x, ha, hb⟩
    obtain ⟨p, hp, rfl⟩ := Option.map_eq_some_iff.mp ha
    obtain ⟨q, hq, hqp⟩ := Option.map_eq_some_iff.mp hb
    exact ⟨p, hp, placeValue_injective hqp ▸ hq⟩

lemma le_iff : a.le b = true ↔ ∃ x y, value? a = some x ∧ value? b = some y ∧ x ≤ y := by
  rw [Number.le, Bool.or_eq_true, lt_iff, eq_iff]
  constructor
  · rintro (⟨x, y, ha, hb, hlt⟩ | ⟨x, ha, hb⟩)
    · exact ⟨x, y, ha, hb, hlt.le⟩
    · exact ⟨x, x, ha, hb, le_refl x⟩
  · rintro ⟨x, y, ha, hb, hle⟩
    rcases hle.lt_or_eq with hlt | rfl
    · exact .inl ⟨x, y, ha, hb, hlt⟩
    · exact .inr ⟨x, ha, hb⟩

lemma isZero_iff : a.isZero = true ↔ value? a = some 0 := by
  have hrat : ∀ r : ℚ, ((r : WithTop ℚ) : Line) = 0 ↔ r = 0 := by
    intro r
    rw [← WithBot.coe_zero, WithBot.coe_inj, ← WithTop.coe_zero, WithTop.coe_inj]
  have hpow : ∀ e : ℤ, (2 : ℚ) ^ e ≠ 0 := fun e => zpow_ne_zero e two_ne_zero
  cases a with
  | int k => simp [Number.isZero, value?, hrat]
  | double x =>
    cases x with
    | finite negative m =>
      cases negative <;> simp [Number.isZero, Double.isZero, value?, hrat, hpow]
    | infinite negative =>
      cases negative
      · have htop : (⊤ : Line) ≠ 0 := fun h => WithTop.top_ne_zero (WithBot.coe_inj.mp h)
        simp [Number.isZero, Double.isZero, value?, htop]
      · simp [Number.isZero, Double.isZero, value?]
    | nan => simp [Number.isZero, Double.isZero, value?]

end Gamebook.Proofs
