import Gamebook.Number.Decimal
import Mathlib.Data.Rat.Cast.Order
import Mathlib.Tactic.FieldSimp
import Mathlib.Tactic.Linarith
import Mathlib.Tactic.Positivity
import Mathlib.Tactic.Ring

/-!
# Rounding to doubles

`Magnitude.nearest?` depends on the ratio only, gives back every magnitude that is
its own ratio, and ends in nothing from `2 ^ 1024` on.
-/

namespace Gamebook.Proofs

lemma divNearest_mul_left (k num den : ℕ) (hk : 0 < k) :
    divNearest (k * num) (k * den) = divNearest num den := by
  have hmod : compare (2 * (k * num % (k * den))) (k * den) = compare (2 * (num % den)) den := by
    rw [Nat.mul_mod_mul_left, show 2 * (k * (num % den)) = k * (2 * (num % den)) by ring]
    rcases lt_trichotomy (2 * (num % den)) den with h | h | h
    · rw [compare_lt_iff_lt.mpr h, compare_lt_iff_lt.mpr (Nat.mul_lt_mul_of_pos_left h hk)]
    · rw [h, compare_eq_iff_eq.mpr rfl, compare_eq_iff_eq.mpr rfl]
    · rw [compare_gt_iff_gt.mpr h, compare_gt_iff_gt.mpr (Nat.mul_lt_mul_of_pos_left h hk)]
  unfold divNearest
  rw [hmod, Nat.mul_div_mul_left _ _ hk]

lemma divNearest_mul_right_self (n den : ℕ) (hden : 0 < den) : divNearest (n * den) den = n := by
  unfold divNearest
  rw [Nat.mul_mod_left, Nat.mul_div_cancel _ hden, compare_lt_iff_lt.mpr (by simpa using hden)]

lemma divNearest_eq_zero {num den : ℕ} (h : 2 * num < den) : divNearest num den = 0 := by
  have hlt : num < den := by omega
  unfold divNearest
  rw [Nat.mod_eq_of_lt hlt, Nat.div_eq_of_lt hlt, compare_lt_iff_lt.mpr h]

lemma nearest?_mul_left (k num den : ℕ) (hk : 0 < k) :
    Magnitude.nearest? (k * num) (k * den) = Magnitude.nearest? num den := by
  unfold Magnitude.nearest?
  simp only [Nat.mul_div_mul_left _ _ hk, Nat.mul_assoc, divNearest_mul_left _ _ _ hk]

/-- The nearest magnitude is a function of the ratio. -/
theorem nearest?_congr {a b c d : ℕ} (hb : 0 < b) (hd : 0 < d) (h : a * d = c * b) :
    Magnitude.nearest? a b = Magnitude.nearest? c d := by
  rw [← nearest?_mul_left d a b hd, ← nearest?_mul_left b c d hb, Nat.mul_comm d a, h,
    Nat.mul_comm c b, Nat.mul_comm d b]

@[simp] lemma ofParts?_self (m : Magnitude) :
    Magnitude.ofParts? m.mantissa m.exponent = some m := by
  unfold Magnitude.ofParts?
  rw [dif_pos ⟨m.mantissa_lt, m.exponent_le, m.canonical⟩]

lemma exponent_eq_log2 (m : Magnitude) : m.units.log2 - 52 = m.exponent := by
  have hlt : m.mantissa < 2 ^ 53 := m.mantissa_lt
  rcases m.canonical with h | h
  · have hle : 2 ^ 52 ≤ m.mantissa := h
    have hpos : m.units ≠ 0 :=
      Nat.mul_ne_zero (by omega) (Nat.pow_pos (by decide)).ne'
    have hlog : m.units.log2 = 52 + m.exponent := by
      rw [Nat.log2_eq_iff hpos]
      unfold Magnitude.units
      change 2 ^ (52 + m.exponent) ≤ m.mantissa * 2 ^ m.exponent ∧
        m.mantissa * 2 ^ m.exponent < 2 ^ (52 + m.exponent + 1)
      rw [pow_add, show 52 + m.exponent + 1 = 53 + m.exponent by ring, pow_add]
      exact ⟨Nat.mul_le_mul_right _ hle, Nat.mul_lt_mul_of_pos_right hlt (by positivity)⟩
    omega
  · have hunits : m.units = m.mantissa := by simp [Magnitude.units, h]
    have hlog : m.mantissa.log2 ≤ 52 := by
      rcases Nat.eq_zero_or_pos m.mantissa with hz | hz
      · simp [hz]
      · exact Nat.lt_succ_iff.mp ((Nat.log2_lt (by omega)).mpr hlt)
    rw [hunits, h]
    omega

/-- A magnitude is the nearest one to itself. -/
theorem nearest?_units (m : Magnitude) (den : ℕ) (hden : 0 < den) :
    Magnitude.nearest? (m.units * den) den = some m := by
  have hdiv : m.units * den / den = m.units := Nat.mul_div_cancel _ hden
  have hround : divNearest (m.units * den) (den * Nat.pow 2 m.exponent) = m.mantissa := by
    rw [show m.units * den = m.mantissa * (den * Nat.pow 2 m.exponent) by
      unfold Magnitude.units; ring]
    exact divNearest_mul_right_self _ _ (Nat.mul_pos hden (Nat.pow_pos (by decide)))
  unfold Magnitude.nearest?
  simp only [hdiv, exponent_eq_log2, hround]
  rw [if_neg (ne_of_lt m.mantissa_lt), ofParts?_self]

lemma ofParts?_eq_none {mantissa exponent : ℕ} (h : 2045 < exponent) :
    Magnitude.ofParts? mantissa exponent = none := by
  unfold Magnitude.ofParts?
  rw [dif_neg (by omega)]

lemma nearest?_eq_none {num den e : ℕ} (hden : 0 < den) (he : 1024 + 1074 ≤ e)
    (h : 2 ^ e * den ≤ num) : Magnitude.nearest? num den = none := by
  have hdiv : 2 ^ e ≤ num / den := (Nat.le_div_iff_mul_le hden).mpr h
  have hpos : num / den ≠ 0 := (lt_of_lt_of_le (by positivity) hdiv).ne'
  have hlog : e ≤ (num / den).log2 := (Nat.le_log2 hpos).mpr hdiv
  unfold Magnitude.nearest?
  simp only [ofParts?_eq_none (show 2045 < (num / den).log2 - 52 by omega),
    ofParts?_eq_none (show 2045 < (num / den).log2 - 52 + 1 by omega), ite_self]

lemma nearest?_eq_zero {num den : ℕ} (h : 2 * num < den) :
    Magnitude.nearest? num den = some .zero := by
  have hdiv : num / den = 0 := Nat.div_eq_of_lt (by omega)
  unfold Magnitude.nearest?
  simp only [hdiv, Nat.log2_zero, Nat.zero_sub]
  rw [divNearest_eq_zero (by simpa using h)]
  rfl

/-! ## Decimals -/

/-- The rational number that a decimal writes, its sign left aside. -/
def decimalValue (d : Decimal) : ℚ := d.coefficient * (10 : ℚ) ^ d.exponent

lemma exists_exponent (a n : ℕ) : ∃ e : ℕ, e = n ∧ Nat.pow a n = a ^ e := ⟨n, rfl, rfl⟩

/-- One is a power of two of units. The exponent is a variable, out of reach of evaluation. -/
lemma unitsPerOne_eq_pow : ∃ e : ℕ, e = 1074 ∧ unitsPerOne = 2 ^ e := by
  unfold unitsPerOne
  generalize 1074 = n
  exact exists_exponent 2 n

lemma unitsPerOne_pos : 0 < unitsPerOne := by
  obtain ⟨e, -, hone⟩ := unitsPerOne_eq_pow
  rw [hone]
  positivity

lemma ofRatio_of_some {negative : Bool} {num den : ℕ} {m : Magnitude}
    (h : Magnitude.nearest? (num * unitsPerOne) den = some m) :
    Double.ofRatio negative num den = .finite negative m := by
  rw [Double.ofRatio, h, Double.ofMagnitude?]

lemma ofRatio_of_none {negative : Bool} {num den : ℕ}
    (h : Magnitude.nearest? (num * unitsPerOne) den = none) :
    Double.ofRatio negative num den = .infinite negative := by
  rw [Double.ofRatio, h, Double.ofMagnitude?]

lemma two_pow_le_ten_pow (n : ℕ) : 2 ^ (3 * n) ≤ 10 ^ n := by
  rw [pow_mul]
  exact Nat.pow_le_pow_left (by decide) n

/-- What the size of the coefficient tells to be too large is rounded to an infinity. -/
lemma ofRatio_eq_infinite (negative : Bool) {c up : ℕ} (hc : c ≠ 0)
    (h : 1024 ≤ c.log2 + 3 * up) :
    Double.ofRatio negative (c * 10 ^ up) 1 = .infinite negative := by
  obtain ⟨e, he, hone⟩ := unitsPerOne_eq_pow
  have hexp : 1024 + 1074 ≤ c.log2 + 3 * up + e := by
    clear hone
    omega
  have hscaled : 2 ^ (c.log2 + 3 * up) ≤ c * 10 ^ up := by
    rw [pow_add]
    exact Nat.mul_le_mul (Nat.log2_self_le hc) (two_pow_le_ten_pow up)
  have hnum : 2 ^ (c.log2 + 3 * up + e) * 1 ≤ c * 10 ^ up * unitsPerOne := by
    rw [mul_one, pow_add, hone]
    exact Nat.mul_le_mul_right _ hscaled
  exact ofRatio_of_none (nearest?_eq_none one_pos hexp hnum)

lemma ofRatio_eq_zero (negative : Bool) {c down : ℕ} (h : c.log2 + 1076 ≤ 3 * down) :
    Double.ofRatio negative c (10 ^ down) = .finite negative .zero := by
  obtain ⟨e, he, hone⟩ := unitsPerOne_eq_pow
  have hexp : c.log2 + 1 + 1 + e ≤ 3 * down := by
    clear hone
    omega
  have hcoefficient : c < 2 ^ (c.log2 + 1) := Nat.lt_log2_self
  have hnum : 2 * (c * unitsPerOne) < 10 ^ down := by
    rw [hone]
    calc 2 * (c * 2 ^ e) < 2 * (2 ^ (c.log2 + 1) * 2 ^ e) := by
          apply (Nat.mul_lt_mul_left two_pos).mpr
          exact (Nat.mul_lt_mul_right (by positivity)).mpr hcoefficient
      _ = 2 ^ (c.log2 + 1 + 1 + e) := by ring
      _ ≤ 2 ^ (3 * down) := Nat.pow_le_pow_right (by decide) hexp
      _ ≤ 10 ^ down := two_pow_le_ten_pow down
  exact ofRatio_of_some (nearest?_eq_zero hnum)

/-- The short cuts of `Decimal.toDouble` for extreme exponents agree with rounding the ratio. -/
lemma toDouble_eq_ofRatio (d : Decimal) (hd : d.coefficient ≠ 0) :
    d.toDouble = .ofRatio d.negative (d.coefficient * 10 ^ d.exponent.toNat)
      (10 ^ (-d.exponent).toNat) := by
  rcases d with ⟨negative, c, e⟩
  unfold Decimal.toDouble
  rw [if_neg hd]
  cases e with
  | ofNat up =>
    simp only [Int.ofNat_eq_natCast, Int.toNat_natCast, Int.toNat_neg_natCast, pow_zero, Nat.pow_eq]
    split
    · rename_i h
      rw [ofRatio_eq_infinite negative hd h]
    · rfl
  | negSucc down =>
    simp only [Int.toNat_negSucc, Int.neg_negSucc, Int.toNat_natCast, pow_zero, mul_one, Nat.pow_eq]
    split
    · rename_i h
      rw [ofRatio_eq_zero negative h]
    · rfl

lemma ofRatio_congr (negative : Bool) {a b c d : ℕ} (hb : 0 < b) (hd : 0 < d)
    (h : a * d = c * b) : Double.ofRatio negative a b = .ofRatio negative c d := by
  have hunits : a * unitsPerOne * d = c * unitsPerOne * b := by
    rw [mul_right_comm, h, mul_right_comm]
  rw [Double.ofRatio, Double.ofRatio, nearest?_congr hb hd hunits]

lemma zpow_ten_eq (e : ℤ) : (10 : ℚ) ^ e = 10 ^ e.toNat / 10 ^ (-e).toNat := by
  cases e with
  | ofNat up => simp
  | negSucc down => simp [zpow_negSucc]

/-- The double of a decimal depends on its sign and on the number that it writes. -/
theorem toDouble_congr {d e : Decimal} (hd : d.coefficient ≠ 0) (hsign : d.negative = e.negative)
    (hvalue : decimalValue d = decimalValue e) : d.toDouble = e.toDouble := by
  have hd' : decimalValue d ≠ 0 :=
    mul_ne_zero (Nat.cast_ne_zero.mpr hd) (zpow_ne_zero _ (by decide))
  have he : e.coefficient ≠ 0 := by
    intro h
    apply hd'
    rw [hvalue, decimalValue, h, Nat.cast_zero, zero_mul]
  rw [toDouble_eq_ofRatio d hd, toDouble_eq_ofRatio e he, hsign]
  apply ofRatio_congr _ (by positivity) (by positivity)
  unfold decimalValue at hvalue
  rw [zpow_ten_eq, zpow_ten_eq, ← mul_div_assoc, ← mul_div_assoc,
    div_eq_div_iff (by positivity) (by positivity)] at hvalue
  exact_mod_cast hvalue

end Gamebook.Proofs
