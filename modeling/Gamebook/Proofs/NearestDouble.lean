import Gamebook.Proofs.Rounding
import Mathlib.Data.Nat.Cast.Order.Field

/-!
# The nearest double

A number is rounded to the magnitude nearest to it, and of two that lie equally near to the one with
the even mantissa. From the middle between the largest double and `2 ^ 1024` on it is rounded to an
infinity. Decimals are read in this way, and whole numbers become doubles in this way.
-/

namespace Gamebook.Proofs

section

variable {num den : ℕ}

/-! ## Quotients -/

/-- The part of a quotient beyond the whole number below it. -/
def restOf (num den : ℕ) : ℚ := (num % den : ℕ) / den

lemma restOf_bounds (num : ℕ) (hden : 0 < den) : 0 ≤ restOf num den ∧ restOf num den < 1 := by
  have hpos : (0 : ℚ) < den := by exact_mod_cast hden
  unfold restOf
  refine ⟨by positivity, ?_⟩
  rw [div_lt_one hpos]
  exact_mod_cast Nat.mod_lt num hden

lemma floor_add_restOf (num : ℕ) (hden : 0 < den) :
    (num : ℚ) / den = (num / den : ℕ) + restOf num den := by
  have hne : (den : ℚ) ≠ 0 := by exact_mod_cast hden.ne'
  unfold restOf
  rw [div_eq_iff hne, add_mul, div_mul_cancel₀ _ hne]
  exact_mod_cast (Nat.div_add_mod' num den).symm

lemma compare_remainder (num : ℕ) (hden : 0 < den) :
    compare (2 * (num % den)) den = compare (2 * restOf num den) 1 := by
  have hpos : (0 : ℚ) < den := by exact_mod_cast hden
  have hdouble : 2 * restOf num den = (2 * (num % den) : ℕ) / den := by
    unfold restOf
    push_cast
    ring
  rw [hdouble]
  rcases lt_trichotomy (2 * (num % den)) den with h | h | h
  · rw [compare_lt_iff_lt.mpr h, eq_comm, compare_lt_iff_lt, div_lt_one hpos]
    exact_mod_cast h
  · rw [compare_eq_iff_eq.mpr h, eq_comm, compare_eq_iff_eq, h, div_self hpos.ne']
  · rw [compare_gt_iff_gt.mpr h, eq_comm, compare_gt_iff_gt, one_lt_div hpos]
    exact_mod_cast h

lemma floor_apart (num : ℕ) (hden : 0 < den) :
    |((num / den : ℕ) : ℚ) - num / den| = restOf num den := by
  rw [floor_add_restOf num hden, sub_add_cancel_left, abs_neg,
    abs_of_nonneg (restOf_bounds num hden).1]

lemma next_apart (num : ℕ) (hden : 0 < den) :
    |((num / den + 1 : ℕ) : ℚ) - num / den| = 1 - restOf num den := by
  have hrest := (restOf_bounds num hden).2
  rw [floor_add_restOf num hden, Nat.cast_succ, add_sub_add_left_eq_sub,
    abs_of_pos (by linarith)]

/-- A rounded quotient lies at most a half away from the quotient, and a half away it is even. -/
lemma divNearest_within (num : ℕ) (hden : 0 < den) :
    2 * |(divNearest num den : ℚ) - num / den| ≤ 1 ∧
      (2 * |(divNearest num den : ℚ) - num / den| = 1 → Even (divNearest num den)) := by
  have hfloor := floor_apart num hden
  have hnext := next_apart num hden
  unfold divNearest
  rw [compare_remainder num hden]
  rcases lt_trichotomy (2 * restOf num den) 1 with h | h | h
  · rw [compare_lt_iff_lt.mpr h]
    dsimp only
    rw [hfloor]
    exact ⟨h.le, fun heq => absurd heq h.ne⟩
  · rw [compare_eq_iff_eq.mpr h]
    dsimp only
    by_cases heven : num / den % 2 = 0
    · rw [if_pos heven, hfloor]
      exact ⟨h.le, fun _ => Nat.even_iff.mpr heven⟩
    · rw [if_neg heven, hnext]
      exact ⟨by linarith, fun _ => Nat.even_iff.mpr (by omega)⟩
  · rw [compare_gt_iff_gt.mpr h]
    dsimp only
    rw [hnext]
    exact ⟨by linarith, fun heq => by linarith⟩

lemma apart_divNearest {k : ℕ} (hk : k ≠ divNearest num den) :
    1 ≤ |(k : ℚ) - num / den| + |(divNearest num den : ℚ) - num / den| := by
  have hstep : (1 : ℚ) ≤ |(k : ℚ) - divNearest num den| := by
    have hint : (1 : ℤ) ≤ |(k : ℤ) - divNearest num den| :=
      Int.one_le_abs (sub_ne_zero.mpr (by exact_mod_cast hk))
    exact_mod_cast hint
  calc (1 : ℚ) ≤ |(k : ℚ) - divNearest num den| := hstep
    _ ≤ |(k : ℚ) - num / den| + |num / den - (divNearest num den : ℚ)| := abs_sub_le _ _ _
    _ = |(k : ℚ) - num / den| + |(divNearest num den : ℚ) - num / den| := by
      rw [abs_sub_comm (num / den : ℚ)]

lemma divNearest_nearest (num : ℕ) (hden : 0 < den) (k : ℕ) :
    |(divNearest num den : ℚ) - num / den| ≤ |(k : ℚ) - num / den| := by
  by_cases hk : k = divNearest num den
  · rw [hk]
  · have hwithin := (divNearest_within num hden).1
    have hapart := apart_divNearest hk
    linarith

lemma even_divNearest (hden : 0 < den) {k : ℕ} (hk : k ≠ divNearest num den)
    (heq : |(k : ℚ) - num / den| = |(divNearest num den : ℚ) - num / den|) :
    Even (divNearest num den) := by
  obtain ⟨hwithin, heven⟩ := divNearest_within num hden
  have hapart := apart_divNearest hk
  exact heven (by linarith)

lemma le_divNearest (hden : 0 < den) {k : ℕ} (hk : (k : ℚ) ≤ num / den) :
    k ≤ divNearest num den := by
  by_contra hlt
  have hcast : (divNearest num den : ℚ) < k := by exact_mod_cast not_le.mp hlt
  have hnear := divNearest_nearest num hden k
  rw [abs_of_nonpos (by linarith), abs_of_nonpos (by linarith)] at hnear
  linarith

lemma divNearest_le (hden : 0 < den) {k : ℕ} (hk : (num : ℚ) / den ≤ k) :
    divNearest num den ≤ k := by
  by_contra hlt
  have hcast : (k : ℚ) < divNearest num den := by exact_mod_cast not_le.mp hlt
  have hnear := divNearest_nearest num hden k
  rw [abs_of_nonneg (by linarith), abs_of_nonneg (by linarith)] at hnear
  linarith

lemma even_le_divNearest_iff (hden : 0 < den) {k : ℕ} (hk : Even k) :
    k ≤ divNearest num den ↔ (k : ℚ) - 1 / 2 ≤ num / den := by
  obtain ⟨hwithin, heven⟩ := divNearest_within num hden
  constructor
  · intro hle
    have hcast : (k : ℚ) ≤ divNearest num den := by exact_mod_cast hle
    have hover := le_abs_self ((divNearest num den : ℚ) - num / den)
    linarith
  · intro hhalf
    by_contra hlt
    have hstep : (divNearest num den : ℚ) + 1 ≤ k := by exact_mod_cast not_le.mp hlt
    rw [abs_sub_comm, abs_of_nonneg (by linarith)] at hwithin heven
    have hnext : (divNearest num den : ℚ) + 1 = k := by linarith
    have hodd : Even (divNearest num den + 1) := by
      rwa [show divNearest num den + 1 = k by exact_mod_cast hnext]
    exact Nat.even_add_one.mp hodd (heven (by linarith))

/-! ## The grid of a ratio -/

/-- The exponent of the grid on which a ratio is rounded. -/
def gridExponent (num den : ℕ) : ℕ := (num / den).log2 - 52

/-- The denominator of the ratio as counted on its grid. -/
def gridDen (num den : ℕ) : ℕ := den * 2 ^ gridExponent num den

lemma gridDen_pos (num : ℕ) (hden : 0 < den) : 0 < gridDen num den :=
  Nat.mul_pos hden (by positivity)

lemma ratio_eq (num den : ℕ) :
    (num : ℚ) / den = num / gridDen num den * 2 ^ gridExponent num den := by
  unfold gridDen
  rw [Nat.cast_mul, Nat.cast_pow, Nat.cast_ofNat, ← div_div, div_mul_cancel₀ _ (by positivity)]

/-- On its grid, a ratio has at most 53 binary digits before the point. -/
lemma grid_lt (num : ℕ) (hden : 0 < den) : (num : ℚ) / gridDen num den < 2 ^ 53 := by
  have hwhole : num / den < 2 ^ 53 * 2 ^ gridExponent num den := by
    have hlog : num / den < 2 ^ ((num / den).log2 + 1) := Nat.lt_log2_self
    rw [← pow_add]
    refine hlog.trans_le (Nat.pow_le_pow_right (by decide) ?_)
    unfold gridExponent
    omega
  rw [div_lt_iff₀ (by exact_mod_cast gridDen_pos num hden)]
  rw [Nat.div_lt_iff_lt_mul hden] at hwhole
  unfold gridDen
  calc (num : ℚ) < (2 ^ 53 * 2 ^ gridExponent num den * den : ℕ) := by exact_mod_cast hwhole
    _ = 2 ^ 53 * (den * 2 ^ gridExponent num den : ℕ) := by
      push_cast
      ring

/-- On a grid wider than one unit it has as many. -/
lemma le_grid (hden : 0 < den) (h : 0 < gridExponent num den) :
    (2 ^ 52 : ℚ) ≤ num / gridDen num den := by
  have hlog : (num / den).log2 = 52 + gridExponent num den := by
    unfold gridExponent at h ⊢
    omega
  have hne : num / den ≠ 0 := by
    intro hzero
    rw [hzero, Nat.log2_zero] at hlog
    omega
  have hwhole : 2 ^ 52 * 2 ^ gridExponent num den ≤ num / den := by
    rw [← pow_add, ← hlog]
    exact Nat.log2_self_le hne
  rw [le_div_iff₀ (by exact_mod_cast gridDen_pos num hden)]
  rw [Nat.le_div_iff_mul_le hden] at hwhole
  unfold gridDen
  calc (2 ^ 52 : ℚ) * (den * 2 ^ gridExponent num den : ℕ)
      = (2 ^ 52 * 2 ^ gridExponent num den * den : ℕ) := by
        push_cast
        ring
    _ ≤ num := by exact_mod_cast hwhole

/-- A place that is rounded up to the end of its grid has the least mantissa of the next one. -/
lemma nearest?_eq (num den : ℕ) :
    Magnitude.nearest? num den =
      if divNearest num (gridDen num den) = 2 ^ 53
        then Magnitude.ofParts? (2 ^ 52) (gridExponent num den + 1)
        else Magnitude.ofParts? (divNearest num (gridDen num den)) (gridExponent num den) := rfl

/-! ## Magnitudes -/

/-- No magnitude lies nearer to so many units, and if another one lies equally near, the mantissa of
this one is even. -/
structure NearestMagnitude (units : ℚ) (m : Magnitude) : Prop where
  nearest : ∀ k : Magnitude, |(m.units : ℚ) - units| ≤ |(k.units : ℚ) - units|
  even : ∀ k : Magnitude, k ≠ m → |(k.units : ℚ) - units| = |(m.units : ℚ) - units| →
    Even m.mantissa

lemma units_injective {m k : Magnitude} (h : m.units = k.units) : m = k := by
  have hm := nearest?_units m 1 one_pos
  rw [h, nearest?_units k 1 one_pos, Option.some.injEq] at hm
  exact hm.symm

lemma parts_of_ofParts? {mantissa exponent : ℕ} {m : Magnitude}
    (h : Magnitude.ofParts? mantissa exponent = some m) :
    m.mantissa = mantissa ∧ m.exponent = exponent := by
  unfold Magnitude.ofParts? at h
  split at h
  · rw [← Option.some.inj h]
    exact ⟨rfl, rfl⟩
  · exact absurd h (by simp)

lemma units_of_nearest? {m : Magnitude} (h : Magnitude.nearest? num den = some m) :
    m.units = divNearest num (gridDen num den) * 2 ^ gridExponent num den ∧
      (Even (divNearest num (gridDen num den)) → Even m.mantissa) := by
  rw [nearest?_eq] at h
  unfold Magnitude.units
  split at h
  · rename_i htop
    obtain ⟨hmantissa, hexponent⟩ := parts_of_ofParts? h
    rw [hmantissa, hexponent, htop, Nat.pow_eq]
    exact ⟨by ring, fun _ => by decide⟩
  · obtain ⟨hmantissa, hexponent⟩ := parts_of_ofParts? h
    rw [hmantissa, hexponent, Nat.pow_eq]
    exact ⟨rfl, id⟩

lemma abs_scaled_sub (a x : ℚ) {width : ℚ} (h : 0 < width) :
    |a * width - x * width| = |a - x| * width := by
  rw [← sub_mul, abs_mul, abs_of_pos h]

lemma units_on_grid {k : Magnitude} {e : ℕ} (h : e ≤ k.exponent) :
    k.units = k.mantissa * 2 ^ (k.exponent - e) * 2 ^ e := by
  rw [mul_assoc, ← pow_add, Nat.sub_add_cancel h]
  rfl

/-- A magnitude of a finer grid lies below the places of 53 digits. -/
lemma units_lt_grid {k : Magnitude} {e : ℕ} (h : k.exponent < e) : k.units < 2 ^ 52 * 2 ^ e := by
  have hmantissa : k.mantissa < 2 ^ 53 := k.mantissa_lt
  calc k.units = k.mantissa * 2 ^ k.exponent := rfl
    _ < 2 ^ 53 * 2 ^ k.exponent := Nat.mul_lt_mul_of_pos_right hmantissa (by positivity)
    _ = 2 ^ 52 * 2 ^ (k.exponent + 1) := by ring
    _ ≤ 2 ^ 52 * 2 ^ e := Nat.mul_le_mul_left _ (Nat.pow_le_pow_right (by decide) h)

lemma nearer_than_finer (hden : 0 < den) {k : Magnitude} (h : k.exponent < gridExponent num den) :
    |(divNearest num (gridDen num den) : ℚ) - num / gridDen num den| * 2 ^ gridExponent num den <
      |(k.units : ℚ) - num / gridDen num den * 2 ^ gridExponent num den| := by
  have hwidth : (0 : ℚ) < 2 ^ gridExponent num den := by positivity
  have hlow := le_grid hden (Nat.zero_lt_of_lt h)
  have hbelow : (k.units : ℚ) < 2 ^ 52 * 2 ^ gridExponent num den := by
    exact_mod_cast units_lt_grid h
  have hnear := divNearest_nearest num (gridDen_pos num hden) (2 ^ 52)
  have hscaled : 2 ^ 52 * 2 ^ gridExponent num den ≤
      num / gridDen num den * (2 : ℚ) ^ gridExponent num den :=
    mul_le_mul_of_nonneg_right hlow hwidth.le
  calc |(divNearest num (gridDen num den) : ℚ) - num / gridDen num den| * 2 ^ gridExponent num den
      ≤ |((2 ^ 52 : ℕ) : ℚ) - num / gridDen num den| * 2 ^ gridExponent num den :=
        mul_le_mul_of_nonneg_right hnear hwidth.le
    _ = (num / gridDen num den - 2 ^ 52) * 2 ^ gridExponent num den := by
        rw [Nat.cast_pow, Nat.cast_ofNat, abs_sub_comm, abs_of_nonneg (by linarith)]
    _ < num / gridDen num den * 2 ^ gridExponent num den - k.units := by
        rw [sub_mul]
        linarith
    _ = |(k.units : ℚ) - num / gridDen num den * 2 ^ gridExponent num den| := by
        rw [abs_sub_comm, abs_of_nonneg (by linarith)]

/-- A ratio is rounded to the magnitude nearest to it. -/
theorem nearest?_nearest (hden : 0 < den) {m : Magnitude}
    (h : Magnitude.nearest? num den = some m) : NearestMagnitude (num / den) m := by
  obtain ⟨hunits, heven⟩ := units_of_nearest? h
  have hgrid := gridDen_pos num hden
  have hwidth : (0 : ℚ) < 2 ^ gridExponent num den := by positivity
  suffices hother : ∀ k : Magnitude, k ≠ m →
      |(m.units : ℚ) - num / den| ≤ |(k.units : ℚ) - num / den| ∧
        (|(k.units : ℚ) - num / den| = |(m.units : ℚ) - num / den| → Even m.mantissa) by
    refine ⟨fun k => ?_, fun k hk => (hother k hk).2⟩
    by_cases hk : k = m
    · rw [hk]
    · exact (hother k hk).1
  intro k hk
  rw [ratio_eq num den, hunits, Nat.cast_mul, Nat.cast_pow, Nat.cast_ofNat,
    abs_scaled_sub _ _ hwidth]
  -- Another magnitude is a place on the grid, or it lies below all places of 53 digits.
  by_cases hfine : k.exponent < gridExponent num den
  · have hstrict := nearer_than_finer hden hfine
    exact ⟨hstrict.le, fun heq => absurd heq hstrict.ne'⟩
  · have hplace := units_on_grid (not_lt.mp hfine)
    have hne : k.mantissa * 2 ^ (k.exponent - gridExponent num den) ≠
        divNearest num (gridDen num den) := by
      intro heq
      apply hk
      apply units_injective
      rw [hplace, heq, hunits]
    rw [hplace, Nat.cast_mul _ (2 ^ gridExponent num den), Nat.cast_pow 2 (gridExponent num den),
      Nat.cast_ofNat, abs_scaled_sub _ _ hwidth]
    refine ⟨mul_le_mul_of_nonneg_right (divNearest_nearest num hgrid _) hwidth.le, fun heq => ?_⟩
    exact heven (even_divNearest hgrid hne (mul_right_cancel₀ hwidth.ne' heq))

/-- The next magnitude after one with an even mantissa is on its grid and has an odd mantissa. -/
lemma exists_next {m : Magnitude} (h : Even m.mantissa) :
    ∃ next : Magnitude, ¬Even next.mantissa ∧ m.units < next.units ∧
      ∀ k : Magnitude, m.units < k.units → next.units ≤ k.units := by
  have hmantissa : m.mantissa < 2 ^ 53 := m.mantissa_lt
  have hodd : m.mantissa ≠ 2 ^ 53 - 1 := by
    intro heq
    rw [heq] at h
    exact absurd h (by decide)
  have hlt : m.mantissa + 1 < 2 ^ 53 := by omega
  refine ⟨⟨m.mantissa + 1, m.exponent, hlt, m.exponent_le, ?_⟩, ?_, ?_, fun k hk => ?_⟩
  · exact m.canonical.imp_left fun hle => hle.trans (Nat.le_succ _)
  · rw [Nat.not_even_iff_odd]
    exact h.add_one
  · exact Nat.mul_lt_mul_of_pos_right (Nat.lt_succ_self _) (Nat.pow_pos (by decide))
  · by_cases hfine : k.exponent < m.exponent
    · have hlong : 2 ^ 52 ≤ m.mantissa :=
        m.canonical.resolve_right (Nat.ne_of_gt (Nat.zero_lt_of_lt hfine))
      have hbelow := (units_lt_grid hfine).trans_le (Nat.mul_le_mul_right _ hlong)
      exact absurd hk hbelow.not_gt
    · have hplace := units_on_grid (not_lt.mp hfine)
      rw [hplace] at hk ⊢
      exact Nat.mul_le_mul_right _ (Nat.lt_of_mul_lt_mul_right hk)

/-- There is one magnitude to be rounded to. -/
theorem NearestMagnitude.unique {units : ℚ} {m k : Magnitude} (hm : NearestMagnitude units m)
    (hk : NearestMagnitude units k) : m = k := by
  wlog hle : m.units ≤ k.units generalizing m k
  · exact (this hk hm (not_le.mp hle).le).symm
  by_contra hne
  have hequal : |(k.units : ℚ) - units| = |(m.units : ℚ) - units| :=
    le_antisymm (hk.nearest m) (hm.nearest k)
  have hlt : m.units < k.units := lt_of_le_of_ne hle fun heq => hne (units_injective heq)
  obtain ⟨next, hodd, hnext, hleast⟩ := exists_next (hm.even k (Ne.symm hne) hequal)
  have heven := hk.even m hne hequal.symm
  have hbetween : next.units < k.units := by
    refine lt_of_le_of_ne (hleast k hlt) fun heq => hodd ?_
    rwa [units_injective heq]
  have hlow : (m.units : ℚ) < next.units := by exact_mod_cast hnext
  have hhigh : (next.units : ℚ) < k.units := by exact_mod_cast hbetween
  -- The two lie equally far on either side, and the next magnitude stands between them.
  have hmiddle : (k.units : ℚ) - units = units - m.units := by
    rcases abs_eq_abs.mp hequal with h | h <;> linarith
  have hside : 0 < units - (m.units : ℚ) := by linarith
  have hcloser : |(next.units : ℚ) - units| < |(m.units : ℚ) - units| := by
    rw [abs_sub_comm (m.units : ℚ), abs_of_pos hside, abs_lt]
    constructor <;> linarith
  exact absurd (hm.nearest next) hcloser.not_ge

/-! ## Beyond the largest magnitude -/

lemma nearest?_eq_none_iff_grid (hden : 0 < den) :
    Magnitude.nearest? num den = none ↔ 2045 < gridExponent num den ∨
      gridExponent num den = 2045 ∧ divNearest num (gridDen num den) = 2 ^ 53 := by
  rw [nearest?_eq]
  have hgrid := gridDen_pos num hden
  have htop : divNearest num (gridDen num den) ≤ 2 ^ 53 :=
    divNearest_le hgrid (by exact_mod_cast (grid_lt num hden).le)
  have hlow : 0 < gridExponent num den → 2 ^ 52 ≤ divNearest num (gridDen num den) :=
    fun h => le_divNearest hgrid (by exact_mod_cast le_grid hden h)
  unfold Magnitude.ofParts?
  simp only [Nat.pow_eq]
  by_cases hend : divNearest num (gridDen num den) = 2 ^ 53
  · rw [if_pos hend]
    split <;> simp only [reduceCtorEq, false_iff, true_iff] <;> omega
  · rw [if_neg hend]
    split <;> simp only [reduceCtorEq, false_iff, true_iff] <;> omega

/-- The middle between the largest magnitude and the next place of its grid, in units; `top` stands
for the greatest exponent. -/
def unitsBound (top : ℕ) : ℚ := (2 ^ 53 - 1 / 2) * 2 ^ top

/-- From the middle beyond the largest magnitude on there is no nearest one. -/
theorem nearest?_eq_none_iff (hden : 0 < den) {top : ℕ} (htop : top = 2045) :
    Magnitude.nearest? num den = none ↔ unitsBound top ≤ num / den := by
  have hgrid := gridDen_pos num hden
  have hlt := grid_lt num hden
  rw [nearest?_eq_none_iff_grid hden, ratio_eq num den, ← htop]
  unfold unitsBound
  rcases lt_trichotomy (gridExponent num den) top with h | h | h
  · have hwidth : (2 : ℚ) * 2 ^ gridExponent num den ≤ 2 ^ top := by
      rw [← pow_succ']
      exact pow_le_pow_right₀ one_le_two h
    have hscaled : num / gridDen num den * (2 : ℚ) ^ gridExponent num den <
        2 ^ 53 * 2 ^ gridExponent num den := mul_lt_mul_of_pos_right hlt (by positivity)
    have hpos : (0 : ℚ) < 2 ^ top := by positivity
    refine iff_of_false (by omega) (not_le.mpr ?_)
    linarith
  · have hmax : divNearest num (gridDen num den) ≤ 2 ^ 53 :=
      divNearest_le hgrid (by exact_mod_cast hlt.le)
    have hend : 2 ^ 53 ≤ divNearest num (gridDen num den) ↔
        ((2 ^ 53 : ℕ) : ℚ) - 1 / 2 ≤ num / gridDen num den :=
      even_le_divNearest_iff hgrid (by decide)
    rw [Nat.cast_pow, Nat.cast_ofNat] at hend
    rw [h, mul_le_mul_iff_of_pos_right (by positivity), ← hend]
    omega
  · have hwidth : (2 : ℚ) * 2 ^ top ≤ 2 ^ gridExponent num den := by
      rw [← pow_succ']
      exact pow_le_pow_right₀ one_le_two h
    have hscaled : 2 ^ 52 * 2 ^ gridExponent num den ≤
        num / gridDen num den * (2 : ℚ) ^ gridExponent num den :=
      mul_le_mul_of_nonneg_right (le_grid hden (by omega)) (by positivity)
    have hpos : (0 : ℚ) < 2 ^ top := by positivity
    exact iff_of_true (.inl h) (by linarith)

/-! ## Doubles -/

/-- The middle between the largest double and `2 ^ 1024`. -/
def overflowBound : ℚ := 2 ^ 1024 - 2 ^ 970

/-- The double to which a number with this sign and of this size is rounded. -/
structure RoundsTo (negative : Bool) (size : ℚ) (x : Double) : Prop where
  overflow : overflowBound ≤ size → x = .infinite negative
  nearest : size < overflowBound →
    ∃ m, x = .finite negative m ∧ NearestMagnitude (size * unitsPerOne) m

/-- Rounding leaves no choice. -/
theorem RoundsTo.unique {negative : Bool} {size : ℚ} {x y : Double}
    (hx : RoundsTo negative size x) (hy : RoundsTo negative size y) : x = y := by
  rcases le_or_gt overflowBound size with h | h
  · rw [hx.overflow h, hy.overflow h]
  · obtain ⟨m, rfl, hm⟩ := hx.nearest h
    obtain ⟨k, rfl, hk⟩ := hy.nearest h
    rw [hm.unique hk]

lemma overflowBound_units : ∃ top, top = 2045 ∧ overflowBound * unitsPerOne = unitsBound top := by
  obtain ⟨e, he, hone⟩ := unitsPerOne_eq_pow
  obtain ⟨low, hlow⟩ : ∃ low : ℕ, low = 970 := ⟨_, rfl⟩
  refine ⟨1 + low + e, by omega, ?_⟩
  have hhigh : (2 : ℚ) ^ 1024 = 2 ^ 54 * 2 ^ low := by
    rw [hlow, ← pow_add]
  unfold overflowBound unitsBound
  rw [hhigh, ← hlow, hone, Nat.cast_pow, Nat.cast_ofNat, pow_add, pow_add]
  ring

theorem roundsTo_ofRatio (negative : Bool) (hden : 0 < den) :
    RoundsTo negative (num / den) (.ofRatio negative num den) := by
  have hunits : (num / den : ℚ) * unitsPerOne = (num * unitsPerOne : ℕ) / den := by
    rw [Nat.cast_mul, div_mul_eq_mul_div]
  have hone : (0 : ℚ) < unitsPerOne := by exact_mod_cast unitsPerOne_pos
  obtain ⟨top, htop, hbound⟩ := overflowBound_units
  have hnone : Magnitude.nearest? (num * unitsPerOne) den = none ↔ overflowBound ≤ num / den := by
    rw [nearest?_eq_none_iff hden htop, ← hbound, ← hunits, mul_le_mul_iff_of_pos_right hone]
  constructor
  case overflow => exact fun h => ofRatio_of_none (hnone.mpr h)
  case nearest =>
    intro h
    obtain ⟨m, hm⟩ := Option.ne_none_iff_exists'.mp (mt hnone.mp (not_le.mpr h))
    refine ⟨m, ofRatio_of_some hm, ?_⟩
    rw [hunits]
    exact nearest?_nearest hden hm

/-- A whole number becomes the double nearest to it. -/
theorem roundsTo_ofInt (n : ℤ) : RoundsTo (decide (n < 0)) n.natAbs (.ofInt n) := by
  have h : RoundsTo (decide (n < 0)) (n.natAbs / (1 : ℕ)) (.ofInt n) :=
    roundsTo_ofRatio (decide (n < 0)) one_pos
  rwa [Nat.cast_one, div_one] at h

/-- A decimal is read as the double nearest to it. -/
theorem roundsTo_toDouble (d : Decimal) : RoundsTo d.negative (decimalValue d) d.toDouble := by
  by_cases hd : d.coefficient = 0
  · have hvalue : decimalValue d = (0 : ℕ) / (1 : ℕ) := by
      rw [decimalValue, hd]
      simp
    have hzero : d.toDouble = .ofRatio d.negative 0 1 := by
      rw [ofRatio_of_some (nearest?_eq_zero (by simp)), Decimal.toDouble, if_pos hd]
    rw [hvalue, hzero]
    exact roundsTo_ofRatio d.negative one_pos
  · have hvalue : decimalValue d =
        (d.coefficient * 10 ^ d.exponent.toNat : ℕ) / (10 ^ (-d.exponent).toNat : ℕ) := by
      rw [decimalValue, zpow_ten_eq, ← mul_div_assoc]
      push_cast
      rfl
    rw [hvalue, toDouble_eq_ofRatio d hd]
    exact roundsTo_ofRatio d.negative (by positivity)

end

end Gamebook.Proofs
