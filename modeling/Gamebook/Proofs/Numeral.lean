import Gamebook.Number.Basic
import Gamebook.Proofs.Rounding
import Mathlib.Data.List.TakeWhile

/-!
# Reading back the text of a number

The text of a finite double and the text of a whole number are read as what they were
written for. Both layouts of a double write the same number, and a numeral is read for
the number that it writes.
-/

namespace Gamebook.Proofs

/-- Only the digits `0` to `9`. -/
def DigitChars (cs : List Char) : Prop := ∀ c ∈ cs, c.isDigit = true

/-- The number that digits write. -/
def digitsValue (cs : List Char) : ℕ := Nat.ofDigitChars 10 cs 0

/-- Nothing, or a character that is no digit of any script, stands in front. -/
def EndsDigits (cs : List Char) : Prop := ∀ c ∈ cs.head?, Text.digit? c = none

lemma isDigit_bounds {c : Char} (h : c.isDigit = true) : 48 ≤ c.toNat ∧ c.toNat ≤ 57 := by
  simp only [Char.isDigit, Bool.and_eq_true, decide_eq_true_eq, ge_iff_le] at h
  exact ⟨UInt32.le_iff_toNat_le.mp h.1, UInt32.le_iff_toNat_le.mp h.2⟩

lemma digit?_of_isDigit {c : Char} (h : c.isDigit = true) :
    Text.digit? c = some (c.toNat - 48) := by
  obtain ⟨hlow, hhigh⟩ := isDigit_bounds h
  obtain ⟨zeros, hzeros⟩ : ∃ zeros, Text.digitZeros = 0x30 :: zeros := ⟨_, rfl⟩
  unfold Text.digit?
  rw [hzeros, List.find?_cons_of_pos (by simp only [Bool.and_eq_true, decide_eq_true_eq]; omega)]
  rfl

section

variable {digit? : Char → Option ℕ} {cs rest : List Char} {ds : List ℕ}

lemma map_digits_eq (h : ∀ c ∈ cs, (digit? c).isSome = true) :
    cs.map digit? = (cs.filterMap digit?).map some := by
  induction cs with
  | nil => rfl
  | cons c cs ih =>
    obtain ⟨d, hd⟩ := Option.isSome_iff_exists.mp (h c List.mem_cons_self)
    rw [List.map_cons, List.filterMap_cons_some hd, List.map_cons, hd,
      ih fun c' hc' => h c' (List.mem_cons_of_mem c hc')]

lemma filterMap_digits_eq (h : cs.map digit? = ds.map some) : cs.filterMap digit? = ds := by
  calc cs.filterMap digit? = (cs.map digit?).filterMap id := by
        rw [List.filterMap_map, Function.id_comp]
    _ = ds := by rw [h, List.filterMap_map, Function.id_comp, List.filterMap_some]

lemma isSome_of_map_digits (h : cs.map digit? = ds.map some) {c : Char} (hc : c ∈ cs) :
    (digit? c).isSome = true := by
  have hmem : digit? c ∈ ds.map some := h ▸ List.mem_map_of_mem hc
  obtain ⟨d, -, hd⟩ := List.mem_map.mp hmem
  exact Option.isSome_iff_exists.mpr ⟨d, hd.symm⟩

/-- Digits are taken up to the first character that is none. -/
lemma takeDigits_iff : takeDigits digit? cs = (ds, rest) ↔
    ∃ front, cs = front ++ rest ∧ front.map digit? = ds.map some ∧
      ∀ c ∈ rest.head?, digit? c = none := by
  let isDigit (c : Char) := (digit? c).isSome
  constructor
  · intro h
    obtain ⟨hds, hrest⟩ := Prod.mk.inj h
    refine ⟨cs.takeWhile isDigit, ?_, ?_, ?_⟩
    · rw [← hrest, List.takeWhile_append_dropWhile]
    · rw [← hds]
      exact map_digits_eq fun c hc => List.mem_takeWhile_imp (p := isDigit) hc
    · intro c hc
      have hnot := List.head?_dropWhile_not isDigit cs
      rw [← hrest] at hc
      rw [hc] at hnot
      simpa [isDigit] using hnot
  · rintro ⟨front, rfl, hfront, hrest⟩
    have hall : ∀ c ∈ front, isDigit c = true := fun c hc => isSome_of_map_digits hfront hc
    have hnone : rest.takeWhile isDigit = [] ∧ rest.dropWhile isDigit = rest := by
      cases rest with
      | nil => exact ⟨rfl, rfl⟩
      | cons c rest =>
        have hc : isDigit c = false := by
          simp [isDigit, hrest c rfl]
        simp [hc]
    change (((front ++ rest).takeWhile isDigit).filterMap digit?,
      (front ++ rest).dropWhile isDigit) = _
    rw [List.takeWhile_append_of_pos hall, List.dropWhile_append_of_pos hall, hnone.1, hnone.2,
      List.append_nil, filterMap_digits_eq hfront]

/-- The digits `0` to `9` are taken by any reader of digits that knows them. -/
lemma takeDigits_append_of (hdigit : ∀ c, c.isDigit = true → digit? c = some (c.toNat - 48))
    (hcs : DigitChars cs) (hrest : ∀ c ∈ rest.head?, digit? c = none) :
    takeDigits digit? (cs ++ rest) = (cs.map fun c => c.toNat - 48, rest) := by
  refine takeDigits_iff.mpr ⟨cs, rfl, ?_, hrest⟩
  rw [List.map_map]
  exact List.map_congr_left fun c hc => hdigit c (hcs c hc)

end

lemma takeDigits_append {cs rest : List Char} (hcs : DigitChars cs) (hrest : EndsDigits rest) :
    takeDigits Text.digit? (cs ++ rest) = (cs.map fun c => c.toNat - 48, rest) :=
  takeDigits_append_of (fun _ hc => digit?_of_isDigit hc) hcs hrest

lemma ofDigits_map (cs : List Char) :
    Text.ofDigits (cs.map fun c => c.toNat - 48) = digitsValue cs := by
  rw [Text.ofDigits_eq_foldl, List.foldl_map]
  rfl

lemma digitsValue_append (as bs : List Char) :
    digitsValue (as ++ bs) = 10 ^ bs.length * digitsValue as + digitsValue bs := by
  unfold digitsValue
  rw [Nat.ofDigitChars_append, Nat.ofDigitChars_eq_ofDigitChars_zero]

@[simp] lemma digitsValue_zeros (k : ℕ) : digitsValue (List.replicate k '0') = 0 := by
  simp [digitsValue]

lemma digitChars_append {as bs : List Char} (ha : DigitChars as) (hb : DigitChars bs) :
    DigitChars (as ++ bs) := by
  intro c hc
  rcases List.mem_append.mp hc with h | h
  · exact ha c h
  · exact hb c h

lemma digitChars_zeros (k : ℕ) : DigitChars (List.replicate k '0') := by
  intro c hc
  rw [List.eq_of_mem_replicate hc]
  rfl

lemma digitChars_decimalDigits (n : ℕ) : DigitChars (decimalDigits n) :=
  fun _ hc => Nat.isDigit_of_mem_toDigits (by decide) (by decide) hc

@[simp] lemma digitsValue_decimalDigits (n : ℕ) : digitsValue (decimalDigits n) = n :=
  Nat.ofDigitChars_ten_toDigits

lemma head_decimalDigits {n : ℕ} (hn : n ≠ 0) : (decimalDigits n).head? ≠ some '0' := by
  unfold decimalDigits
  induction n using Nat.strongRecOn with
  | ind n ih =>
    by_cases hsmall : n < 10
    · have hall : ∀ k < 10, k ≠ 0 → [Nat.digitChar k].head? ≠ some '0' := by decide
      rw [Nat.toDigits_of_lt_base hsmall]
      exact hall n hsmall hn
    · have hrest := ih (n / 10) (by omega) (by omega)
      rw [Nat.toDigits_of_base_le (by decide) (by omega)]
      rwa [List.head?_append_of_ne_nil _ Nat.toDigits_ne_nil]

/-! ## Numerals -/

/-- The parts of a numeral: digits, maybe digits behind a point, maybe an exponent. -/
structure NumeralParts where
  whole : List Char
  fraction : List Char
  power : Option ℤ

/-- Digits behind a point, unless there are none. -/
def pointText : List Char → List Char
  | [] => []
  | digits => '.' :: digits

lemma pointText_of_ne_nil {digits : List Char} (h : digits ≠ []) :
    pointText digits = '.' :: digits := by
  obtain ⟨c, cs, rfl⟩ := List.exists_cons_of_ne_nil h
  rfl

/-- An exponent behind its mark, if there is one. -/
def powerText : Option ℤ → List Char
  | none => []
  | some e => 'e' :: doubleLayout.exponent e

namespace NumeralParts

def text (n : NumeralParts) : List Char := n.whole ++ (pointText n.fraction ++ powerText n.power)

/-- A numeral begins with digits, without a needless zero in front. -/
structure Proper (n : NumeralParts) : Prop where
  whole : DigitChars n.whole
  ne_nil : n.whole ≠ []
  plain : n.whole.head? = some '0' → n.whole = ['0']
  fraction : DigitChars n.fraction

/-- A point or an exponent tells that a numeral is none of a whole number. -/
def Broken (n : NumeralParts) : Prop := n.fraction ≠ [] ∨ n.power ≠ none

/-- The decimal that a numeral writes. -/
def decimal (n : NumeralParts) (negative : Bool) : Decimal :=
  ⟨negative, digitsValue (n.whole ++ n.fraction), n.power.getD 0 - n.fraction.length⟩

end NumeralParts

/-- The digits of a whole number as a numeral. -/
def wholeParts (n : ℕ) : NumeralParts := ⟨decimalDigits n, [], none⟩

@[simp] lemma text_wholeParts (n : ℕ) : (wholeParts n).text = decimalDigits n :=
  List.append_nil _

lemma proper_wholeParts (n : ℕ) : (wholeParts n).Proper := by
  refine ⟨digitChars_decimalDigits n, Nat.toDigits_ne_nil, fun hzero => ?_, digitChars_zeros 0⟩
  by_cases hn : n = 0
  · subst hn
    rfl
  · exact absurd hzero (head_decimalDigits hn)

lemma endsDigits_nil : EndsDigits [] := by
  intro c hc
  simp at hc

lemma endsDigits_cons {c : Char} (cs : List Char) (h : Text.digit? c = none) :
    EndsDigits (c :: cs) := by
  intro d hd
  simp only [List.head?_cons, Option.mem_def, Option.some.injEq] at hd
  subst hd
  exact h

lemma endsDigits_powerText (power : Option ℤ) : EndsDigits (powerText power) := by
  cases power with
  | none => exact endsDigits_nil
  | some e => exact endsDigits_cons _ (by decide)

lemma endsDigits_pointText (fraction : List Char) (power : Option ℤ) :
    EndsDigits (pointText fraction ++ powerText power) := by
  cases fraction with
  | nil => exact endsDigits_powerText power
  | cons c cs => exact endsDigits_cons _ (by decide)

lemma takeSign_of_isDigit {c : Char} {cs : List Char} (h : c.isDigit = true) :
    takeSign (c :: cs) = (false, c :: cs) := by
  unfold takeSign
  split
  · rename_i heq
    simp only [List.cons.injEq] at heq
    rw [heq.1] at h
    simp at h
  · rename_i heq
    simp only [List.cons.injEq] at heq
    rw [heq.1] at h
    simp at h
  · rfl

lemma exponent_eq (layout : NumeralLayout) (e : ℤ) :
    ∃ cs, layout.exponent e = (if e < 0 then '-' else '+') :: cs ∧ DigitChars cs ∧ cs ≠ [] ∧
      digitsValue cs = e.natAbs := by
  refine ⟨List.replicate (layout.exponentWidth - (decimalDigits e.natAbs).length) '0' ++
    decimalDigits e.natAbs, rfl, ?_, ?_, ?_⟩
  · exact digitChars_append (digitChars_zeros _) (digitChars_decimalDigits _)
  · exact List.append_ne_nil_of_right_ne_nil _ Nat.toDigits_ne_nil
  · rw [digitsValue_append, digitsValue_zeros, digitsValue_decimalDigits, mul_zero, zero_add]

lemma takeSign_written (e : ℤ) (cs : List Char) :
    takeSign ((if e < 0 then '-' else '+') :: cs) = (decide (e < 0), cs) := by
  by_cases hneg : e < 0
  · rw [if_pos hneg, decide_eq_true hneg]
    rfl
  · rw [if_neg hneg, decide_eq_false hneg]
    rfl

lemma signed_natAbs (e : ℤ) :
    (if decide (e < 0) = true then -(e.natAbs : ℤ) else e.natAbs) = e := by
  simp only [decide_eq_true_eq]
  omega

lemma readExponent?_exponent (layout : NumeralLayout) (e : ℤ) :
    readExponent? Text.digit? ('e' :: layout.exponent e) = some e := by
  obtain ⟨cs, hexponent, hdigits, hne, hvalue⟩ := exponent_eq layout e
  have htake : takeDigits Text.digit? cs = (cs.map fun c => c.toNat - 48, []) := by
    have h := takeDigits_append hdigits endsDigits_nil
    rwa [List.append_nil] at h
  obtain ⟨c, cs', rfl⟩ := List.exists_cons_of_ne_nil hne
  have hnat : Text.ofDigits ((c :: cs').map fun c => c.toNat - 48) = e.natAbs := by
    rw [ofDigits_map, hvalue]
  rw [hexponent]
  unfold readExponent?
  simp only [takeSign_written, htake, List.map_cons] at hnat ⊢
  rw [hnat, signed_natAbs]
  simp

@[simp] lemma readExponent?_powerText (power : Option ℤ) :
    readExponent? Text.digit? (powerText power) = some (power.getD 0) := by
  cases power with
  | none => rfl
  | some e => exact readExponent?_exponent doubleLayout e

lemma takeFraction_pointText {fraction : List Char} (h : DigitChars fraction) (power : Option ℤ) :
    takeFraction Text.digit? (pointText fraction ++ powerText power) =
      (fraction.map fun c => c.toNat - 48, powerText power) := by
  cases fraction with
  | nil => cases power <;> rfl
  | cons c cs => exact takeDigits_append h (endsDigits_powerText power)

lemma readNumeral?_parts {n : NumeralParts} (h : n.Proper) (negative : Bool) :
    readNumeral? Text.digit? negative n.text = some (n.decimal negative) := by
  have hends := endsDigits_pointText n.fraction n.power
  unfold readNumeral? NumeralParts.text
  simp only [takeDigits_append h.whole hends, takeFraction_pointText h.fraction,
    readExponent?_powerText]
  rw [← List.map_append, ofDigits_map]
  simp [h.ne_nil, NumeralParts.decimal]

/-! ## The two layouts -/

/-- The number that digits write when the first of them stands for a power of ten. -/
def scaledValue (digits : List Char) (e : ℤ) : ℚ :=
  digitsValue digits * (10 : ℚ) ^ (e + 1 - digits.length)

/-- The digits are written as the parts of a numeral for the number that they stand for. -/
structure Written (digits : List Char) (e : ℤ) (n : NumeralParts) : Prop where
  text : doubleLayout.write digits e = n.text
  proper : n.Proper
  broken : n.Broken
  value : ∀ negative, decimalValue (n.decimal negative) = scaledValue digits e

/-- The first digit is no zero, unless zero itself is written. -/
def Leading (digits : List Char) (e : ℤ) : Prop :=
  digits ≠ [] ∧ (digits.head? = some '0' → digits = ['0'] ∧ e = 0)

lemma written_scientific {digits : List Char} (hdigits : DigitChars digits) (hne : digits ≠ [])
    {e : ℤ} (he : e < -4 ∨ 15 < e) : ∃ n, Written digits e n := by
  have hcond : (decide (e < doubleLayout.least) || decide (doubleLayout.greatest < e)) = true := by
    change (decide (e < -4) || decide (15 < e)) = true
    simpa using he
  obtain ⟨d, ds, rfl⟩ := List.exists_cons_of_ne_nil hne
  have hwhole : DigitChars [d] := fun c hc => hdigits c (by simp_all)
  have hfraction : DigitChars ds := fun c hc => hdigits c (List.mem_cons_of_mem _ hc)
  refine ⟨⟨[d], ds, some e⟩, ?_, ⟨hwhole, by simp, by simp, hfraction⟩, .inr (by simp), ?_⟩
  · unfold NumeralLayout.write
    rw [if_pos hcond]
    cases ds <;> rfl
  · intro negative
    simp only [decimalValue, scaledValue, NumeralParts.decimal, List.singleton_append,
      List.length_cons, Option.getD_some]
    congr 2
    push_cast
    ring

lemma not_scientific {e : ℤ} (hlow : -4 ≤ e) (hhigh : e ≤ 15) :
    ¬(decide (e < doubleLayout.least) || decide (doubleLayout.greatest < e)) = true := by
  change ¬(decide (e < -4) || decide (15 < e)) = true
  simp only [Bool.or_eq_true, decide_eq_true_eq]
  omega

lemma written_below_one {digits : List Char} (hdigits : DigitChars digits) (hne : digits ≠ [])
    {e : ℤ} (hlow : -4 ≤ e) (he : e < 0) : ∃ n, Written digits e n := by
  have hfraction : DigitChars (List.replicate (e.natAbs - 1) '0' ++ digits) :=
    digitChars_append (digitChars_zeros _) hdigits
  have hsome : List.replicate (e.natAbs - 1) '0' ++ digits ≠ [] :=
    List.append_ne_nil_of_right_ne_nil _ hne
  refine ⟨⟨['0'], List.replicate (e.natAbs - 1) '0' ++ digits, none⟩, ?_,
    ⟨digitChars_zeros 1, by simp, by simp, hfraction⟩, .inl hsome, ?_⟩
  · unfold NumeralLayout.write NumeralParts.text
    rw [if_neg (not_scientific hlow (by omega)), if_pos he, pointText_of_ne_nil hsome]
    simp [powerText]
  · intro negative
    simp only [decimalValue, scaledValue, NumeralParts.decimal, List.singleton_append,
      Option.getD_none]
    have hzero : digitsValue ('0' :: (List.replicate (e.natAbs - 1) '0' ++ digits)) =
        digitsValue digits := by
      rw [← List.cons_append, ← List.replicate_succ, digitsValue_append, digitsValue_zeros,
        mul_zero, zero_add]
    rw [hzero, List.length_append, List.length_replicate]
    congr 2
    omega

/-- A whole number is written with zeros behind its digits. -/
lemma written_padded {digits : List Char} (hdigits : DigitChars digits) {e : ℤ}
    (hleading : Leading digits e) (he : 0 ≤ e) (hhigh : e ≤ 15)
    (hsize : digits.length ≤ e.toNat + 1) : ∃ n, Written digits e n := by
  obtain ⟨hne, hzero⟩ := hleading
  have hwhole : DigitChars (digits ++ List.replicate (e.toNat + 1 - digits.length) '0') :=
    digitChars_append hdigits (digitChars_zeros _)
  refine ⟨⟨digits ++ List.replicate (e.toNat + 1 - digits.length) '0', ['0'], none⟩, ?_,
    ⟨hwhole, by simp [hne], fun hhead => ?_, digitChars_zeros 1⟩, .inl (by simp), ?_⟩
  · unfold NumeralLayout.write
    rw [if_neg (not_scientific (by omega) hhigh), if_neg (by omega)]
    dsimp only
    rw [if_pos hsize]
    rfl
  · dsimp only at hhead
    rw [List.head?_append_of_ne_nil _ hne] at hhead
    obtain ⟨rfl, rfl⟩ := hzero hhead
    rfl
  · intro negative
    have hexp : e + 1 - digits.length = ((e.toNat + 1 - digits.length : ℕ) : ℤ) := by omega
    simp only [decimalValue, scaledValue, NumeralParts.decimal, digitsValue_append,
      List.length_replicate, hexp, zpow_natCast, Option.getD_none, digitsValue_zeros]
    have hten : (10 : ℚ) ^ (0 - ((1 : ℕ) : ℤ)) = 10⁻¹ := by norm_num
    have hlast : digitsValue ['0'] = 0 := digitsValue_zeros 1
    simp only [List.length_singleton, hten, hlast]
    push_cast
    field_simp
    ring

/-- Digits beyond those of the whole part are written behind the point. -/
lemma written_pointed {digits : List Char} (hdigits : DigitChars digits) {e : ℤ}
    (hleading : Leading digits e) (he : 0 ≤ e) (hhigh : e ≤ 15)
    (hsize : e.toNat + 1 < digits.length) : ∃ n, Written digits e n := by
  obtain ⟨hne, hzero⟩ := hleading
  have hlength : digits.drop (e.toNat + 1) ≠ [] := by simpa using hsize
  refine ⟨⟨digits.take (e.toNat + 1), digits.drop (e.toNat + 1), none⟩, ?_,
    ⟨fun c hc => hdigits c (List.mem_of_mem_take hc), by simp [hne], fun hhead => ?_,
      fun c hc => hdigits c (List.mem_of_mem_drop hc)⟩, .inl hlength, ?_⟩
  · unfold NumeralLayout.write NumeralParts.text
    rw [if_neg (not_scientific (by omega) hhigh), if_neg (by omega)]
    dsimp only
    rw [if_neg (by omega), pointText_of_ne_nil hlength]
    simp [powerText]
  · dsimp only at hhead
    rw [List.head?_take, if_neg (by omega)] at hhead
    obtain ⟨rfl, -⟩ := hzero hhead
    simp at hsize
  · intro negative
    simp only [decimalValue, scaledValue, NumeralParts.decimal, List.take_append_drop,
      List.length_drop, Option.getD_none]
    congr 2
    omega

/-- Both layouts write the same number. -/
theorem written_write {digits : List Char} (hdigits : DigitChars digits) {e : ℤ}
    (hleading : Leading digits e) : ∃ n, Written digits e n := by
  by_cases hlow : e < -4
  · exact written_scientific hdigits hleading.1 (.inl hlow)
  by_cases hhigh : 15 < e
  · exact written_scientific hdigits hleading.1 (.inr hhigh)
  by_cases he : e < 0
  · exact written_below_one hdigits hleading.1 (by omega) he
  by_cases hsize : digits.length ≤ e.toNat + 1
  · exact written_padded hdigits hleading (by omega) (by omega) hsize
  · exact written_pointed hdigits hleading (by omega) (by omega) (by omega)

/-! ## Finite doubles -/

lemma toDouble_withSign {d : Decimal} {m : Magnitude} (negative : Bool) (hd : d.coefficient ≠ 0)
    (h : d.toDouble = .finite d.negative m) :
    Decimal.toDouble ⟨negative, d.coefficient, d.exponent⟩ = .finite negative m := by
  rw [toDouble_eq_ofRatio d hd, Double.ofRatio] at h
  rw [toDouble_eq_ofRatio ⟨negative, d.coefficient, d.exponent⟩ hd, Double.ofRatio]
  generalize Magnitude.nearest? _ _ = r at h ⊢
  cases r with
  | none => simp [Double.ofMagnitude?] at h
  | some n =>
    simp only [Double.ofMagnitude?, Double.finite.injEq, true_and] at h ⊢
    exact h

lemma coefficient_ne_zero {d : Decimal} {m : Magnitude} (hm : m.mantissa ≠ 0)
    (h : d.toDouble = .finite d.negative m) : d.coefficient ≠ 0 := by
  intro hc
  unfold Decimal.toDouble at h
  rw [if_pos hc] at h
  simp only [Double.finite.injEq, true_and] at h
  exact hm (by rw [← h]; rfl)

lemma exactly_toDouble (m : Magnitude) (hm : m.mantissa ≠ 0) {places : ℕ}
    (hone : unitsPerOne = 2 ^ places) : (m.exactly places).toDouble = .finite false m := by
  have hunits : m.units ≠ 0 := Nat.mul_ne_zero hm (Nat.pow_pos (by decide)).ne'
  have hfive : Nat.pow 5 places ≠ 0 := (Nat.pow_pos (by decide)).ne'
  have hten : m.units * Nat.pow 5 places * unitsPerOne = m.units * 10 ^ places := by
    rw [hone, Nat.pow_eq, mul_assoc, ← mul_pow]
    norm_num
  have hnearest := nearest?_units m (10 ^ places) (by positivity)
  rw [toDouble_eq_ofRatio _ (Nat.mul_ne_zero hunits hfive)]
  apply ofRatio_of_some
  simp only [Magnitude.exactly, Int.toNat_neg_natCast, pow_zero, mul_one, neg_neg,
    Int.toNat_natCast]
  rw [hten, hnearest]

lemma readsBack_of_onGrid? {m : Magnitude} {p : ℤ} {n : ℕ} (h : m.onGrid? p = some n) :
    (Decimal.mk false n p).toDouble = .finite false m := by
  have hback : m.readsBack p n = true := by
    unfold Magnitude.onGrid? at h
    grind
  unfold Magnitude.readsBack at hback
  exact beq_iff_eq.mp hback

lemma shortest_toDouble (m : Magnitude) (hm : m.mantissa ≠ 0) :
    m.shortest.negative = false ∧ m.shortest.toDouble = .finite false m := by
  unfold Magnitude.shortest
  cases hfound : m.found? with
  | none =>
    obtain ⟨e, he, hone⟩ := unitsPerOne_eq_pow
    rw [Option.getD_none, ← he]
    exact ⟨rfl, exactly_toDouble m hm hone⟩
  | some d =>
    obtain ⟨k, -, hk⟩ := List.exists_of_findSome?_eq_some hfound
    obtain ⟨n, hn, rfl⟩ := Option.map_eq_some_iff.mp hk
    exact ⟨rfl, readsBack_of_onGrid? hn⟩

lemma dropTrailingZeros_append (digits : List Char) :
    ∃ k, dropTrailingZeros digits ++ List.replicate k '0' = digits := by
  refine ⟨(digits.reverse.takeWhile (· = '0')).length, ?_⟩
  have hzeros : digits.reverse.takeWhile (· = '0') =
      List.replicate (digits.reverse.takeWhile (· = '0')).length '0' := by
    apply List.eq_replicate_of_mem
    intro c hc
    simpa using List.mem_takeWhile_imp hc
  have hreverse : List.replicate (digits.reverse.takeWhile (· = '0')).length '0' =
      (digits.reverse.takeWhile (· = '0')).reverse := by
    rw [hzeros, List.length_replicate, List.reverse_replicate]
  unfold dropTrailingZeros
  rw [hreverse, ← List.reverse_append, List.takeWhile_append_dropWhile, List.reverse_reverse]

/-- The digits that are written are those of the shortest decimal, less the zeros at their end. -/
lemma scaledValue_shortest (d : Decimal) :
    scaledValue (dropTrailingZeros (decimalDigits d.coefficient))
      (d.exponent + (decimalDigits d.coefficient).length - 1) = decimalValue d := by
  obtain ⟨k, hk⟩ := dropTrailingZeros_append (decimalDigits d.coefficient)
  have hvalue := digitsValue_decimalDigits d.coefficient
  rw [← hk, digitsValue_append, digitsValue_zeros, List.length_replicate, add_zero] at hvalue
  have hlength : ((decimalDigits d.coefficient).length : ℤ) =
      (dropTrailingZeros (decimalDigits d.coefficient)).length + k := by
    rw [← hk, List.length_append, List.length_replicate, hk]
    push_cast
    ring
  generalize dropTrailingZeros (decimalDigits d.coefficient) = digits at *
  have hexp : d.exponent + (decimalDigits d.coefficient).length - 1 + 1 - digits.length =
      d.exponent + k := by
    rw [hlength]
    ring
  unfold scaledValue decimalValue
  rw [hexp, ← hvalue, zpow_add₀ (by norm_num), zpow_natCast]
  push_cast
  ring

lemma dropTrailingZeros_ne_nil {n : ℕ} (hn : n ≠ 0) :
    dropTrailingZeros (decimalDigits n) ≠ [] := by
  intro h
  obtain ⟨k, hk⟩ := dropTrailingZeros_append (decimalDigits n)
  have hvalue := digitsValue_decimalDigits n
  rw [← hk, h, List.nil_append, digitsValue_zeros] at hvalue
  exact hn hvalue.symm

lemma digitChars_dropTrailingZeros {cs : List Char} (h : DigitChars cs) :
    DigitChars (dropTrailingZeros cs) := by
  obtain ⟨k, hk⟩ := dropTrailingZeros_append cs
  intro c hc
  exact h c (hk ▸ List.mem_append_left _ hc)

lemma toDouble_of_zero {d : Decimal} (h : d.coefficient = 0) :
    d.toDouble = .finite d.negative .zero := by
  unfold Decimal.toDouble
  rw [if_pos h]

lemma eq_zero_of_mantissa {m : Magnitude} (hm : m.mantissa = 0) : m = .zero := by
  rcases m with ⟨mantissa, exponent, hlt, hle, hcanonical⟩
  simp only at hm
  subst hm
  have hexp : exponent = 0 := by
    rcases hcanonical with h | h
    · exact absurd h (by decide)
    · exact h
  subst hexp
  rfl

/-- The text of a magnitude is a numeral for a double of that magnitude. -/
structure PartsOf (m : Magnitude) (n : NumeralParts) : Prop where
  text : m.text = n.text
  proper : n.Proper
  broken : n.Broken
  double : ∀ negative, (n.decimal negative).toDouble = .finite negative m

lemma leading_dropTrailingZeros {n : ℕ} (hn : n ≠ 0) (e : ℤ) :
    Leading (dropTrailingZeros (decimalDigits n)) e := by
  have hne := dropTrailingZeros_ne_nil hn
  obtain ⟨k, hk⟩ := dropTrailingZeros_append (decimalDigits n)
  refine ⟨hne, fun hhead => absurd ?_ (head_decimalDigits hn)⟩
  rw [← hk, List.head?_append_of_ne_nil _ hne]
  exact hhead

lemma written_decimal {d : Decimal} {m : Magnitude} (hd : d.coefficient ≠ 0)
    (hdouble : d.toDouble = .finite d.negative m) :
    ∃ n, Written (dropTrailingZeros (decimalDigits d.coefficient))
        (d.exponent + (decimalDigits d.coefficient).length - 1) n ∧
      ∀ negative, (n.decimal negative).toDouble = .finite negative m := by
  obtain ⟨n, hwritten⟩ := written_write
    (digitChars_dropTrailingZeros (digitChars_decimalDigits d.coefficient))
    (leading_dropTrailingZeros hd (d.exponent + (decimalDigits d.coefficient).length - 1))
  refine ⟨n, hwritten, fun negative => ?_⟩
  have hvalue := hwritten.value negative
  have hnegative : negative = (n.decimal negative).negative := rfl
  rw [scaledValue_shortest] at hvalue
  rw [← toDouble_withSign negative hd hdouble]
  exact (toDouble_congr (d := ⟨negative, d.coefficient, d.exponent⟩) hd hnegative hvalue.symm).symm

lemma partsOf_zero : PartsOf .zero ⟨['0'], ['0'], none⟩ := by
  refine ⟨?_, ?_, .inl (by simp), fun negative => toDouble_of_zero (digitsValue_zeros 2)⟩
  · have hzero : Magnitude.zero.mantissa = 0 := rfl
    unfold Magnitude.text
    rw [if_pos hzero]
    decide
  · exact ⟨digitChars_zeros 1, by simp, fun _ => rfl, digitChars_zeros 1⟩

theorem exists_partsOf (m : Magnitude) : ∃ n, PartsOf m n := by
  by_cases hm : m.mantissa = 0
  · obtain rfl := eq_zero_of_mantissa hm
    exact ⟨_, partsOf_zero⟩
  · obtain ⟨hsign, hdouble⟩ := shortest_toDouble m hm
    rw [← hsign] at hdouble
    obtain ⟨n, hwritten, hvalue⟩ := written_decimal (coefficient_ne_zero hm hdouble) hdouble
    refine ⟨n, ?_, hwritten.proper, hwritten.broken, hvalue⟩
    unfold Magnitude.text
    rw [if_neg hm]
    exact hwritten.text

/-! ## Whole texts -/

/-- A character that the text of a finite number may hold. -/
def isNumeralChar (c : Char) : Bool := c.isDigit || c = '-' || c = '+' || c = '.' || c = 'e'

/-- Only characters of numerals. -/
def NumeralChars (cs : List Char) : Prop := ∀ c ∈ cs, isNumeralChar c = true

/-- A text of characters of numerals that begins with a digit. -/
def NumeralText (cs : List Char) : Prop :=
  (∃ c rest, cs = c :: rest ∧ c.isDigit = true) ∧ NumeralChars cs

lemma notMem_numeralChars {cs : List Char} (h : NumeralChars cs) {c : Char}
    (hc : isNumeralChar c = false) : c ∉ cs := by
  intro hmem
  rw [h c hmem] at hc
  exact absurd hc (by decide)

lemma numeralChars_digits {cs : List Char} (h : DigitChars cs) : NumeralChars cs := by
  intro c hc
  simp [isNumeralChar, h c hc]

lemma numeralChars_cons {c : Char} {cs : List Char} (hc : isNumeralChar c = true)
    (hcs : NumeralChars cs) : NumeralChars (c :: cs) := by
  intro d hd
  obtain rfl | hd := List.mem_cons.mp hd
  · exact hc
  · exact hcs d hd

lemma numeralChars_append {as bs : List Char} (ha : NumeralChars as) (hb : NumeralChars bs) :
    NumeralChars (as ++ bs) := by
  intro c hc
  obtain hc | hc := List.mem_append.mp hc
  · exact ha c hc
  · exact hb c hc

lemma numeralText_digits {cs : List Char} (h : DigitChars cs) (hne : cs ≠ []) : NumeralText cs := by
  obtain ⟨c, rest, rfl⟩ := List.exists_cons_of_ne_nil hne
  exact ⟨⟨c, rest, rfl, h c (by simp)⟩, numeralChars_digits h⟩

lemma numeralText_append (cs : List Char) {rest : List Char} (h : NumeralText cs)
    (hrest : NumeralChars rest) : NumeralText (cs ++ rest) := by
  obtain ⟨⟨c, tail, rfl, hc⟩, hcs⟩ := h
  exact ⟨⟨c, tail ++ rest, rfl, hc⟩, numeralChars_append hcs hrest⟩

lemma numeralChars_exponent (layout : NumeralLayout) (e : ℤ) :
    NumeralChars (layout.exponent e) := by
  have hzeros := numeralChars_digits
    (digitChars_zeros (layout.exponentWidth - (decimalDigits e.natAbs).length))
  have hdigits := numeralChars_digits (digitChars_decimalDigits e.natAbs)
  unfold NumeralLayout.exponent
  refine numeralChars_append (numeralChars_cons ?_ hzeros) hdigits
  split <;> decide

lemma numeralText_parts {n : NumeralParts} (h : n.Proper) : NumeralText n.text := by
  have hpoint : NumeralChars (pointText n.fraction) := by
    by_cases hne : n.fraction = []
    · rw [hne]
      exact numeralChars_digits (by simp [pointText, DigitChars])
    · rw [pointText_of_ne_nil hne]
      exact numeralChars_cons (by decide) (numeralChars_digits h.fraction)
  have hpower : NumeralChars (powerText n.power) := by
    cases n.power with
    | none => exact numeralChars_digits (by simp [powerText, DigitChars])
    | some e => exact numeralChars_cons (by decide) (numeralChars_exponent doubleLayout e)
  exact numeralText_append _ (numeralText_digits h.whole h.ne_nil)
    (numeralChars_append hpoint hpower)

lemma numeralText_text (m : Magnitude) : NumeralText m.text := by
  obtain ⟨n, hparts⟩ := exists_partsOf m
  rw [hparts.text]
  exact numeralText_parts hparts.proper

lemma toLower_of_isDigit {c : Char} (h : c.isDigit = true) : c.toLower = c := by
  obtain ⟨hlow, hhigh⟩ := isDigit_bounds h
  unfold Char.toLower
  split
  · rename_i hupper
    have hge : 65 ≤ c.toNat := UInt32.le_iff_toNat_le.mp hupper.1
    omega
  · rfl

lemma readSpecial?_digit (negative : Bool) {c : Char} (cs : List Char) (h : c.isDigit = true) :
    readSpecial? negative (c :: cs) = none := by
  have hword : ∀ first rest, first.isDigit = false →
      String.ofList ((c :: cs).map Char.toLower) ≠ String.ofList (first :: rest) := by
    intro first rest hfirst heq
    have hlists := String.ofList_injective heq
    rw [List.map_cons, toLower_of_isDigit h] at hlists
    simp only [List.cons.injEq] at hlists
    rw [hlists.1] at h
    rw [h] at hfirst
    exact absurd hfirst (by decide)
  unfold readSpecial?
  rw [if_neg, if_neg]
  · exact hword 'n' ['a', 'n'] rfl
  · simp only [Bool.or_eq_true, decide_eq_true_eq, not_or]
    exact ⟨hword 'i' ['n', 'f'] rfl, hword 'i' ['n', 'f', 'i', 'n', 'i', 't', 'y'] rfl⟩

/-- The text of a number: maybe a minus, then a numeral. -/
def signed (negative : Bool) (cs : List Char) : List Char := (if negative then ['-'] else []) ++ cs

lemma numeralChars_signed (negative : Bool) {cs : List Char} (h : NumeralChars cs) :
    NumeralChars (signed negative cs) := by
  cases negative
  · exact h
  · exact numeralChars_cons (by decide) h

lemma readDouble?_signed (negative : Bool) {n : NumeralParts} (h : n.Proper) :
    readDouble? Text.digit? (signed negative n.text) = some (n.decimal negative).toDouble := by
  have hread := readNumeral?_parts h negative
  obtain ⟨⟨c, rest, htext, hc⟩, -⟩ := numeralText_parts h
  rw [htext] at hread ⊢
  have hsign : takeSign (signed negative (c :: rest)) = (negative, c :: rest) := by
    cases negative
    · exact takeSign_of_isDigit hc
    · rfl
  unfold readDouble?
  simp only [hsign, readSpecial?_digit negative rest hc, hread, Option.map_some]

/-- The text of a finite double reads as that double. -/
theorem readDouble?_text (negative : Bool) (m : Magnitude) :
    readDouble? Text.digit? (Double.finite negative m).text = some (.finite negative m) := by
  obtain ⟨n, hparts⟩ := exists_partsOf m
  have hread := readDouble?_signed negative hparts.proper
  rw [hparts.double, ← hparts.text] at hread
  exact hread

lemma intText_eq_signed (n : ℤ) :
    intText n = signed (decide (n < 0)) (decimalDigits n.natAbs) := by
  simp [intText, signed]

lemma dash_notMem_decimalDigits (n : ℕ) : '-' ∉ decimalDigits n := fun hmem =>
  absurd (digitChars_decimalDigits n '-' hmem) (by decide)

lemma decimalDigits_injective {m n : ℕ} (h : decimalDigits m = decimalDigits n) : m = n := by
  rw [← digitsValue_decimalDigits m, h, digitsValue_decimalDigits]

lemma dash_mem_intText {n : ℤ} : '-' ∈ intText n ↔ n < 0 := by
  simp [intText, dash_notMem_decimalDigits]

lemma intText_injective {m n : ℤ} (h : intText m = intText n) : m = n := by
  have hsign : m < 0 ↔ n < 0 := by rw [← dash_mem_intText, h, dash_mem_intText]
  unfold intText at h
  simp only [hsign] at h
  have hdigits := decimalDigits_injective (List.append_cancel_left h)
  omega

lemma readDouble?_intText (n : ℤ) :
    readDouble? Text.digit? (intText n) =
      some (Decimal.toDouble ⟨decide (n < 0), n.natAbs, 0⟩) := by
  have hread := readDouble?_signed (decide (n < 0)) (proper_wholeParts n.natAbs)
  have hdecimal : (wholeParts n.natAbs).decimal (decide (n < 0)) =
      ⟨decide (n < 0), n.natAbs, 0⟩ := by
    simp [NumeralParts.decimal, wholeParts]
  rwa [hdecimal, text_wholeParts, ← intText_eq_signed] at hread

end Gamebook.Proofs
