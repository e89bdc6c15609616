import Gamebook.Dice
import Gamebook.Proofs.NumberCell
import Mathlib.Data.Nat.Digits.Defs

/-!
# The texts of dice

A formula is a count of dice, a `d`, a number of sides and maybe a signed modifier. Numerals are
runs of decimal digits of any script.
-/

namespace Gamebook.Proofs

/-! ## The grammar -/

/-- A run of digits, with the number that it writes. -/
def DigitRun (cs : List Char) (n : ℕ) : Prop :=
  cs ≠ [] ∧ ∃ ds : List ℕ, cs.map Text.digit? = ds.map some ∧ Nat.ofDigits 10 ds.reverse = n

/-- A modifier behind dice; nothing stands for zero. -/
inductive WritesModifier : List Char → ℤ → Prop
  | absent : WritesModifier [] 0
  | plus {cs : List Char} {n : ℕ} (h : DigitRun cs n) : WritesModifier ('+' :: cs) n
  | minus {cs : List Char} {n : ℕ} (h : DigitRun cs n) : WritesModifier ('-' :: cs) (-n)

inductive WritesDice : List Char → Dice.Formula → Prop
  | formula {count sides modifier : List Char} {n s : ℕ} {m : ℤ} {d : Char}
      (hcount : DigitRun count n) (hd : d = 'd' ∨ d = 'D') (hsides : DigitRun sides s)
      (hmodifier : WritesModifier modifier m) :
      WritesDice (count ++ d :: (sides ++ modifier)) ⟨n, s, m⟩

/-- The text spells a finite double; a whole one is a whole number. -/
def WritesNumber (cs : List Char) (v : Number) : Prop :=
  '_' ∉ cs ∧ ∃ x, readDouble? Text.digit? cs = some x ∧ x.isFinite = true ∧
    settledNumber (.double x) = v

/-! ## Formulas as they are written -/

/-- A run of digits, with their values. -/
def SpellsDigits (cs : List Char) (ds : List ℕ) : Prop :=
  cs ≠ [] ∧ cs.map Text.digit? = ds.map some

/-- A modifier behind dice, with its sign and its digits. -/
inductive SpellsModifier : List Char → Bool → List ℕ → Prop
  | absent : SpellsModifier [] false []
  | plus {cs : List Char} {ds : List ℕ} (h : SpellsDigits cs ds) :
      SpellsModifier ('+' :: cs) false ds
  | minus {cs : List Char} {ds : List ℕ} (h : SpellsDigits cs ds) :
      SpellsModifier ('-' :: cs) true ds

inductive SpellsDice : List Char → Dice.Writing → Prop
  | formula {count sides modifier : List Char} {n s m : List ℕ} {negative : Bool} {d : Char}
      (hcount : SpellsDigits count n) (hd : d = 'd' ∨ d = 'D') (hsides : SpellsDigits sides s)
      (hmodifier : SpellsModifier modifier negative m) :
      SpellsDice (count ++ d :: (sides ++ modifier)) ⟨n, s, negative, m⟩

section

variable {cs rest : List Char} {ds : List ℕ}

lemma ofDigits_eq (ds : List ℕ) : Text.ofDigits ds = Nat.ofDigits 10 ds.reverse := by
  rw [Text.ofDigits, Text.gatherDigits_eq_foldr, Nat.ofDigits_eq_foldr]
  rfl

lemma digitRun_iff {n : ℕ} : DigitRun cs n ↔ ∃ ds, SpellsDigits cs ds ∧ Text.ofDigits ds = n := by
  simp only [ofDigits_eq, SpellsDigits, and_assoc]
  exact exists_and_left.symm

lemma writesModifier_iff {m : ℤ} : WritesModifier cs m ↔
    ∃ negative ds, SpellsModifier cs negative ds ∧
      (if negative then -(Text.ofDigits ds : ℤ) else Text.ofDigits ds) = m := by
  constructor
  · intro h
    cases h with
    | absent => exact ⟨false, [], .absent, rfl⟩
    | plus h =>
      obtain ⟨ds, hds, rfl⟩ := digitRun_iff.mp h
      exact ⟨false, ds, .plus hds, rfl⟩
    | minus h =>
      obtain ⟨ds, hds, rfl⟩ := digitRun_iff.mp h
      exact ⟨true, ds, .minus hds, rfl⟩
  · rintro ⟨negative, ds, hds, rfl⟩
    cases hds with
    | absent => exact .absent
    | plus h => exact .plus (digitRun_iff.mpr ⟨ds, h, rfl⟩)
    | minus h => exact .minus (digitRun_iff.mpr ⟨ds, h, rfl⟩)

lemma writesDice_iff {f : Dice.Formula} :
    WritesDice cs f ↔ ∃ w, SpellsDice cs w ∧ w.formula = f := by
  constructor
  · rintro ⟨hcount, hd, hsides, hmodifier⟩
    obtain ⟨n, hn, rfl⟩ := digitRun_iff.mp hcount
    obtain ⟨s, hs, rfl⟩ := digitRun_iff.mp hsides
    obtain ⟨negative, m, hm, rfl⟩ := writesModifier_iff.mp hmodifier
    exact ⟨_, .formula hn hd hs hm, rfl⟩
  · rintro ⟨_, ⟨hcount, hd, hsides, hmodifier⟩, rfl⟩
    exact .formula (digitRun_iff.mpr ⟨_, hcount, rfl⟩) hd (digitRun_iff.mpr ⟨_, hsides, rfl⟩)
      (writesModifier_iff.mpr ⟨_, _, hmodifier, rfl⟩)

/-! ## Reading formulas -/

lemma takeDigits_spelled (h : SpellsDigits cs ds) (hrest : EndsDigits rest) :
    takeDigits Text.digit? (cs ++ rest) = (ds, rest) :=
  takeDigits_iff.mpr ⟨cs, rfl, h.2, hrest⟩

lemma takeDigits_whole (h : SpellsDigits cs ds) : takeDigits Text.digit? cs = (ds, []) := by
  have htake := takeDigits_spelled h endsDigits_nil
  rwa [List.append_nil] at htake

lemma ne_nil_of_spelled (h : SpellsDigits cs ds) : ds ≠ [] := by
  rintro rfl
  exact h.1 (List.map_eq_nil_iff.mp h.2)

lemma spelled_of_takeDigits (h : takeDigits Text.digit? cs = (ds, rest)) (hne : ds ≠ []) :
    ∃ front, cs = front ++ rest ∧ SpellsDigits front ds := by
  obtain ⟨front, rfl, hfront, -⟩ := takeDigits_iff.mp h
  refine ⟨front, rfl, ?_, hfront⟩
  rintro rfl
  exact hne (List.map_eq_nil_iff.mp hfront.symm)

lemma endsDigits_of_head {c : Char} (h : Text.digit? c = none) (rest : List Char) :
    EndsDigits (c :: rest) := by
  intro c' hc'
  rw [List.head?_cons, Option.mem_some_iff] at hc'
  exact hc' ▸ h

lemma modifierOf?_iff {negative : Bool} :
    Dice.Writing.modifierOf? cs = some (negative, ds) ↔ SpellsModifier cs negative ds := by
  constructor
  · intro h
    cases cs with
    | nil =>
      obtain ⟨rfl, rfl⟩ := Prod.mk.inj (Option.some.inj h)
      exact .absent
    | cons c cs =>
      rw [Dice.Writing.modifierOf?] at h
      generalize htake : takeDigits Text.digit? cs = taken at h
      obtain ⟨_ | ⟨d, ds⟩, _ | ⟨c', rest⟩⟩ := taken
      · cases h
      · cases h
      · obtain ⟨front, rfl, hspelled⟩ := spelled_of_takeDigits htake (List.cons_ne_nil _ _)
        rw [List.append_nil] at htake ⊢
        dsimp only at h
        split at h
        · rename_i hplus
          obtain ⟨rfl, rfl⟩ := Prod.mk.inj (Option.some.inj h)
          exact hplus ▸ .plus hspelled
        · split at h
          · rename_i hminus
            obtain ⟨rfl, rfl⟩ := Prod.mk.inj (Option.some.inj h)
            exact hminus ▸ .minus hspelled
          · cases h
      · cases h
  · intro h
    cases h with
    | absent => rfl
    | plus h =>
      obtain ⟨d, ds', rfl⟩ := List.exists_cons_of_ne_nil (ne_nil_of_spelled h)
      simp [Dice.Writing.modifierOf?, takeDigits_whole h]
    | minus h =>
      obtain ⟨d, ds', rfl⟩ := List.exists_cons_of_ne_nil (ne_nil_of_spelled h)
      simp [Dice.Writing.modifierOf?, takeDigits_whole h]

lemma endsDigits_modifier {negative : Bool} (h : SpellsModifier cs negative ds) :
    EndsDigits cs := by
  cases h with
  | absent => exact endsDigits_nil
  | plus => exact endsDigits_of_head (by decide) _
  | minus => exact endsDigits_of_head (by decide) _

lemma digit?_of_d {d : Char} (h : d = 'd' ∨ d = 'D') : Text.digit? d = none := by
  rcases h with rfl | rfl <;> decide

lemma writing_ofChars?_iff {w : Dice.Writing} :
    Dice.Writing.ofChars? cs = some w ↔ SpellsDice cs w := by
  constructor
  · intro h
    unfold Dice.Writing.ofChars? at h
    generalize hcount : takeDigits Text.digit? cs = taken at h
    obtain ⟨_ | ⟨n, ns⟩, _ | ⟨d, rest⟩⟩ := taken
    · cases h
    · cases h
    · cases h
    obtain ⟨count, rfl, hn⟩ := spelled_of_takeDigits hcount (List.cons_ne_nil _ _)
    dsimp only at h
    split at h
    · rename_i hd
      generalize hsides : takeDigits Text.digit? rest = taken at h
      obtain ⟨_ | ⟨s, ss⟩, modifier⟩ := taken
      · cases h
      obtain ⟨sides, rfl, hs⟩ := spelled_of_takeDigits hsides (List.cons_ne_nil _ _)
      obtain ⟨⟨negative, m⟩, hm, rfl⟩ := Option.map_eq_some_iff.mp h
      exact .formula hn (by simpa using hd) hs (modifierOf?_iff.mp hm)
    · cases h
  · rintro @⟨count, sides, modifier, n, s, m, negative, d, hcount, hd, hsides, hmodifier⟩
    have hn := takeDigits_spelled hcount (endsDigits_of_head (digit?_of_d hd) (sides ++ modifier))
    have hs := takeDigits_spelled hsides (endsDigits_modifier hmodifier)
    obtain ⟨n', ns, rfl⟩ := List.exists_cons_of_ne_nil (ne_nil_of_spelled hcount)
    obtain ⟨s', ss, rfl⟩ := List.exists_cons_of_ne_nil (ne_nil_of_spelled hsides)
    simp [Dice.Writing.ofChars?, hn, hs, hd, modifierOf?_iff.mpr hmodifier]

lemma ofChars?_iff {f : Dice.Formula} : Dice.Formula.ofChars? cs = some f ↔ WritesDice cs f := by
  unfold Dice.Formula.ofChars?
  rw [Option.map_eq_some_iff, writesDice_iff]
  exact exists_congr fun w => and_congr_left fun _ => writing_ofChars?_iff

end

/-! ## White space in formulas -/

section

variable {cs : List Char}

lemma isBlank_of_digit {c : Char} (h : (Text.digit? c).isSome = true) :
    Text.isBlank c = false := by
  have hruns : ∀ z ∈ Text.digitZeros, ∀ k < 10, Text.isBlank (Char.ofNat (z + k)) = false := by
    decide +kernel
  rw [Text.digit?, Option.isSome_map] at h
  obtain ⟨z, hz⟩ := Option.isSome_iff_exists.mp h
  have hrange : z ≤ c.toNat ∧ c.toNat < z + 10 := by simpa using List.find?_some hz
  have hc : z + (c.toNat - z) = c.toNat := by omega
  have hblank := hruns z (List.mem_of_find?_eq_some hz) (c.toNat - z) (by omega)
  rwa [hc, Char.ofNat_toNat] at hblank

lemma notBlank_run {n : ℕ} (h : DigitRun cs n) : ∀ c ∈ cs, Text.isBlank c = false := by
  obtain ⟨-, ds, hds, -⟩ := h
  exact fun c hc => isBlank_of_digit (isSome_of_map_digits hds hc)

lemma notBlank_modifier {m : ℤ} (h : WritesModifier cs m) : ∀ c ∈ cs, Text.isBlank c = false := by
  cases h with
  | absent => exact List.forall_mem_nil _
  | plus h => exact List.forall_mem_cons.mpr ⟨by decide, notBlank_run h⟩
  | minus h => exact List.forall_mem_cons.mpr ⟨by decide, notBlank_run h⟩

lemma notBlank_dice {f : Dice.Formula} (h : WritesDice cs f) :
    ∀ c ∈ cs, Text.isBlank c = false := by
  obtain ⟨hcount, hd, hsides, hmodifier⟩ := h
  refine List.forall_mem_append.mpr ⟨notBlank_run hcount, List.forall_mem_cons.mpr ⟨?_, ?_⟩⟩
  · rcases hd with rfl | rfl <;> decide
  · exact List.forall_mem_append.mpr ⟨notBlank_run hsides, notBlank_modifier hmodifier⟩

/-! ## Plain numbers -/

lemma ofDouble?_iff {x : Double} {v : Number} :
    Number.ofDouble? x = some v ↔ x.isFinite = true ∧ settledNumber (.double x) = v := by
  unfold Number.ofDouble?
  rw [Option.ite_none_right_eq_some, Option.some.injEq]
  rfl

lemma flat?_iff {v : Number} : Dice.flat? cs = some v ↔ WritesNumber cs v := by
  have hnil : Number.ofText? [] = none := by decide
  have hflat : Dice.flat? cs = Number.ofText? cs := by
    cases cs with
    | nil => exact hnil.symm
    | cons => rfl
  rw [hflat, Number.ofText?, Option.ite_none_left_eq_some, Option.bind_eq_some_iff]
  simp only [ofDouble?_iff, List.contains_eq_mem, decide_eq_true_eq]
  rfl

end

end Gamebook.Proofs
