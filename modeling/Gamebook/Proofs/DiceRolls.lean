import Gamebook.Proofs.GraphWarnings
import Gamebook.Proofs.RowRoundTrip

/-!
# Rolling dice

A plain number is the result by itself. Proper dice are drawn one after the other, each from as many
sides as the formula says, and everything else rolls to nothing, with a warning. What passes the
check rolls as it is written. A number with too many digits stops a roll, as it stops the check.
-/

namespace Gamebook.Proofs

/-! ## What a text asks to roll -/

/-- The text is a plain number, but for white space around it. -/
def AsksNumber (t : String) (v : Number) : Prop := WritesNumber (Text.trim t).toList v

def AsksFormula (t : String) (f : Dice.Formula) : Prop :=
  WritesDice (t.toList.filter fun c => !Text.isBlank c) f

def AsksDice (t : String) (f : Dice.Formula) : Prop := AsksFormula t f ∧ 0 < f.count ∧ 0 < f.sides

def Rollable (t : String) : Prop := (∃ v, AsksNumber t v) ∨ ∃ f, AsksDice t f

/-- Dice drawn in turn, with the state of chance before and after. -/
inductive Draws {σ : Type} (draw : ℕ → StateM σ ℕ) (sides : ℕ) : σ → List ℕ → σ → Prop
  | none (st : σ) : Draws draw sides st [] st
  | next {st st' st'' : σ} {die : ℕ} {dice : List ℕ} (h : (draw sides).run st = (die, st'))
      (hrest : Draws draw sides st' dice st'') : Draws draw sides st (die :: dice) st''

/-- What is rolled for a text. -/
structure RollsAsWritten {σ : Type} (draw : ℕ → StateM σ ℕ) (t : String) : Prop where
  number : ∀ v, AsksNumber t v → Dice.roll draw t = pure ⟨[], v, v, none⟩
  dice : (∀ v, ¬AsksNumber t v) → ∀ f, AsksDice t f → ∀ st, ∃ rolls st',
    Draws draw f.sides st rolls st' ∧ rolls.length = f.count ∧
      (Dice.roll draw t).run st =
        (⟨rolls, .int f.modifier, .int (rolls.sum + f.modifier), none⟩, st') ∧
      f.count + f.modifier ≤ rolls.sum + f.modifier ∧
      rolls.sum + f.modifier ≤ f.count * f.sides + f.modifier
  nothing : ¬Rollable t → ∃ fault, Dice.roll draw t = pure ⟨[], 0, 0, some fault⟩ ∧
    (fault = .improper ↔ ∃ f, AsksFormula t f)

/-! ## Throws -/

section

variable {t : String}

lemma filter_dropWhile_blank (cs : List Char) :
    (cs.dropWhile Text.isBlank).filter (fun c => !Text.isBlank c) =
      cs.filter fun c => !Text.isBlank c := by
  induction cs with
  | nil => rfl
  | cons c cs ih =>
    cases hc : Text.isBlank c with
    | false => rw [List.dropWhile_cons_of_neg (by simp [hc])]
    | true => rw [List.dropWhile_cons_of_pos hc, ih, List.filter_cons_of_neg (by simp [hc])]

lemma filter_trimBy (cs : List Char) :
    (Text.trimBy Text.isBlank cs).filter (fun c => !Text.isBlank c) =
      cs.filter fun c => !Text.isBlank c := by
  unfold Text.trimBy
  rw [List.filter_reverse, filter_dropWhile_blank, List.filter_reverse, List.reverse_reverse,
    filter_dropWhile_blank]

lemma trimBy_source (t : String) :
    Text.trimBy Text.isBlank (Dice.source t) = (Text.trim t).toList := by
  rw [source_text, Text.trim, String.toList_ofList]

lemma filter_trim (t : String) : (Text.trim t).toList.filter (fun c => !Text.isBlank c) =
    t.toList.filter fun c => !Text.isBlank c := by
  rw [Text.trim, String.toList_ofList, filter_trimBy]

lemma isProper_iff {f : Dice.Formula} : f.isProper = true ↔ 0 < f.count ∧ 0 < f.sides := by
  unfold Dice.Formula.isProper
  rw [Bool.and_eq_true, decide_eq_true_iff, decide_eq_true_iff]

lemma asked_number {v : Number} (h : AsksNumber t v) : Dice.asked t = .inl v := by
  simp only [Dice.asked, trimBy_source, flat?_iff.mpr h]

lemma flat?_eq_none (h : ∀ v, ¬AsksNumber t v) : Dice.flat? (Text.trim t).toList = none :=
  Option.eq_none_iff_forall_ne_some.mpr fun v hv => h v (flat?_iff.mp hv)

lemma asked_writing (h : ∀ v, ¬AsksNumber t v) : Dice.asked t =
    .inr (Dice.Writing.ofChars? (t.toList.filter fun c => !Text.isBlank c)) := by
  simp only [Dice.asked, trimBy_source, flat?_eq_none h, filter_trim]

lemma throwOf_number {v : Number} (h : AsksNumber t v) : Dice.throwOf t = .flat v := by
  rw [Dice.throwOf, asked_number h]

lemma throwOf_formula (h : ∀ v, ¬AsksNumber t v) {f : Dice.Formula} (hf : AsksFormula t f) :
    Dice.throwOf t = if f.isProper then .dice f else .fault .improper := by
  obtain ⟨w, hw, rfl⟩ := writesDice_iff.mp hf
  rw [Dice.throwOf, asked_writing h, writing_ofChars?_iff.mpr hw]
  rfl

lemma throwOf_malformed (h : ∀ v, ¬AsksNumber t v) (hf : ¬∃ f, AsksFormula t f) :
    Dice.throwOf t = .fault .malformed := by
  have hnone : Dice.Writing.ofChars? (t.toList.filter fun c => !Text.isBlank c) = none := by
    refine Option.eq_none_iff_forall_ne_some.mpr fun w hread => hf ⟨w.formula, ?_⟩
    exact writesDice_iff.mpr ⟨w, writing_ofChars?_iff.mp hread, rfl⟩
  rw [Dice.throwOf, asked_writing h, hnone]

lemma throwOf_dice (h : ∀ v, ¬AsksNumber t v) {f : Dice.Formula} (hf : AsksDice t f) :
    Dice.throwOf t = .dice f :=
  (throwOf_formula h hf.1).trans (if_pos (isProper_iff.mpr hf.2))

lemma throwOf_fault (h : ¬Rollable t) : ∃ fault, Dice.throwOf t = .fault fault ∧
    (fault = .improper ↔ ∃ f, AsksFormula t f) := by
  have hnumber : ∀ v, ¬AsksNumber t v := fun v hv => h (.inl ⟨v, hv⟩)
  by_cases hformula : ∃ f, AsksFormula t f
  · obtain ⟨f, hf⟩ := hformula
    have himproper : ¬f.isProper = true := fun hf' => h (.inr ⟨f, hf, isProper_iff.mp hf'⟩)
    exact ⟨.improper, (throwOf_formula hnumber hf).trans (if_neg himproper),
      iff_of_true rfl ⟨f, hf⟩⟩
  · exact ⟨.malformed, throwOf_malformed hnumber hformula, iff_of_false nofun hformula⟩

end

/-! ## Draws -/

section

variable {σ : Type} {draw : ℕ → StateM σ ℕ} {sides : ℕ} {st st' : σ} {dice : List ℕ}

lemma draws_replicate (draw : ℕ → StateM σ ℕ) (sides count : ℕ) (st : σ) :
    ∃ dice st', ((List.replicate count ()).mapM fun _ => draw sides).run st = (dice, st') ∧
      Draws draw sides st dice st' ∧ dice.length = count := by
  induction count generalizing st with
  | zero => exact ⟨[], st, rfl, .none st, rfl⟩
  | succ count ih =>
    obtain ⟨dice, st', hrun, hdraws, hlength⟩ := ih ((draw sides).run st).2
    refine ⟨((draw sides).run st).1 :: dice, st', ?_, .next rfl hdraws, ?_⟩
    · rw [List.replicate_succ, List.mapM_cons, StateT.run_bind]
      change (StateT.run _ ((draw sides).run st).2) = _
      rw [StateT.run_bind, hrun]
      rfl
    · rw [List.length_cons, hlength]

lemma sum_bounds (hdraw : ∀ st, 1 ≤ ((draw sides).run st).1 ∧ ((draw sides).run st).1 ≤ sides)
    (h : Draws draw sides st dice st') :
    dice.length ≤ dice.sum ∧ dice.sum ≤ dice.length * sides := by
  induction h with
  | none => simp
  | @next st st' st'' die dice hdie _ ih =>
    have hone := hdraw st
    rw [hdie] at hone
    rw [List.length_cons, List.sum_cons, Nat.succ_mul]
    omega

lemma rollsAsWritten (hdraw : ∀ sides, 0 < sides → ∀ st,
    1 ≤ ((draw sides).run st).1 ∧ ((draw sides).run st).1 ≤ sides) (t : String) :
    RollsAsWritten draw t := by
  constructor
  · intro v hv
    unfold Dice.roll
    rw [throwOf_number hv]
    rfl
  · intro hnumber f hf st
    obtain ⟨rolls, st', hrun, hdraws, hlength⟩ := draws_replicate draw f.sides f.count st
    have hbounds := sum_bounds (hdraw f.sides hf.2.2) hdraws
    rw [hlength] at hbounds
    refine ⟨rolls, st', hdraws, hlength, ?_, by omega, by omega⟩
    unfold Dice.roll
    rw [throwOf_dice hnumber hf]
    change StateT.run (_ >>= _) st = _
    rw [StateT.run_bind, hrun]
    rfl
  · intro hnot
    obtain ⟨fault, hfault, hwhy⟩ := throwOf_fault hnot
    refine ⟨fault, ?_, hwhy⟩
    unfold Dice.roll
    rw [hfault]
    rfl

lemma fault_of_rollable {t : String} (hroll : RollsAsWritten draw t) (h : Rollable t) (st : σ) :
    ((Dice.roll draw t).run st).1.fault = none := by
  by_cases hnumber : ∃ v, AsksNumber t v
  · obtain ⟨v, hv⟩ := hnumber
    rw [hroll.number v hv]
    rfl
  · obtain ⟨f, hf⟩ := h.resolve_left hnumber
    obtain ⟨rolls, st', -, -, hrun, -⟩ := hroll.dice (not_exists.mp hnumber) f hf st
    rw [hrun]

end

/-! ## Numbers that are too long -/

/-- A number is read to roll for the text, and it has too many digits. -/
def OversizedRoll (t : String) : Prop :=
  (∀ v, ¬AsksNumber t v) ∧ ∃ w, SpellsDice (t.toList.filter fun c => !Text.isBlank c) w ∧
    (4300 < w.count.length ∨ 4300 < w.sides.length ∨ 4300 < w.modifier.length)

section

variable {σ : Type} {draw : ℕ → StateM σ ℕ} {t : String}

lemma read_short {w : Dice.Writing} (hcount : ¬4300 < w.count.length)
    (hsides : ¬4300 < w.sides.length) (hmodifier : ¬4300 < w.modifier.length) :
    w.read = .ok w.formula := by
  unfold Dice.Writing.read
  rw [readDigits_short hcount, readDigits_short hsides, readDigits_short hmodifier]
  rfl

lemma read_long {w : Dice.Writing} (h : 4300 < w.count.length ∨ 4300 < w.sides.length ∨
    4300 < w.modifier.length) : w.read = .error ⟨⟩ := by
  unfold Dice.Writing.read
  by_cases hcount : 4300 < w.count.length
  · rw [readDigits_long hcount]
    rfl
  rw [readDigits_short hcount]
  by_cases hsides : 4300 < w.sides.length
  · rw [readDigits_long hsides]
    rfl
  rw [readDigits_short hsides, readDigits_long ((h.resolve_left hcount).resolve_left hsides)]
  rfl

/-- Too long a number stops the roll. -/
theorem tryRoll_oversized (h : OversizedRoll t) : Dice.tryRoll draw t = throw ⟨⟩ := by
  obtain ⟨hnumber, w, hw, hlong⟩ := h
  unfold Dice.tryRoll Dice.readThrow
  rw [asked_writing hnumber, writing_ofChars?_iff.mpr hw]
  dsimp only
  rw [read_long hlong]
  rfl

/-- Nothing else stops it, and what is not stopped rolls as if every number could be read. -/
theorem tryRoll_eq (h : ¬OversizedRoll t) :
    Dice.tryRoll draw t = ExceptT.lift (Dice.roll draw t) := by
  have hread : Dice.readThrow t = .ok (Dice.throwOf t) := by
    unfold Dice.readThrow Dice.throwOf
    by_cases hnumber : ∃ v, AsksNumber t v
    · obtain ⟨v, hv⟩ := hnumber
      rw [asked_number hv]
      rfl
    · have hnone := not_exists.mp hnumber
      rw [asked_writing hnone]
      cases hw : Dice.Writing.ofChars? (t.toList.filter fun c => !Text.isBlank c) with
      | none => rfl
      | some w =>
        have hshort : ¬(4300 < w.count.length ∨ 4300 < w.sides.length ∨
            4300 < w.modifier.length) := fun hlong =>
          h ⟨hnone, w, writing_ofChars?_iff.mp hw, hlong⟩
        obtain ⟨hcount, hrest⟩ := not_or.mp hshort
        obtain ⟨hsides, hmodifier⟩ := not_or.mp hrest
        dsimp only
        rw [read_short hcount hsides hmodifier]
        rfl
  unfold Dice.tryRoll Dice.roll
  rw [hread]
  rfl

end

/-! ## What passes the check -/

section

variable {t : String}

lemma filter_of_notBlank {cs : List Char} (h : ∀ c ∈ cs, Text.isBlank c = false) :
    cs.filter (fun c => !Text.isBlank c) = cs :=
  List.filter_eq_self.mpr fun c hc => by rw [h c hc, Bool.not_false]

lemma asksFormula_of_line {f : Dice.Formula}
    (h : WritesDice (Text.dropFinalLineFeed t.toList) f) : AsksFormula t f := by
  -- the check passes over a final line feed, and rolling drops it with the white space
  have hfilter : t.toList.filter (fun c => !Text.isBlank c) =
      (Text.dropFinalLineFeed t.toList).filter fun c => !Text.isBlank c := by
    unfold Text.dropFinalLineFeed
    split
    · rename_i hlast
      obtain ⟨front, hfront⟩ := List.getLast?_eq_some_iff.mp hlast
      rw [hfront, List.filter_append, List.dropLast_concat]
      have hfeed : Text.isBlank '\n' = true := by decide
      simp [hfeed]
    · rfl
  unfold AsksFormula
  rw [hfilter, filter_of_notBlank (notBlank_dice h)]
  exact h

lemma isPlainNumber_iff : Dice.isPlainNumber t = true ↔ ∃ v, AsksNumber t v := by
  unfold Dice.isPlainNumber
  rw [trimBy_source, Option.isSome_iff_exists]
  exact exists_congr fun v => flat?_iff

lemma isFormula_iff : Dice.isFormula t = true ↔
    ∃ f, WritesDice (Text.dropFinalLineFeed t.toList) f ∧ 0 < f.count ∧ 0 < f.sides := by
  unfold Dice.isFormula
  rw [line_text]
  simp only [← ofChars?_iff, ← isProper_iff]
  cases Dice.Formula.ofChars? (Text.dropFinalLineFeed t.toList) with
  | none => simp
  | some f => simp

lemma rollable_of_isExpression (h : Dice.isExpression t = true) : Rollable t := by
  rcases Bool.or_eq_true_iff.mp h with h | h
  · obtain ⟨f, hf, hproper⟩ := isFormula_iff.mp h
    exact .inr ⟨f, asksFormula_of_line hf, hproper⟩
  · exact .inl (isPlainNumber_iff.mp h)

lemma isExpression_of_rollable (hblank : ∀ c ∈ t.toList, Text.isBlank c = false)
    (h : Rollable t) : Dice.isExpression t = true := by
  rw [Dice.isExpression, Bool.or_eq_true_iff]
  rcases h with h | ⟨f, hf, hproper⟩
  · exact .inr (isPlainNumber_iff.mpr h)
  · refine .inl (isFormula_iff.mpr ⟨f, ?_, hproper⟩)
    have hfeed : ¬t.toList.getLast? = some '\n' := by
      intro hlast
      have hnot := hblank _ (List.mem_of_getLast? hlast)
      exact absurd hnot (by decide)
    rw [Text.dropFinalLineFeed, if_neg hfeed, ← filter_of_notBlank hblank]
    exact hf

/-! ## Checked stories -/

lemma warned_of_violation {s : Story} (site : Site) {r : Report} (h : Violation s site r)
    (hr : r.severity = .warning) (starts allowed : List String) :
    ∃ d ∈ (s.verdict starts allowed).warnings, d.code = r.code := by
  obtain ⟨issue, hissue, rfl⟩ := exists_issue_of_violation h
  have hwarning : issue.diagnostic.severity = .warning := hr
  refine ⟨issue.diagnostic, ?_, rfl⟩
  rw [verdict_warnings]
  refine List.mem_append_left _ (List.mem_filter.mpr ⟨List.mem_map_of_mem hissue, ?_⟩)
  rw [hwarning]
  decide

lemma rollable_of_checked {s : Story} {starts allowed : List String}
    (hcode : ∀ d ∈ (s.verdict starts allowed).warnings, d.code ≠ "DATA010")
    (h : DiceOf s t) : Rollable t := by
  apply rollable_of_isExpression
  by_contra hnot
  rw [Bool.not_eq_true] at hnot
  cases h with
  | @check n c check hn hc hcheck =>
    obtain ⟨i, hi⟩ := List.mem_iff_getElem?.mp hn
    obtain ⟨j, hj⟩ := List.mem_iff_getElem?.mp hc
    obtain ⟨d, hd, hdcode⟩ := warned_of_violation (.mechanic i j .dice)
      ⟨n, hi, c, hj, check, hcheck, hnot, rfl⟩ rfl starts allowed
    exact hcode d hd hdcode
  | @damage e he =>
    obtain ⟨i, hi⟩ := List.mem_iff_getElem?.mp he
    obtain ⟨d, hd, hdcode⟩ := warned_of_violation (.enemy i .damage)
      ⟨e, hi, hnot, rfl⟩ rfl starts allowed
    exact hcode d hd hdcode

end

/-- If every die shows at least one and at most its sides, every text rolls as it is written. What
passes the check is a plain number or writes proper dice, and without white space nothing else does.
So the dice and the damage in a story are never rolled to nothing if no warning says so. -/
theorem rolls_as_checked {σ : Type} (draw : ℕ → StateM σ ℕ) (hdraw : ∀ sides, 0 < sides → ∀ st,
    1 ≤ ((draw sides).run st).1 ∧ ((draw sides).run st).1 ≤ sides) :
    (∀ t, RollsAsWritten draw t) ∧
    (∀ t : String, Dice.isExpression t = true → Rollable t) ∧
    (∀ t : String, (∀ c ∈ t.toList, Text.isBlank c = false) → Rollable t →
      Dice.isExpression t = true) ∧
    ∀ (s : Story) (starts allowed : List String),
      (∀ d ∈ (s.verdict starts allowed).errors ++ (s.verdict starts allowed).warnings,
        d.code ≠ "DATA010") →
      ∀ t, DiceOf s t → Rollable t ∧ ∀ st, ((Dice.roll draw t).run st).1.fault = none := by
  refine ⟨rollsAsWritten hdraw, fun t => rollable_of_isExpression,
    fun t => isExpression_of_rollable, fun s starts allowed hcode t ht => ?_⟩
  have hrollable := rollable_of_checked (fun d hd => hcode d (List.mem_append_right _ hd)) ht
  exact ⟨hrollable, fault_of_rollable (rollsAsWritten hdraw t) hrollable⟩

lemma scripted_bounds (script : List ℤ) (sides : ℕ) (hsides : 0 < sides) (i : ℕ) :
    1 ≤ ((Dice.scripted script sides).run i).1 ∧
      ((Dice.scripted script sides).run i).1 ≤ sides := by
  have hdie : ((Dice.scripted script sides).run i).1 =
    (script.getD (i % max script.length 1) 0 % sides).toNat + 1 := rfl
  have hlt := Int.emod_lt_of_pos (script.getD (i % max script.length 1) 0)
    (Int.natCast_pos.mpr hsides)
  omega

theorem rolls_as_checked_cellar :
    (∀ sides, 0 < sides → ∀ st, 1 ≤ ((Dice.scripted [1, 4] sides).run st).1 ∧
      ((Dice.scripted [1, 4] sides).run st).1 ≤ sides) ∧
    RollsAsWritten (Dice.scripted [1, 4]) "2d6+3" ∧ Rollable "2d6+3" ∧
    Dice.isExpression "2d6+3" = true ∧
    (∀ d ∈ (cellarStory.verdict [] []).errors ++ (cellarStory.verdict [] []).warnings,
      d.code ≠ "DATA010") ∧
    ∀ t, DiceOf cellarStory t → ∀ st,
      ((Dice.roll (Dice.scripted [1, 4]) t).run st).1.fault = none := by
  have hdraw := scripted_bounds [1, 4]
  have hcheck : Dice.isExpression "2d6+3" = true := by decide +kernel
  have hblank : ∀ c ∈ "2d6+3".toList, Text.isBlank c = false := by
    simp only [← Bool.not_eq_true', ← List.all_eq_true]
    decide
  have hcode : ∀ d ∈ (cellarStory.verdict [] []).errors ++ (cellarStory.verdict [] []).warnings,
      d.code ≠ "DATA010" := by decide +kernel
  obtain ⟨hrolls, hrollable, hconverse, hstory⟩ := rolls_as_checked (Dice.scripted [1, 4]) hdraw
  exact ⟨hdraw, hrolls "2d6+3", hrollable _ hcheck,
    hconverse "2d6+3" hblank (hrollable _ hcheck), hcode,
    fun t ht => (hstory cellarStory [] [] hcode t ht).2⟩

end Gamebook.Proofs
