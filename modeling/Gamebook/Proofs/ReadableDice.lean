import Gamebook.Check.Verdict
import Gamebook.Proofs.DiceText

/-!
# Dice that can be read

A number with too many digits stops whoever reads it. The check of a story asks about the dice of
its skill checks and the damage of its enemies, so it comes to a verdict exactly if none of these
has too long a number where the check reads one. The verdict is then the one that would be reached
if every number could be read.
-/

namespace Gamebook.Proofs

/-! ## Texts -/

/-- Dice with a number that the check reads and that has too many digits: the count, or the sides
behind a count above zero. -/
inductive OversizedDice : List Char → Prop
  | formula {count sides modifier : List Char} {n s : ℕ} {m : ℤ} {d : Char}
      (hcount : DigitRun count n) (hd : d = 'd' ∨ d = 'D') (hsides : DigitRun sides s)
      (hmodifier : WritesModifier modifier m)
      (hlong : 4300 < count.length ∨ 0 < n ∧ 4300 < sides.length) :
      OversizedDice (count ++ d :: (sides ++ modifier))

/-- The check reads too long a number. -/
def LongWriting (w : Dice.Writing) : Prop :=
  4300 < w.count.length ∨ 0 < Text.ofDigits w.count ∧ 4300 < w.sides.length

section

variable {cs : List Char} {s : Scalar}

lemma length_spelled {ds : List ℕ} (h : SpellsDigits cs ds) : ds.length = cs.length := by
  have hlength := congrArg List.length h.2
  rw [List.length_map, List.length_map] at hlength
  exact hlength.symm

lemma oversizedDice_iff : OversizedDice cs ↔ ∃ w, SpellsDice cs w ∧ LongWriting w := by
  constructor
  · rintro ⟨hcount, hd, hsides, hmodifier, hlong⟩
    obtain ⟨n, hn, rfl⟩ := digitRun_iff.mp hcount
    obtain ⟨s, hs, rfl⟩ := digitRun_iff.mp hsides
    obtain ⟨negative, m, hm, rfl⟩ := writesModifier_iff.mp hmodifier
    refine ⟨_, .formula hn hd hs hm, ?_⟩
    unfold LongWriting
    rwa [length_spelled hn, length_spelled hs]
  · rintro ⟨_, ⟨hcount, hd, hsides, hmodifier⟩, hlong⟩
    unfold LongWriting at hlong
    rw [length_spelled hcount, length_spelled hsides] at hlong
    exact .formula (digitRun_iff.mpr ⟨_, hcount, rfl⟩) hd (digitRun_iff.mpr ⟨_, hsides, rfl⟩)
      (writesModifier_iff.mpr ⟨_, _, hmodifier, rfl⟩) hlong

lemma readDigits_short {ds : List ℕ} (h : ¬4300 < ds.length) :
    Text.readDigits ds = .ok (Text.ofDigits ds) := if_pos (Nat.not_lt.mp h)

lemma readDigits_long {ds : List ℕ} (h : 4300 < ds.length) : Text.readDigits ds = .error ⟨⟩ :=
  if_neg (Nat.not_le.mpr h)

lemma readProper_short {w : Dice.Writing} (h : ¬LongWriting w) :
    w.readProper = .ok w.formula.isProper := by
  obtain ⟨hcount, hsides⟩ := not_or.mp h
  unfold Dice.Writing.readProper Dice.Formula.isProper
  rw [readDigits_short hcount]
  change (if 0 < Text.ofDigits w.count then _ else _) = _
  by_cases hpos : 0 < Text.ofDigits w.count
  · rw [if_pos hpos, readDigits_short fun hlong => hsides ⟨hpos, hlong⟩]
    simp only [Dice.Writing.formula, hpos, decide_true, Bool.true_and]
    rfl
  · rw [if_neg hpos]
    simp only [Dice.Writing.formula, hpos, decide_false, Bool.false_and]
    rfl

lemma readProper_long {w : Dice.Writing} (h : LongWriting w) : w.readProper = .error ⟨⟩ := by
  unfold Dice.Writing.readProper
  by_cases hcount : 4300 < w.count.length
  · rw [readDigits_long hcount]
    rfl
  · obtain ⟨hpos, hsides⟩ := h.resolve_left hcount
    rw [readDigits_short hcount]
    change (if 0 < Text.ofDigits w.count then _ else _) = _
    rw [if_pos hpos, readDigits_long hsides]
    rfl

lemma askFormula_short (h : ¬OversizedDice (Dice.line s)) :
    Dice.askFormula s = .ok (Dice.isFormula s) := by
  unfold Dice.askFormula Dice.isFormula Dice.Formula.ofChars?
  cases hw : Dice.Writing.ofChars? (Dice.line s) with
  | none => rfl
  | some w =>
    exact readProper_short fun hlong =>
      h (oversizedDice_iff.mpr ⟨w, writing_ofChars?_iff.mp hw, hlong⟩)

lemma askExpression_short (h : ¬OversizedDice (Dice.line s)) :
    Dice.askExpression s = .ok (Dice.isExpression s) := by
  unfold Dice.askExpression Dice.isExpression
  rw [askFormula_short h]
  change (if Dice.isFormula s = true then _ else _) = _
  cases Dice.isFormula s <;> rfl

lemma askExpression_oversized (h : OversizedDice (Dice.line s)) :
    Dice.askExpression s = .error ⟨⟩ := by
  obtain ⟨w, hw, hlong⟩ := oversizedDice_iff.mp h
  unfold Dice.askExpression Dice.askFormula
  rw [writing_ofChars?_iff.mpr hw]
  dsimp only
  rw [readProper_long hlong]
  rfl

lemma isReadable_iff : Dice.isReadable s = true ↔ ¬OversizedDice (Dice.line s) := by
  unfold Dice.isReadable
  by_cases h : OversizedDice (Dice.line s)
  · rw [askExpression_oversized h]
    exact iff_of_false Bool.false_ne_true (not_not.mpr h)
  · rw [askExpression_short h]
    exact iff_of_true rfl h

@[simp] lemma source_text (t : String) : Dice.source t = t.toList := by
  by_cases ht : t = ""
  · subst ht
    rfl
  · exact if_pos (decide_eq_true ht)

@[simp] lemma line_text (t : String) : Dice.line t = Text.dropFinalLineFeed t.toList := by
  rw [Dice.line, source_text]

end

/-! ## Stories -/

/-- The dice of skill checks and the damage of enemies. -/
inductive DiceOf (s : Story) : String → Prop
  | check {n : Node} {c : Choice} {check : SkillCheck} (hn : n ∈ s.nodes.toList)
      (hc : c ∈ n.choiceList) (h : c.mechanic = .skillCheck check) : DiceOf s check.dice.text
  | damage {e : Enemy} (he : e ∈ s.enemies.toList) : DiceOf s e.damage.text

/-- No dice of the story have too long a number where the check reads one. One line feed at the end
of a text does no harm. -/
def ReadableDice (s : Story) : Prop :=
  ∀ t, DiceOf s t → ¬OversizedDice (Text.dropFinalLineFeed t.toList)

section

variable {s : Story}

lemma mem_diceTexts {t : String} : t ∈ s.diceTexts ↔ DiceOf s t := by
  unfold Story.diceTexts
  simp only [List.mem_append, List.mem_flatMap, List.mem_filterMap, List.mem_map]
  constructor
  · rintro (⟨n, hn, c, hc, h⟩ | ⟨e, he, rfl⟩)
    · cases hmechanic : c.mechanic with
      | skillCheck check =>
        rw [hmechanic] at h
        exact Option.some.inj h ▸ .check hn hc hmechanic
      | navigate nodeId => rw [hmechanic] at h; cases h
      | combat encounterId => rw [hmechanic] at h; cases h
    · exact .damage he
  · intro h
    cases h with
    | check hn hc h => exact .inl ⟨_, hn, _, hc, by rw [h]; rfl⟩
    | damage he => exact .inr ⟨_, he, rfl⟩

lemma story_isReadable_iff : s.isReadable = true ↔ ReadableDice s := by
  unfold Story.isReadable ReadableDice
  rw [List.all_eq_true]
  simp only [mem_diceTexts, isReadable_iff, line_text]

lemma forM_askExpression (texts : List String) :
    (texts.forM fun t => discard (Dice.askExpression t)) =
      if texts.all fun t => Dice.isReadable t then .ok () else .error ⟨⟩ := by
  induction texts with
  | nil => rfl
  | cons t texts ih =>
    change (discard (Dice.askExpression t) >>= fun _ => texts.forM _) = _
    rw [ih, List.all_cons]
    by_cases h : OversizedDice (Dice.line t)
    · rw [askExpression_oversized h,
        Bool.eq_false_iff.mpr fun hread => isReadable_iff.mp hread h]
      rfl
    · rw [askExpression_short h, isReadable_iff.mpr h, Bool.true_and]
      rfl

lemma checkEntities_eq (s : Story) :
    s.checkEntities = if s.isReadable then .ok s.entityVerdict else .error ⟨⟩ := by
  unfold Story.checkEntities
  rw [forM_askExpression]
  unfold Story.isReadable
  split <;> rfl

lemma check_eq (s : Story) (starts allowed : List String) :
    s.check starts allowed =
      if s.isReadable then .ok (s.verdict starts allowed) else .error ⟨⟩ := by
  unfold Story.check
  rw [checkEntities_eq]
  split <;> rfl

lemma checkEntities_ok_iff {v : Verdict} :
    s.checkEntities = .ok v ↔ ReadableDice s ∧ s.entityVerdict = v := by
  rw [checkEntities_eq, ← story_isReadable_iff]
  cases s.isReadable <;> simp

lemma checkEntities_error_iff : s.checkEntities = .error ⟨⟩ ↔ ¬ReadableDice s := by
  rw [checkEntities_eq, ← story_isReadable_iff]
  cases s.isReadable <;> simp

end

/-! ## Dice that cannot be read -/

/-- A count that is too long to be read. -/
def longCount : List Char := List.replicate 4301 '1'

def longDice : Filled where
  text := String.ofList (longCount ++ ['d', '6'])
  filled := by
    intro hempty
    rw [← String.toList_inj, String.toList_ofList] at hempty
    cases (List.append_eq_nil_iff.mp hempty).2

/-- An enemy whose damage cannot be read. -/
def giant : Enemy := ⟨⟨"giant", by decide⟩, "Giant", 1, 10, 0, longDice, 1⟩

/-- A story of this enemy alone. -/
def giantStory : Story := ⟨.empty, .empty, ⟨[giant], List.nodup_singleton _⟩, .empty⟩

lemma length_longCount : longCount.length = 4301 := List.length_replicate

lemma digitRun_longCount : ∃ n, DigitRun longCount n := by
  have hone : Text.digit? '1' = some 1 := by decide
  have hne : longCount ≠ [] := List.ne_nil_of_length_eq_add_one length_longCount
  refine ⟨_, hne, List.replicate 4301 1, ?_, rfl⟩
  rw [longCount, List.map_replicate, List.map_replicate, hone]

lemma oversized_longDice : OversizedDice (Text.dropFinalLineFeed longDice.text.toList) := by
  obtain ⟨n, hcount⟩ := digitRun_longCount
  have hlist : longDice.text.toList = longCount ++ ['d', '6'] := String.toList_ofList
  have hlast : ¬(longCount ++ ['d', '6']).getLast? = some '\n' := by
    rw [List.getLast?_append]
    decide
  have hlong : 4300 < longCount.length := by
    rw [length_longCount]
    decide
  have hsides : DigitRun ['6'] 6 := ⟨List.cons_ne_nil _ _, [6], rfl, rfl⟩
  have hdice : OversizedDice (longCount ++ 'd' :: (['6'] ++ [])) :=
    .formula hcount (.inl rfl) hsides .absent (.inl hlong)
  rw [hlist, Text.dropFinalLineFeed, if_neg hlast]
  exact hdice

lemma not_readableDice_giant {s : Story} (h : giant ∈ s.enemies.toList) : ¬ReadableDice s :=
  fun hread => hread giant.damage.text (.damage h) oversized_longDice

end Gamebook.Proofs
