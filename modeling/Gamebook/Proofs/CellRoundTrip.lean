import Gamebook.Proofs.CompiledStory
import Gamebook.Proofs.SameStories

/-!
# Cells of tokens in both directions

A list of actions, requirements or spawns that is written into a cell comes back from it exactly
when its numbers are exact and trimming leaves its arguments alone. An argument has no white space
at its ends, but it may begin or end with an information separator, and trimming takes that away.
-/

namespace Gamebook.Proofs

/-! ## Arguments -/

/-- The characters U+001C to U+001F. -/
def InformationSeparator (c : Char) : Prop := 0x1C ≤ c.toNat ∧ c.toNat ≤ 0x1F

lemma isBlank_eq_false_iff {c : Char} (h : Text.isWhite c = false) :
    Text.isBlank c = false ↔ ¬InformationSeparator c := by
  unfold Text.isBlank InformationSeparator
  rw [h, Bool.false_or, Bool.and_eq_false_iff, decide_eq_false_iff_not, decide_eq_false_iff_not,
    not_and_or]

lemma ends_of_arg {s : String} (h : isArgText s = true) :
    (∀ c ∈ s.toList.head?, Text.isWhite c = false) ∧
      ∀ c ∈ s.toList.getLast?, Text.isWhite c = false := by
  unfold isArgText at h
  dsimp only at h
  split at h
  · rename_i first last hfirst hlast
    simp only [Bool.and_eq_true, Bool.not_eq_true'] at h
    rw [hfirst, hlast]
    simpa using h.1
  · exact absurd h (by decide)

/-- Trimming leaves an argument alone unless an information separator stands at one of its ends. -/
lemma trimmed_arg_iff (a : Arg) : Trimmed a.text ↔
    (∀ c ∈ a.text.toList.head?, ¬InformationSeparator c) ∧
      ∀ c ∈ a.text.toList.getLast?, ¬InformationSeparator c := by
  obtain ⟨hhead, hlast⟩ := ends_of_arg a.valid
  rw [trimmed_iff, trimmedChars_iff]
  refine and_congr ?_ ?_
  · exact forall₂_congr fun c hc => isBlank_eq_false_iff (hhead c hc)
  · exact forall₂_congr fun c hc => isBlank_eq_false_iff (hlast c hc)

/-! ## Cells -/

/-- What was read from the cell of a list is the list, with the same values, and nothing in the
place of the empty list. No warning was given. -/
def ComesBack {α : Type} (same : α → α → Bool) (read : Noted (Option (List α))) (l : List α) :
    Prop :=
  read.warnings = [] ∧ sameOption (sameList same) read.value (nonempty? l) = true

instance {α : Type} (same : α → α → Bool) (read : Noted (Option (List α))) (l : List α)
    [Decidable (read.warnings = [])] : Decidable (ComesBack same read l) :=
  inferInstanceAs (Decidable (_ ∧ _))

/-- What can be held is read from its token with the same values, and only that is ever read. -/
structure TokenCodec {α : Type} (read : Token → Except TokenFault α) (token : α → String)
    (same : α → α → Bool) (settled : α → α) (P : α → Prop) : Prop where
  segment : ∀ x, P x → Segment (token x)
  reads : ∀ x, P x → read (.ofText (token x)) = .ok (settled x)
  keeps : ∀ x, P x → same (settled x) x = true
  ofRead : ∀ s x, read (.ofText s) = .ok x → P x
  ofSame : ∀ x y, same x y = true → P x → P y

lemma nonempty?_map {α β : Type} (f : α → β) (l : List α) :
    nonempty? (l.map f) = (nonempty? l).map (List.map f) := by
  cases l <;> rfl

@[simp] lemma getD_nonempty? {α : Type} (l : List α) : (nonempty? l).getD [] = l := by
  cases l <;> rfl

lemma comesBack_iff {α : Type} {kind : TokenKind} {read : Token → Except TokenFault α}
    {token : α → String} {same : α → α → Bool} {settled : α → α} {P : α → Prop}
    (h : TokenCodec read token same settled P) {l : List α} {n : Noted (List α)}
    (hn : n = noteSegments kind read (Scalar.text (joinCell (l.map token))).segments) :
    ComesBack same ⟨nonempty? n.value, n.warnings⟩ l ↔ ∀ x ∈ l, P x := by
  constructor
  · rintro ⟨-, hsame⟩
    have hvalue : n.value = readable read (joinCell (l.map token)) := hn ▸ value_noteSegments ..
    have hread : ∀ x ∈ (nonempty? n.value).getD [], P x := by
      rw [getD_nonempty?, hvalue]
      intro x hx
      obtain ⟨s, hs⟩ := mem_readable hx
      exact h.ofRead s x hs
    rw [← getD_nonempty? l]
    exact forall_of_sameLists h.ofSame hsame hread
  · intro hl
    have hread : n = ⟨l.map settled, []⟩ := hn.trans
      (noteSegments_joinCell kind (fun x hx => h.segment x (hl x hx))
        fun x hx => h.reads x (hl x hx))
    rw [hread]
    refine ⟨rfl, ?_⟩
    dsimp only
    rw [nonempty?_map]
    refine sameOption_map fun m hm => sameList_map fun x hx => ?_
    obtain ⟨rfl, -⟩ := nonempty?_eq_some hm
    exact h.keeps x (hl x hx)

lemma codec_action : TokenCodec Action.ofToken Action.token Action.same settledAction
    RepresentableAction where
  segment _ := segment_action
  reads _ := action_ofToken
  keeps _ := settledAction_same
  ofRead _ _ h := (settled_of_ofToken h).1
  ofSame := representableAction_of_same

lemma codec_requirement : TokenCodec Requirement.ofToken Requirement.token Requirement.same
    settledRequirement RepresentableRequirement where
  segment _ := segment_requirement
  reads _ := requirement_ofToken
  keeps _ := settledRequirement_same
  ofRead _ _ h := (settled_of_requirement h).1
  ofSame := representableRequirement_of_same

/-! ## Spawns and mechanics -/

lemma representable_of_spawnToken {s : String} {spawn : Spawn}
    (h : Spawn.ofToken? (.ofText s) = some spawn) : RepresentableSpawn spawn := by
  obtain ⟨enemyId, henemy, hspawn⟩ := Option.map_eq_some_iff.mp h
  have htext : enemyId.text = (Token.ofText s).name := by
    unfold Arg.ofText? at henemy
    obtain ⟨_, henemy⟩ := Option.dite_none_right_eq_some.mp henemy
    rw [← Option.some.inj henemy]
  have hname : Trimmed enemyId.text := by
    rw [htext]
    exact (tokenPart_name s).1
  have hone : SettledNumber 1 := settled_int_small (.inr (.inl rfl))
  have hcount := settled_numberOr ((Token.ofText s).argument 0) hone
  generalize (Scalar.text ((Token.ofText s).argument 0)).numberOr 1 = n at hspawn hcount
  rw [← hspawn]
  exact ⟨hname, hcount.1⟩

lemma spawns_comeBack_iff (l : List Spawn) :
    sameList Spawn.same (Spawn.parseCell (.text (Spawn.cell l))) l = true ↔
      ∀ spawn ∈ l, RepresentableSpawn spawn := by
  constructor
  · intro hsame
    refine forall_of_sameList representableSpawn_of_same hsame fun spawn hspawn => ?_
    obtain ⟨s, -, hs⟩ := List.mem_filterMap.mp hspawn
    exact representable_of_spawnToken hs
  · intro hl
    rw [spawn_parseCell hl]
    exact sameList_map fun spawn hspawn => settledSpawn_same (hl spawn hspawn)

/-- A mechanic without optional texts and numbers comes back as it was. -/
lemma mechanic_comesBack_iff {m : Mechanic} (hm : settledMechanic (normalMechanic m) = m) :
    Mechanic.parse (.text m.token) = ⟨some m, []⟩ ↔ RepresentableMechanic m := by
  constructor
  · intro h
    have hread : (Mechanic.ofToken (.ofText m.token)).toOption = some m := by
      rw [← value_noteFault .mechanic (.text m.token)]
      exact congrArg Noted.value h
    exact (settled_of_mechanic (ok_of_toOption hread)).1
  · intro h
    rw [mechanic_parse h, hm]

/-- Actions, requirements, spawns and the mechanics of one argument come back from their cells
exactly when they are representable: their numbers are exact, and no argument begins or ends with
an information separator. -/
theorem cells_comeBack_iff (actions : List Action) (requirements : List Requirement)
    (spawns : List Spawn) (target : Arg) :
    (ComesBack Action.same (Action.parseCell (.text (Action.cell actions))) actions ↔
      ∀ a ∈ actions, RepresentableAction a) ∧
    (ComesBack Requirement.same (Requirement.parseCell (.text (Requirement.cell requirements)))
      requirements ↔ ∀ r ∈ requirements, RepresentableRequirement r) ∧
    (sameList Spawn.same (Spawn.parseCell (.text (Spawn.cell spawns))) spawns = true ↔
      ∀ spawn ∈ spawns, RepresentableSpawn spawn) ∧
    (Mechanic.parse (.text (Mechanic.navigate target).token) = ⟨some (.navigate target), []⟩ ↔
      Trimmed target.text) ∧
    (Mechanic.parse (.text (Mechanic.combat target).token) = ⟨some (.combat target), []⟩ ↔
      Trimmed target.text) ∧
    (Trimmed target.text ↔ (∀ c ∈ target.text.toList.head?, ¬InformationSeparator c) ∧
      ∀ c ∈ target.text.toList.getLast?, ¬InformationSeparator c) :=
  ⟨comesBack_iff codec_action rfl, comesBack_iff codec_requirement rfl, spawns_comeBack_iff spawns,
    mechanic_comesBack_iff rfl, mechanic_comesBack_iff rfl, trimmed_arg_iff target⟩

/-- A flag whose key ends with an information separator. -/
def separatorFlag : Action := .setFlag ⟨"lit\x1f", by decide⟩ true

/-- The flag is written with the separator and read without it. -/
theorem separatorFlag_lost :
    Action.parseCell (.text (Action.cell [separatorFlag])) =
      ⟨some [.setFlag ⟨"lit", by decide⟩ true], []⟩ ∧
    ¬ComesBack Action.same (Action.parseCell (.text (Action.cell [separatorFlag])))
      [separatorFlag] := by
  have hread : Action.parseCell (.text (Action.cell [separatorFlag])) =
      ⟨some [.setFlag ⟨"lit", by decide⟩ true], []⟩ := by rfl
  rw [hread]
  exact ⟨rfl, fun h => absurd h.2 (by decide)⟩

end Gamebook.Proofs
