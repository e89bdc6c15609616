import Gamebook.Cell.Action
import Gamebook.Cell.Mechanic
import Gamebook.Cell.Requirement
import Gamebook.Cell.Spawn
import Gamebook.Proofs.TokenText
import Mathlib.Tactic.MkIffOfInductiveProp

/-!
# Tokens in both directions

An action, a requirement, a mechanic and a spawn whose texts and numbers a cell can hold are
read from their token with the same texts and with numbers of the same value. Tokens give
nothing else: what is read from a token can be held again, with settled numbers.
-/

namespace Gamebook.Proofs

instance (s : String) : Decidable (Trimmed s) := inferInstanceAs (Decidable (Text.trim s = s))

instance (s : String) : Decidable (TokenPart s) :=
  inferInstanceAs (Decidable (Trimmed s ∧ ':' ∉ s.toList))

/-- A part of a token that may stand between the bars of a cell. -/
def CellPart (s : String) : Prop := TokenPart s ∧ '|' ∉ s.toList

instance (s : String) : Decidable (CellPart s) :=
  inferInstanceAs (Decidable (TokenPart s ∧ '|' ∉ s.toList))

/-! ## Shared facts -/

lemma ofText_intercalate {name : String} {arguments : List String}
    (h : ∀ p ∈ name :: arguments, TokenPart p) :
    Token.ofText (":".intercalate (name :: arguments)) = ⟨name, arguments⟩ := by
  unfold Token.ofText
  rw [colonParts_intercalate (by simp) h]

lemma intercalate_cons (a b : String) (rest : List String) :
    ":".intercalate (a :: b :: rest) = a ++ ":" ++ ":".intercalate (b :: rest) := by
  rw [String.intercalate_cons_cons]

lemma intercalate_two (a b : String) : ":".intercalate [a, b] = a ++ ":" ++ b := by
  rw [intercalate_cons, String.intercalate_singleton]

lemma intercalate_three (a b c : String) :
    ":".intercalate [a, b, c] = a ++ ":" ++ b ++ ":" ++ c := by
  rw [intercalate_cons, intercalate_two, ← String.append_assoc, ← String.append_assoc]

lemma token_two {start name : String} (h : start = name ++ ":") (a : String) :
    start ++ a = ":".intercalate [name, a] := by
  rw [intercalate_two, h]

lemma token_three {start name : String} (h : start = name ++ ":") (a b : String) :
    start ++ a ++ ":" ++ b = ":".intercalate [name, a, b] := by
  rw [intercalate_three, h]

lemma bar_notMem_intercalate {parts : List String} (h : ∀ p ∈ parts, '|' ∉ p.toList) :
    '|' ∉ (":".intercalate parts).toList := by
  induction parts with
  | nil => simp
  | cons p rest ih =>
    have hp := h p List.mem_cons_self
    have hrest := ih fun q hq => h q (List.mem_cons_of_mem p hq)
    cases rest with
    | nil => simpa using hp
    | cons q rest =>
      rw [String.intercalate_cons_cons, String.toList_append, String.toList_append]
      rw [List.mem_append, List.mem_append]
      rintro ((h | h) | h)
      · exact hp h
      · exact absurd h (by decide)
      · exact hrest h

lemma segment_intercalate {name : String} {arguments : List String} (hname : name ≠ "")
    (h : ∀ p ∈ name :: arguments, CellPart p) : Segment (":".intercalate (name :: arguments)) := by
  refine ⟨?_, ?_, ?_⟩
  · exact trimmed_intercalate fun p hp => (h p hp).1.1
  · intro hempty
    have hparts := colonParts_intercalate (by simp) fun p hp => (h p hp).1
    have hnone : Text.colonParts "" = [""] := by decide
    rw [hempty, hnone] at hparts
    simp only [List.cons.injEq] at hparts
    exact hname hparts.1.symm
  · exact bar_notMem_intercalate fun p hp => (h p hp).2

lemma cellPart_arg {a : Arg} (h : Trimmed a.text) : CellPart a.text :=
  ⟨tokenPart_arg h, (arg_chars a.valid).2.2⟩

lemma cellPart_number {n : Number} (h : ExactNumber n) : CellPart (String.ofList n.cell) :=
  ⟨tokenPart_number h, bar_notMem_number h⟩

lemma arg_ne_empty (a : Arg) : a.text ≠ "" := (arg_chars a.valid).1

@[simp] lemma field_text (name : String) (a : Arg) : Token.field name a.text = .ok a := by
  unfold Token.field
  rw [ofText?_text]

lemma text_of_field {name s : String} {a : Arg} (h : Token.field name s = .ok a) : a.text = s := by
  unfold Token.field Arg.ofText? at h
  by_cases hs : isArgText s = true
  · rw [dif_pos hs] at h
    simp only [Except.ok.injEq] at h
    rw [← h]
  · rw [dif_neg hs] at h
    simp at h

lemma map_eq_ok {ε α β : Type} {f : α → β} {x : Except ε α} {b : β} (h : x.map f = .ok b) :
    ∃ a, x = .ok a ∧ f a = b := by
  cases x with
  | error e => simp [Except.map] at h
  | ok a => exact ⟨a, rfl, by simpa [Except.map] using h⟩

lemma noteSegments_joinCell {α β : Type} (kind : TokenKind) {read : Token → Except TokenFault α}
    {l : List β} {token : β → String} {f : β → α} (hseg : ∀ x ∈ l, Segment (token x))
    (hread : ∀ x ∈ l, read (.ofText (token x)) = .ok (f x)) :
    noteSegments kind read (Scalar.text (joinCell (l.map token))).segments = ⟨l.map f, []⟩ := by
  have hsegs : ∀ t ∈ l.map token, Segment t := by
    intro t ht
    obtain ⟨x, hx, rfl⟩ := List.mem_map.mp ht
    exact hseg x hx
  have hnotes : (l.map token).map (fun s => noteFault kind (.text s) (read (.ofText s))) =
      l.map fun x => (⟨some (f x), []⟩ : Noted (Option α)) := by
    rw [List.map_map]
    apply List.map_congr_left
    intro x hx
    rw [Function.comp_apply, hread x hx]
    rfl
  rw [segments_text, barSegments_joinCell hsegs]
  unfold noteSegments
  rw [hnotes]
  simp [List.filterMap_map, List.flatMap_map]

lemma nonempty?_eq_some {α : Type} {l m : List α} (h : nonempty? l = some m) : m = l ∧ m ≠ [] := by
  unfold nonempty? at h
  rw [Option.ite_none_left_eq_some, Option.some.injEq] at h
  obtain ⟨hne, rfl⟩ := h
  exact ⟨rfl, by simpa using hne⟩

lemma tokenPart_argument (s : String) (i : ℕ) : TokenPart ((Token.ofText s).argument i) := by
  have hparts : ∀ p ∈ Text.colonParts s, TokenPart p := fun p hp => tokenPart_of_mem_colonParts hp
  unfold Token.argument Token.ofText
  split
  · exact ⟨rfl, by simp⟩
  · rename_i name arguments heq
    rw [heq] at hparts
    rw [List.getD_eq_getElem?_getD]
    cases hi : arguments[i]? with
    | none => exact ⟨rfl, by simp⟩
    | some p => exact hparts p (List.mem_cons_of_mem _ (List.mem_of_getElem? hi))

lemma tokenPart_name (s : String) : TokenPart (Token.ofText s).name := by
  have hparts : ∀ p ∈ Text.colonParts s, TokenPart p := fun p hp => tokenPart_of_mem_colonParts hp
  unfold Token.ofText
  split
  · exact ⟨rfl, by simp⟩
  · rename_i name arguments heq
    exact hparts name (by rw [heq]; exact List.mem_cons_self)

lemma trimmed_of_field {name s : String} {i : ℕ} {a : Arg}
    (h : Token.field name ((Token.ofText s).argument i) = .ok a) : Trimmed a.text := by
  rw [text_of_field h]
  exact (tokenPart_argument s i).1

/-- An exact number in the kind in which it is read. -/
def SettledNumber (n : Number) : Prop := ExactNumber n ∧ settledNumber n = n

lemma settled_int_small {k : ℤ} (h : k = 0 ∨ k = 1 ∨ k = 10) : SettledNumber (.int k) := by
  refine ⟨?_, rfl⟩
  have hread : Number.ofText? (intText k) = some (.int k) := by
    obtain rfl | rfl | rfl := h <;> decide +kernel
  exact (ofText?_settled hread).1

lemma settled_numberOr {fallback : Number} (s : String) (h : SettledNumber fallback) :
    SettledNumber ((Scalar.text s).numberOr fallback) := by
  unfold Scalar.numberOr
  dsimp only
  cases hread : Number.ofText? (Text.trimBy Text.isBlank (Scalar.text s).plain.toList) with
  | none => exact h
  | some n => exact ofText?_settled hread

/-! ## Actions -/

/-- The texts and numbers of an action can stand in a cell. -/
def RepresentableAction : Action → Prop
  | .setFlag key _ => Trimmed key.text
  | .addItem itemId n => Trimmed itemId.text ∧ ExactNumber n
  | .removeItem itemId n => Trimmed itemId.text ∧ ExactNumber n
  | .adjustHp n => ExactNumber n
  | .adjustCurrency n => ExactNumber n
  | .heal amount => Trimmed amount.text

instance : (a : Action) → Decidable (RepresentableAction a)
  | .setFlag key _ => inferInstanceAs (Decidable (Trimmed key.text))
  | .addItem itemId n => inferInstanceAs (Decidable (Trimmed itemId.text ∧ ExactNumber n))
  | .removeItem itemId n => inferInstanceAs (Decidable (Trimmed itemId.text ∧ ExactNumber n))
  | .adjustHp n => inferInstanceAs (Decidable (ExactNumber n))
  | .adjustCurrency n => inferInstanceAs (Decidable (ExactNumber n))
  | .heal amount => inferInstanceAs (Decidable (Trimmed amount.text))

/-- An action with its numbers in the kind in which they are read. -/
def settledAction : Action → Action
  | .addItem itemId n => .addItem itemId (settledNumber n)
  | .removeItem itemId n => .removeItem itemId (settledNumber n)
  | .adjustHp n => .adjustHp (settledNumber n)
  | .adjustCurrency n => .adjustCurrency (settledNumber n)
  | a => a

/-- What stands behind the name in the token of an action. -/
def actionArguments : Action → List String
  | .setFlag key value => key.text :: if value then [] else ["false"]
  | .addItem itemId n => [itemId.text, String.ofList n.cell]
  | .removeItem itemId n => [itemId.text, String.ofList n.cell]
  | .adjustHp n => [String.ofList n.cell]
  | .adjustCurrency n => [String.ofList n.cell]
  | .heal amount => [amount.text]

lemma action_token_eq (a : Action) :
    a.token = ":".intercalate (a.name :: actionArguments a) := by
  cases a with
  | setFlag key value =>
    have hname : "set_flag:" = "set_flag" ++ ":" := by decide
    cases value
    · have hfalse : ":false" = ":" ++ "false" := by decide
      change "set_flag:" ++ key.text ++ ":false" = ":".intercalate ["set_flag", key.text, "false"]
      rw [intercalate_three, hname, hfalse, ← String.append_assoc]
    · change "set_flag:" ++ key.text ++ "" = ":".intercalate ["set_flag", key.text]
      rw [intercalate_two, hname, String.append_empty]
  | addItem itemId n => exact token_three (by decide : "add_item:" = "add_item" ++ ":") _ _
  | removeItem itemId n =>
    exact token_three (by decide : "remove_item:" = "remove_item" ++ ":") _ _
  | adjustHp n => exact token_two (by decide : "adjust_hp:" = "adjust_hp" ++ ":") _
  | adjustCurrency n =>
    exact token_two (by decide : "adjust_currency:" = "adjust_currency" ++ ":") _
  | heal amount => exact token_two (by decide : "heal:" = "heal" ++ ":") _

lemma cellPart_actionName (a : Action) : CellPart a.name ∧ a.name ≠ "" := by
  cases a <;> (simp only [Action.name]; decide)

lemma toLower_trim {s : String} (htrim : Trimmed s) (hs : s.toList.map Char.toLower = s.toList) :
    (Text.trim s).toLower = s := by
  have hmap : s.toLower = s.map Char.toLower := rfl
  rw [htrim, ← String.toList_inj, hmap, String.toList_map, hs]

lemma truthOr_false : (Scalar.text "false").truthOr true = false := by
  have hlower : (Text.trim "false").toLower = "false" := toLower_trim (by decide) (by decide)
  unfold Scalar.truthOr Scalar.plain
  dsimp only
  rw [hlower]
  decide

lemma cellPart_action {a : Action} (h : RepresentableAction a) :
    ∀ p ∈ a.name :: actionArguments a, CellPart p := by
  have hname := (cellPart_actionName a).1
  have hfalse : CellPart "false" := by decide
  cases a with
  | setFlag key value =>
    have hkey := cellPart_arg h
    cases value <;> simp_all [actionArguments]
  | addItem itemId n => simp [actionArguments, hname, cellPart_arg h.1, cellPart_number h.2]
  | removeItem itemId n => simp [actionArguments, hname, cellPart_arg h.1, cellPart_number h.2]
  | adjustHp n => simp [actionArguments, hname, cellPart_number h]
  | adjustCurrency n => simp [actionArguments, hname, cellPart_number h]
  | heal amount => simp [actionArguments, hname, cellPart_arg h]

lemma segment_action {a : Action} (h : RepresentableAction a) : Segment a.token := by
  rw [action_token_eq]
  exact segment_intercalate (cellPart_actionName a).2 (cellPart_action h)

/-- An action is read from its token. -/
theorem action_ofToken {a : Action} (h : RepresentableAction a) :
    Action.ofToken (.ofText a.token) = .ok (settledAction a) := by
  rw [action_token_eq, ofText_intercalate fun p hp => (cellPart_action h p hp).1]
  unfold Action.ofToken
  cases a with
  | setFlag key value =>
    cases value <;> simp [Action.name, actionArguments, Token.argument, arg_ne_empty,
      settledAction, truthOr_false, Except.map]
  | addItem itemId n =>
    simp [Action.name, actionArguments, Token.argument, arg_ne_empty, settledAction,
      numberOr_cell h.2, Except.map]
  | removeItem itemId n =>
    simp [Action.name, actionArguments, Token.argument, arg_ne_empty, settledAction,
      numberOr_cell h.2, Except.map]
  | adjustHp n =>
    simp [Action.name, actionArguments, Token.argument, settledAction, numberOr_cell h]
  | adjustCurrency n =>
    simp [Action.name, actionArguments, Token.argument, settledAction, numberOr_cell h]
  | heal amount =>
    simp [Action.name, actionArguments, Token.argument, arg_ne_empty, settledAction, Except.map]

/-- The actions of a cell are those that it was written for. -/
theorem action_parseCell {l : List Action} (h : ∀ a ∈ l, RepresentableAction a) :
    Action.parseCell (.text (Action.cell l)) = ⟨nonempty? (l.map settledAction), []⟩ := by
  have hread := noteSegments_joinCell .action (fun a ha => segment_action (h a ha))
    fun a ha => action_ofToken (h a ha)
  unfold Action.parseCell Action.cell
  rw [hread]

lemma action_parse {a : Action} (h : RepresentableAction a) :
    Action.parse (.text a.token) = .ok ⟨some (settledAction a), []⟩ := by
  have hread := action_ofToken h
  unfold Action.parse Scalar.token Scalar.content Scalar.plain
  dsimp only
  rw [hread]
  rfl

/-- A representable action whose numbers are settled. -/
def SettledAction (a : Action) : Prop := RepresentableAction a ∧ settledAction a = a

/-- What a token gives as an action can be held by a token again. -/
theorem settled_of_ofToken {s : String} {a : Action} (h : Action.ofToken (.ofText s) = .ok a) :
    SettledAction a := by
  have hzero : SettledNumber 0 := settled_int_small (.inl rfl)
  have hone : SettledNumber 1 := settled_int_small (.inr (.inl rfl))
  unfold Action.ofToken at h
  split at h
  · exact absurd h (by simp)
  · split at h
    · exact absurd h (by simp)
    · obtain ⟨key, hkey, rfl⟩ := map_eq_ok h
      exact ⟨trimmed_of_field hkey, rfl⟩
  · split at h
    · exact absurd h (by simp)
    · obtain ⟨itemId, hitem, rfl⟩ := map_eq_ok h
      have hn := settled_numberOr ((Token.ofText s).argument 1) hone
      exact ⟨⟨trimmed_of_field hitem, hn.1⟩, by rw [settledAction, hn.2]⟩
  · split at h
    · exact absurd h (by simp)
    · obtain ⟨itemId, hitem, rfl⟩ := map_eq_ok h
      have hn := settled_numberOr ((Token.ofText s).argument 1) hone
      exact ⟨⟨trimmed_of_field hitem, hn.1⟩, by rw [settledAction, hn.2]⟩
  · rw [Except.ok.injEq] at h
    have hn := settled_numberOr ((Token.ofText s).argument 0) hzero
    rw [← h]
    exact ⟨hn.1, by rw [settledAction, hn.2]⟩
  · rw [Except.ok.injEq] at h
    have hn := settled_numberOr ((Token.ofText s).argument 0) hzero
    rw [← h]
    exact ⟨hn.1, by rw [settledAction, hn.2]⟩
  · split at h
    · rw [Except.ok.injEq] at h
      rw [← h]
      have hzeroText : Trimmed "0" := by decide
      exact ⟨hzeroText, rfl⟩
    · obtain ⟨amount, hamount, rfl⟩ := map_eq_ok h
      exact ⟨trimmed_of_field hamount, rfl⟩
  · exact absurd h (by simp)

/-! ## Requirements -/

/-- The texts and numbers of a requirement can stand in a cell. -/
def RepresentableRequirement : Requirement → Prop
  | .hasFlag key => Trimmed key.text
  | .notHasFlag key => Trimmed key.text
  | .hasItem itemId => Trimmed itemId.text
  | .statCheck stat operator n => Trimmed stat.text ∧ Trimmed operator.text ∧ ExactNumber n

instance : (r : Requirement) → Decidable (RepresentableRequirement r)
  | .hasFlag key => inferInstanceAs (Decidable (Trimmed key.text))
  | .notHasFlag key => inferInstanceAs (Decidable (Trimmed key.text))
  | .hasItem itemId => inferInstanceAs (Decidable (Trimmed itemId.text))
  | .statCheck stat operator n =>
    inferInstanceAs (Decidable (Trimmed stat.text ∧ Trimmed operator.text ∧ ExactNumber n))

/-- A requirement with its number in the kind in which it is read. -/
def settledRequirement : Requirement → Requirement
  | .statCheck stat operator n => .statCheck stat operator (settledNumber n)
  | r => r

/-- The parts of the token of a requirement. -/
def requirementParts : Requirement → String × List String
  | .hasFlag key => ("has_flag", [key.text])
  | .notHasFlag key => ("not_has_flag", [key.text])
  | .hasItem itemId => ("has_item", [itemId.text])
  | .statCheck stat operator n =>
    ("stat_check", [stat.text, operator.text, String.ofList n.cell])

lemma requirement_token_eq (r : Requirement) :
    r.token = ":".intercalate ((requirementParts r).1 :: (requirementParts r).2) := by
  cases r with
  | hasFlag key => exact token_two (by decide : "has_flag:" = "has_flag" ++ ":") _
  | notHasFlag key => exact token_two (by decide : "not_has_flag:" = "not_has_flag" ++ ":") _
  | hasItem itemId => exact token_two (by decide : "has_item:" = "has_item" ++ ":") _
  | statCheck stat operator n =>
    have hname : "stat_check:" = "stat_check" ++ ":" := by decide
    change "stat_check:" ++ stat.text ++ ":" ++ operator.text ++ ":" ++ String.ofList n.cell =
      ":".intercalate ["stat_check", stat.text, operator.text, String.ofList n.cell]
    rw [intercalate_cons, intercalate_three, hname]
    simp only [String.append_assoc]

lemma cellPart_requirementName (r : Requirement) :
    CellPart (requirementParts r).1 ∧ (requirementParts r).1 ≠ "" := by
  cases r <;> (simp only [requirementParts]; decide)

lemma cellPart_requirement {r : Requirement} (h : RepresentableRequirement r) :
    ∀ p ∈ (requirementParts r).1 :: (requirementParts r).2, CellPart p := by
  intro p hp
  obtain rfl | hp := List.mem_cons.mp hp
  · exact (cellPart_requirementName r).1
  cases r with
  | hasFlag key =>
    rw [List.mem_singleton.mp hp]
    exact cellPart_arg h
  | notHasFlag key =>
    rw [List.mem_singleton.mp hp]
    exact cellPart_arg h
  | hasItem itemId =>
    rw [List.mem_singleton.mp hp]
    exact cellPart_arg h
  | statCheck stat operator n =>
    simp only [requirementParts, List.mem_cons, List.not_mem_nil, or_false] at hp
    obtain rfl | rfl | rfl := hp
    · exact cellPart_arg h.1
    · exact cellPart_arg h.2.1
    · exact cellPart_number h.2.2

lemma segment_requirement {r : Requirement} (h : RepresentableRequirement r) : Segment r.token := by
  rw [requirement_token_eq]
  exact segment_intercalate (cellPart_requirementName r).2 (cellPart_requirement h)

/-- A requirement is read from its token. -/
theorem requirement_ofToken {r : Requirement} (h : RepresentableRequirement r) :
    Requirement.ofToken (.ofText r.token) = .ok (settledRequirement r) := by
  rw [requirement_token_eq, ofText_intercalate fun p hp => (cellPart_requirement h p hp).1]
  unfold Requirement.ofToken
  cases r with
  | hasFlag key =>
    simp [requirementParts, Token.argument, arg_ne_empty, settledRequirement, Except.map]
  | notHasFlag key =>
    simp [requirementParts, Token.argument, arg_ne_empty, settledRequirement, Except.map]
  | hasItem itemId =>
    simp [requirementParts, Token.argument, arg_ne_empty, settledRequirement, Except.map]
  | statCheck stat operator n =>
    have hcell := cell_ne_empty h.2.2
    simp only [requirementParts, Token.argument, List.getD_cons_zero, List.getD_cons_succ,
      arg_ne_empty, hcell, field_text, settledRequirement, numberOr_cell h.2.2, or_self, if_false]
    rfl

/-- The requirements of a cell are those that it was written for. -/
theorem requirement_parseCell {l : List Requirement} (h : ∀ r ∈ l, RepresentableRequirement r) :
    Requirement.parseCell (.text (Requirement.cell l)) =
      ⟨nonempty? (l.map settledRequirement), []⟩ := by
  have hread := noteSegments_joinCell .requirement (fun r hr => segment_requirement (h r hr))
    fun r hr => requirement_ofToken (h r hr)
  unfold Requirement.parseCell Requirement.cell
  rw [hread]

/-- A representable requirement whose number is settled. -/
def SettledRequirement (r : Requirement) : Prop :=
  RepresentableRequirement r ∧ settledRequirement r = r

/-- What a token gives as a requirement can be held by a token again. -/
theorem settled_of_requirement {s : String} {r : Requirement}
    (h : Requirement.ofToken (.ofText s) = .ok r) : SettledRequirement r := by
  have hzero : SettledNumber 0 := settled_int_small (.inl rfl)
  unfold Requirement.ofToken at h
  split at h
  · exact absurd h (by simp)
  · split at h
    · exact absurd h (by simp)
    · obtain ⟨key, hkey, rfl⟩ := map_eq_ok h
      exact ⟨trimmed_of_field hkey, rfl⟩
  · split at h
    · exact absurd h (by simp)
    · obtain ⟨key, hkey, rfl⟩ := map_eq_ok h
      exact ⟨trimmed_of_field hkey, rfl⟩
  · split at h
    · exact absurd h (by simp)
    · obtain ⟨itemId, hitem, rfl⟩ := map_eq_ok h
      exact ⟨trimmed_of_field hitem, rfl⟩
  · split at h
    · exact absurd h (by simp)
    · cases hstat : Token.field "stat" ((Token.ofText s).argument 0) with
      | error e =>
        rw [hstat] at h
        exact absurd h (by simp [bind, Except.bind])
      | ok stat =>
        cases hoperator : Token.field "operator" ((Token.ofText s).argument 1) with
        | error e =>
          rw [hstat, hoperator] at h
          exact absurd h (by simp [bind, Except.bind])
        | ok operator =>
          rw [hstat, hoperator] at h
          have hn := settled_numberOr ((Token.ofText s).argument 2) hzero
          simp only [bind, Except.bind, pure, Except.pure, Except.ok.injEq] at h
          rw [← h]
          exact ⟨⟨trimmed_of_field hstat, trimmed_of_field hoperator, hn.1⟩,
            by rw [settledRequirement, hn.2]⟩
  · exact absurd h (by simp)

/-! ## Mechanics -/

/-- An optional text that is not empty. -/
def withoutEmpty (s : Option String) : Option String := s.filter (· ≠ "")

/-- A node of a skill check can stand in a cell: a part of a token that is not empty. -/
def Target (s : String) : Prop := TokenPart s ∧ s ≠ ""

instance (s : String) : Decidable (Target s) := inferInstanceAs (Decidable (TokenPart s ∧ s ≠ ""))

/-- The texts and the number of a skill check can stand in a cell. -/
@[mk_iff]
structure RepresentableCheck (c : SkillCheck) : Prop where
  dice : Trimmed c.dice.text
  difficulty : ExactNumber c.difficulty
  onSuccess : Target c.onSuccess
  onFailure : Target c.onFailure
  failureEncounter : ∀ s ∈ c.failureEncounter, TokenPart s
  ability : ∀ s ∈ c.ability, TokenPart s

instance (c : SkillCheck) : Decidable (RepresentableCheck c) :=
  decidable_of_iff' _ (representableCheck_iff c)

/-- The texts and numbers of a mechanic can stand in a cell. -/
def RepresentableMechanic : Mechanic → Prop
  | .navigate nodeId => Trimmed nodeId.text
  | .combat encounterId => Trimmed encounterId.text
  | .skillCheck c => RepresentableCheck c

instance : (m : Mechanic) → Decidable (RepresentableMechanic m)
  | .navigate nodeId => inferInstanceAs (Decidable (Trimmed nodeId.text))
  | .combat encounterId => inferInstanceAs (Decidable (Trimmed encounterId.text))
  | .skillCheck c => inferInstanceAs (Decidable (RepresentableCheck c))

/-- A mechanic without empty options. -/
def normalMechanic : Mechanic → Mechanic
  | .skillCheck c =>
    .skillCheck { c with
      ability := withoutEmpty c.ability
      failureEncounter := withoutEmpty c.failureEncounter }
  | m => m

/-- A mechanic with its number in the kind in which it is read. -/
def settledMechanic : Mechanic → Mechanic
  | .skillCheck c => .skillCheck { c with difficulty := settledNumber c.difficulty }
  | m => m

lemma withoutEmpty_eq (s : Option String) : withoutEmpty s = Mechanic.filled? (s.getD "") := by
  unfold withoutEmpty Mechanic.filled?
  cases s with
  | none => rfl
  | some t => by_cases ht : t = "" <;> simp [ht]

lemma tokenPart_getD {s : Option String} (h : ∀ t ∈ s, TokenPart t) : TokenPart (s.getD "") := by
  cases s with
  | none => decide
  | some t => exact h t rfl

/-- What stands behind the name in the token of a skill check. -/
def checkArguments (c : SkillCheck) : List String :=
  let encounter := c.failureEncounter.getD ""
  let ability := c.ability.getD ""
  [c.dice.text, String.ofList c.difficulty.cell, c.onSuccess, c.onFailure] ++
    (if encounter = "" ∧ ability = "" then [] else [encounter]) ++
    (if ability = "" then [] else [ability])

lemma checkToken_eq (c : SkillCheck) :
    Mechanic.checkToken c = ":".intercalate ("skill_check" :: checkArguments c) := rfl

lemma mem_checkArguments {c : SkillCheck} {p : String} (h : p ∈ checkArguments c) :
    p = c.dice.text ∨ p = String.ofList c.difficulty.cell ∨ p = c.onSuccess ∨ p = c.onFailure ∨
      p = c.failureEncounter.getD "" ∨ p = c.ability.getD "" := by
  have hone : ∀ {b : Prop} [Decidable b] {s : String}, p ∈ (if b then [] else [s]) → p = s := by
    intro b _ s hp
    split at hp
    · exact absurd hp (by simp)
    · exact List.mem_singleton.mp hp
  unfold checkArguments at h
  dsimp only at h
  rw [List.mem_append, List.mem_append] at h
  obtain (h | h) | h := h
  · simp only [List.mem_cons, List.not_mem_nil, or_false] at h
    tauto
  · have hp := hone h
    tauto
  · have hp := hone h
    tauto

lemma tokenPart_check {c : SkillCheck} (h : RepresentableCheck c) :
    ∀ p ∈ "skill_check" :: checkArguments c, TokenPart p := by
  intro p hp
  obtain rfl | hp := List.mem_cons.mp hp
  · decide
  obtain rfl | rfl | rfl | rfl | rfl | rfl := mem_checkArguments hp
  · exact tokenPart_arg h.dice
  · exact tokenPart_number h.difficulty
  · exact h.onSuccess.1
  · exact h.onFailure.1
  · exact tokenPart_getD h.failureEncounter
  · exact tokenPart_getD h.ability

lemma check_ofToken {c : SkillCheck} (h : RepresentableCheck c) :
    Mechanic.ofToken ⟨"skill_check", checkArguments c⟩ =
      .ok (settledMechanic (normalMechanic (.skillCheck c))) := by
  have hcell := cell_ne_empty h.difficulty
  have hdice : (checkArguments c).getD 0 "" = c.dice.text := rfl
  have hdifficulty : (checkArguments c).getD 1 "" = String.ofList c.difficulty.cell := rfl
  have hsuccess : (checkArguments c).getD 2 "" = c.onSuccess := rfl
  have hfailure : (checkArguments c).getD 3 "" = c.onFailure := rfl
  have hencounter : (checkArguments c).getD 4 "" = c.failureEncounter.getD "" := by
    unfold checkArguments
    dsimp only
    split <;> split <;> simp_all
  have hability : (checkArguments c).getD 5 "" = c.ability.getD "" := by
    unfold checkArguments
    dsimp only
    split <;> split <;> simp_all
  unfold Mechanic.ofToken
  simp only [Token.argument, hdice, hdifficulty, hsuccess, hfailure, hencounter, hability,
    arg_ne_empty, hcell, h.onSuccess.2, h.onFailure.2, or_self, if_false, field_text,
    numberOr_cell h.difficulty, Except.map, settledMechanic, normalMechanic, withoutEmpty_eq]

lemma navigate_token_eq (nodeId : Arg) :
    Mechanic.token (.navigate nodeId) = ":".intercalate ["navigate", nodeId.text] :=
  token_two (by decide : "navigate:" = "navigate" ++ ":") _

lemma combat_token_eq (encounterId : Arg) :
    Mechanic.token (.combat encounterId) = ":".intercalate ["combat_init", encounterId.text] :=
  token_two (by decide : "combat_init:" = "combat_init" ++ ":") _

lemma tokenPart_pair {name : String} (hname : TokenPart name) {a : Arg} (h : Trimmed a.text) :
    ∀ p ∈ [name, a.text], TokenPart p := by
  simp [hname, tokenPart_arg h]

lemma trimmed_mechanic {m : Mechanic} (h : RepresentableMechanic m) : Trimmed m.token := by
  cases m with
  | navigate nodeId =>
    rw [navigate_token_eq]
    exact trimmed_intercalate fun p hp => (tokenPart_pair (by decide) h p hp).1
  | combat encounterId =>
    rw [combat_token_eq]
    exact trimmed_intercalate fun p hp => (tokenPart_pair (by decide) h p hp).1
  | skillCheck c => exact trimmed_intercalate fun p hp => (tokenPart_check h p hp).1

/-- A mechanic is read from its token, without its empty options. -/
theorem mechanic_ofToken {m : Mechanic} (h : RepresentableMechanic m) :
    Mechanic.ofToken (.ofText m.token) = .ok (settledMechanic (normalMechanic m)) := by
  cases m with
  | navigate nodeId =>
    rw [navigate_token_eq, ofText_intercalate (tokenPart_pair (by decide) h)]
    simp [Mechanic.ofToken, Token.argument, arg_ne_empty, Except.map, settledMechanic,
      normalMechanic]
  | combat encounterId =>
    rw [combat_token_eq, ofText_intercalate (tokenPart_pair (by decide) h)]
    simp [Mechanic.ofToken, Token.argument, arg_ne_empty, Except.map, settledMechanic,
      normalMechanic]
  | skillCheck c =>
    unfold Mechanic.token
    dsimp only
    rw [checkToken_eq, ofText_intercalate (tokenPart_check h)]
    exact check_ofToken h

lemma mechanic_parse {m : Mechanic} (h : RepresentableMechanic m) :
    Mechanic.parse (.text m.token) = ⟨some (settledMechanic (normalMechanic m)), []⟩ := by
  have hread := mechanic_ofToken h
  unfold Mechanic.parse Scalar.token Scalar.content Scalar.plain
  dsimp only
  rw [hread]
  rfl

/-- A representable mechanic without empty options whose number is settled. -/
def SettledMechanic (m : Mechanic) : Prop :=
  RepresentableMechanic m ∧ normalMechanic m = m ∧ settledMechanic m = m

@[simp] lemma withoutEmpty_filled? (s : String) :
    withoutEmpty (Mechanic.filled? s) = Mechanic.filled? s := by
  unfold withoutEmpty Mechanic.filled?
  by_cases hs : s = "" <;> simp [hs]

lemma mem_filled? {s t : String} (h : t ∈ Mechanic.filled? s) : t = s := by
  unfold Mechanic.filled? at h
  by_cases hs : s = ""
  · simp [hs] at h
  · simpa [hs, eq_comm] using h

/-- What a token gives as a mechanic can be held by a token again. -/
theorem settled_of_mechanic {s : String} {m : Mechanic}
    (h : Mechanic.ofToken (.ofText s) = .ok m) : SettledMechanic m := by
  have hzero : SettledNumber 0 := settled_int_small (.inl rfl)
  unfold Mechanic.ofToken at h
  split at h
  · exact absurd h (by simp)
  · split at h
    · exact absurd h (by simp)
    · obtain ⟨nodeId, hnode, rfl⟩ := map_eq_ok h
      exact ⟨trimmed_of_field hnode, rfl, rfl⟩
  · split at h
    · exact absurd h (by simp)
    · obtain ⟨encounterId, hencounter, rfl⟩ := map_eq_ok h
      exact ⟨trimmed_of_field hencounter, rfl, rfl⟩
  · split at h
    · exact absurd h (by simp)
    · rename_i hfull
      simp only [not_or] at hfull
      obtain ⟨dice, hdice, rfl⟩ := map_eq_ok h
      have hpart := tokenPart_argument s
      have hn := settled_numberOr ((Token.ofText s).argument 1) hzero
      generalize (Scalar.text ((Token.ofText s).argument 1)).numberOr 0 = n at hn ⊢
      refine ⟨?_, ?_, ?_⟩
      · exact {
          dice := trimmed_of_field hdice
          difficulty := hn.1
          onSuccess := ⟨hpart 2, hfull.2.2.1⟩
          onFailure := ⟨hpart 3, hfull.2.2.2⟩
          failureEncounter := fun t ht => mem_filled? ht ▸ hpart 4
          ability := fun t ht => mem_filled? ht ▸ hpart 5 }
      · simp only [normalMechanic, withoutEmpty_filled?]
      · simp only [settledMechanic, hn.2]
  · exact absurd h (by simp)

/-! ## Spawns -/

/-- The enemy and the count of a spawn can stand in a cell. -/
def RepresentableSpawn (s : Spawn) : Prop := Trimmed s.enemyId.text ∧ ExactNumber s.count

instance (s : Spawn) : Decidable (RepresentableSpawn s) :=
  inferInstanceAs (Decidable (Trimmed s.enemyId.text ∧ ExactNumber s.count))

/-- A spawn with its count in the kind in which it is read. -/
def settledSpawn (s : Spawn) : Spawn := ⟨s.enemyId, settledNumber s.count⟩

/-- A representable spawn whose count is settled. -/
def SettledSpawn (s : Spawn) : Prop := RepresentableSpawn s ∧ settledSpawn s = s

lemma spawn_token_eq (s : Spawn) :
    s.token = ":".intercalate [s.enemyId.text, String.ofList s.count.cell] :=
  (intercalate_two _ _).symm

lemma cellPart_spawn {s : Spawn} (h : RepresentableSpawn s) :
    ∀ p ∈ [s.enemyId.text, String.ofList s.count.cell], CellPart p := by
  simp [cellPart_arg h.1, cellPart_number h.2]

lemma segment_spawn {s : Spawn} (h : RepresentableSpawn s) : Segment s.token := by
  rw [spawn_token_eq]
  exact segment_intercalate (arg_ne_empty s.enemyId) (cellPart_spawn h)

/-- A spawn is read from its token. -/
theorem spawn_ofToken {s : Spawn} (h : RepresentableSpawn s) :
    Spawn.ofToken? (.ofText s.token) = some (settledSpawn s) := by
  rw [spawn_token_eq, ofText_intercalate fun p hp => (cellPart_spawn h p hp).1]
  simp [Spawn.ofToken?, Token.argument, numberOr_cell h.2, settledSpawn]

/-- The spawns of a cell are those that it was written for. -/
theorem spawn_parseCell {l : List Spawn} (h : ∀ s ∈ l, RepresentableSpawn s) :
    Spawn.parseCell (.text (Spawn.cell l)) = l.map settledSpawn := by
  have hsegs : ∀ t ∈ l.map Spawn.token, Segment t := by
    intro t ht
    obtain ⟨s, hs, rfl⟩ := List.mem_map.mp ht
    exact segment_spawn (h s hs)
  unfold Spawn.parseCell Spawn.cell
  rw [segments_text, barSegments_joinCell hsegs, List.filterMap_map]
  calc l.filterMap _ = l.filterMap (some ∘ settledSpawn) :=
        List.filterMap_congr fun s hs => spawn_ofToken (h s hs)
    _ = l.map settledSpawn := by rw [List.filterMap_eq_map]

end Gamebook.Proofs
