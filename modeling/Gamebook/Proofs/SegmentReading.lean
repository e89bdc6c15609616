import Gamebook.Proofs.CellRoundTrip

/-!
# Reading cells by segments

A cell is read one segment after the other. Nothing is lost on the way: each segment that is not
blank gives an entity or one warning, and none is refused. So two cells with a bar between them are
read as the one and then the other. A token that stands by itself may hold a bar, and only then can
it be refused.
-/

namespace Gamebook.Proofs

/-! ## Tokens in turn -/

section

variable {α : Type}

/-- Reads a token; an argument that no story can hold is refused. -/
def readToken (kind : TokenKind) (read : Token → Except TokenFault α) (token : Scalar) :
    Checked (Noted (Option α)) :=
  match read token.token with
  | .error (.invalid field) => .refused [⟨[field], .malformed⟩]
  | r => .ok (noteFault kind token r)

/-- Reads tokens in turn. The first one that is refused ends it. -/
def readInTurn (read : Scalar → Checked (Noted (Option α))) :
    List String → Checked (Noted (List α))
  | [] => .ok ⟨[], []⟩
  | s :: rest =>
    (read s).andThen fun first => (readInTurn read rest).map fun others =>
      ⟨first.value.toList ++ others.value, first.warnings ++ others.warnings⟩

/-- A value without a warning, or no value and exactly one warning. -/
def ValueOrWarning (n : Noted (Option α)) : Prop :=
  ((∃ a, n.value = some a) ∧ n.warnings = []) ∨ n.value = none ∧ ∃ w, n.warnings = [w]

variable {read : Scalar → Checked (Noted (Option α))}

lemma readInTurn_cons {s : String} {rest : List String} {n : Noted (List α)} :
    readInTurn read (s :: rest) = .ok n ↔ ∃ first others, read s = .ok first ∧
      readInTurn read rest = .ok others ∧
      n = ⟨first.value.toList ++ others.value, first.warnings ++ others.warnings⟩ := by
  rw [readInTurn]
  cases read s with
  | refused problems => simp [Checked.andThen]
  | ok first =>
    cases readInTurn read rest with
    | refused problems => simp [Checked.andThen, Checked.map]
    | ok others => simp [Checked.andThen, Checked.map, eq_comm]

lemma readInTurn_append {l m : List String} {a b : Noted (List α)}
    (ha : readInTurn read l = .ok a) (hb : readInTurn read m = .ok b) :
    readInTurn read (l ++ m) = .ok ⟨a.value ++ b.value, a.warnings ++ b.warnings⟩ := by
  induction l generalizing a with
  | nil =>
    rw [readInTurn, Checked.ok.injEq] at ha
    subst ha
    exact hb
  | cons s rest ih =>
    obtain ⟨first, others, hfirst, hothers, rfl⟩ := readInTurn_cons.mp ha
    apply readInTurn_cons.mpr
    refine ⟨first, _, hfirst, ih hothers, ?_⟩
    simp only [List.append_assoc]

lemma length_of_readInTurn {l : List String} {n : Noted (List α)} (h : readInTurn read l = .ok n)
    (hread : ∀ s ∈ l, ∀ first, read s = .ok first → ValueOrWarning first) :
    l.length = n.value.length + n.warnings.length := by
  induction l generalizing n with
  | nil =>
    rw [readInTurn, Checked.ok.injEq] at h
    subst h
    rfl
  | cons s rest ih =>
    obtain ⟨first, others, hfirst, hothers, rfl⟩ := readInTurn_cons.mp h
    have hrest := ih hothers fun t ht => hread t (List.mem_cons_of_mem s ht)
    simp only [List.length_cons, List.length_append]
    rcases hread s List.mem_cons_self first hfirst with ⟨⟨a, ha⟩, hnone⟩ | ⟨hnone, w, hw⟩
    · rw [ha, hnone]
      simp only [Option.toList_some, List.length_singleton, List.length_nil]
      omega
    · rw [hnone, hw]
      simp only [Option.toList_none, List.length_singleton, List.length_nil]
      omega

lemma valueOrWarning_noteFault (kind : TokenKind) (token : Scalar) (r : Except TokenFault α) :
    ValueOrWarning (noteFault kind token r) := by
  cases r with
  | ok a => exact .inl ⟨⟨a, rfl⟩, rfl⟩
  | error fault => exact .inr ⟨rfl, _, rfl⟩

variable {kind : TokenKind} {ofToken : Token → Except TokenFault α}

lemma readToken_eq {token : Scalar}
    (h : ∀ field, ofToken token.token ≠ .error (.invalid field)) :
    readToken kind ofToken token = .ok (noteFault kind token (ofToken token.token)) := by
  unfold readToken
  split
  · rename_i field hfield
    exact absurd hfield (h field)
  · rfl

lemma valueOrWarning_readToken {token : Scalar} {n : Noted (Option α)}
    (h : readToken kind ofToken token = .ok n) : ValueOrWarning n := by
  unfold readToken at h
  split at h
  · simp at h
  · rw [Checked.ok.injEq] at h
    subst h
    exact valueOrWarning_noteFault ..

lemma noteSegments_cons (kind : TokenKind) (ofToken : Token → Except TokenFault α) (s : String)
    (rest : List String) : noteSegments kind ofToken (s :: rest) =
      ⟨(noteFault kind (.text s) (ofToken (.ofText s))).value.toList ++
          (noteSegments kind ofToken rest).value,
        (noteFault kind (.text s) (ofToken (.ofText s))).warnings ++
          (noteSegments kind ofToken rest).warnings⟩ := by
  unfold noteSegments
  dsimp only
  rw [List.map_cons, List.flatMap_cons]
  cases ofToken (.ofText s) <;> rfl

lemma readInTurn_noteSegments {l : List String}
    (h : ∀ s ∈ l, ∀ field, ofToken (.ofText s) ≠ .error (.invalid field)) :
    readInTurn (readToken kind ofToken) l = .ok (noteSegments kind ofToken l) := by
  induction l with
  | nil => rfl
  | cons s rest ih =>
    apply readInTurn_cons.mpr
    exact ⟨_, _, readToken_eq (h s List.mem_cons_self),
      ih fun t ht => h t (List.mem_cons_of_mem s ht), noteSegments_cons kind ofToken s rest⟩

end

/-! ## Cells -/

/-- The segments of a cell that hold more than white space. -/
def filledSegments (c : String) : List (List Char) :=
  (c.toList.splitOn '|').filter fun piece => !piece.all Text.isBlank

lemma trimBy_eq_nil_iff {cs : List Char} :
    Text.trimBy Text.isBlank cs = [] ↔ cs.all Text.isBlank = true := by
  rw [trimBy_eq, List.rdropWhile_eq_nil_iff, List.all_eq_true]
  constructor
  · intro h
    by_contra hcs
    have hne : cs.dropWhile Text.isBlank ≠ [] := by
      rw [Ne, List.dropWhile_eq_nil_iff]
      exact hcs
    have hhead := List.head_dropWhile_not Text.isBlank hne
    rw [h _ (List.head_mem hne)] at hhead
    exact Bool.noConfusion hhead
  · intro h c hc
    exact h c ((List.dropWhile_suffix _).subset hc)

lemma length_filledSegments (c : String) :
    (filledSegments c).length = (Text.barSegments c).length := by
  rw [barSegments_eq, List.length_map]
  unfold barPieces filledSegments
  rw [List.filter_map, List.length_map]
  congr 1
  apply List.filter_congr
  intro piece _
  rw [Function.comp_apply, Bool.eq_iff_iff, Bool.not_eq_true', ← Bool.not_eq_true,
    ← trimBy_eq_nil_iff, decide_eq_true_eq]

lemma barSegments_bar (c d : String) :
    Text.barSegments (c ++ "|" ++ d) = Text.barSegments c ++ Text.barSegments d := by
  have hlist : (c ++ "|" ++ d).toList = c.toList ++ '|' :: d.toList := by simp
  rw [barSegments_eq, barSegments_eq, barSegments_eq, hlist, barPieces_bar, List.map_append]

section

variable {α : Type}

/-- What was read as a list, where nothing stands for the empty list. -/
def listed (n : Noted (Option (List α))) : Noted (List α) := ⟨n.value.getD [], n.warnings⟩

/-- Cells are read segment by segment, and no segment is refused. -/
structure Segmentwise (parse : Scalar → Checked (Noted (Option α)))
    (cells : String → Noted (List α)) : Prop where
  accepted : ∀ c, readInTurn parse (Text.barSegments c) = .ok (cells c)
  values : ∀ c d, (cells (c ++ "|" ++ d)).value = (cells c).value ++ (cells d).value
  warnings : ∀ c d, (cells (c ++ "|" ++ d)).warnings = (cells c).warnings ++ (cells d).warnings

/-- Each segment that is not blank gives an entity or a warning. Without an entity there is no
list. -/
structure KeepsCount (cells : String → Noted (Option (List α))) : Prop where
  counted : ∀ c, (filledSegments c).length =
    (listed (cells c)).value.length + (cells c).warnings.length
  absent : ∀ c, (cells c).value = none ↔ (listed (cells c)).value.length = 0

variable {parse : Scalar → Checked (Noted (Option α))} {cells : String → Noted (List α)}

lemma segmentwise_of_accepted
    (h : ∀ c, readInTurn parse (Text.barSegments c) = .ok (cells c)) :
    Segmentwise parse cells := by
  have hbar : ∀ c d, cells (c ++ "|" ++ d) =
      ⟨(cells c).value ++ (cells d).value, (cells c).warnings ++ (cells d).warnings⟩ := by
    intro c d
    have hread := h (c ++ "|" ++ d)
    rw [barSegments_bar, readInTurn_append (h c) (h d), Checked.ok.injEq] at hread
    exact hread.symm
  refine ⟨h, fun c d => ?_, fun c d => ?_⟩
  · rw [hbar]
  · rw [hbar]

lemma absent_iff (l : List α) : nonempty? l = none ↔ ((nonempty? l).getD []).length = 0 := by
  cases l with
  | nil => exact iff_of_true rfl rfl
  | cons a l => exact iff_of_false (Option.some_ne_none _) (Nat.succ_ne_zero _)

variable {kind : TokenKind} {ofToken : Token → Except TokenFault α}

lemma listed_noteSegments (kind : TokenKind) (ofToken : Token → Except TokenFault α) (c : String) :
    listed ⟨nonempty? (noteSegments kind ofToken (Scalar.text c).segments).value,
      (noteSegments kind ofToken (Scalar.text c).segments).warnings⟩ =
      noteSegments kind ofToken (Text.barSegments c) := by
  unfold listed
  dsimp only
  rw [getD_nonempty?, segments_text]

lemma segmentwise_tokens (h : ∀ c, ∀ s ∈ Text.barSegments c, ∀ field,
    ofToken (.ofText s) ≠ .error (.invalid field)) :
    Segmentwise (readToken kind ofToken) fun c =>
      listed ⟨nonempty? (noteSegments kind ofToken (Scalar.text c).segments).value,
        (noteSegments kind ofToken (Scalar.text c).segments).warnings⟩ := by
  apply segmentwise_of_accepted
  intro c
  rw [listed_noteSegments]
  exact readInTurn_noteSegments (h c)

lemma keepsCount_tokens (h : ∀ c, ∀ s ∈ Text.barSegments c, ∀ field,
    ofToken (.ofText s) ≠ .error (.invalid field)) :
    KeepsCount fun c =>
      ⟨nonempty? (noteSegments kind ofToken (Scalar.text c).segments).value,
        (noteSegments kind ofToken (Scalar.text c).segments).warnings⟩ := by
  refine ⟨fun c => ?_, fun c => absent_iff _⟩
  have hread : readInTurn (readToken kind ofToken) _ = _ := readInTurn_noteSegments (h c)
  rw [listed_noteSegments, segments_text, length_filledSegments]
  exact length_of_readInTurn hread fun s _ first hfirst => valueOrWarning_readToken hfirst

end

/-! ## Spawns -/

/-- Reads a spawn. A token without an enemy is skipped, and an enemy that no story can hold is
refused. -/
def readSpawn (token : Scalar) : Checked (Noted (Option Spawn)) :=
  if token.token.name = "" then .ok ⟨none, []⟩
  else
    match Spawn.ofToken? token.token with
    | some spawn => .ok ⟨some spawn, []⟩
    | none => .refused [⟨["enemyId"], .malformed⟩]

lemma readSpawn_segment {c s : String} (h : s ∈ Text.barSegments c) :
    readSpawn s = .ok ⟨Spawn.ofToken? (.ofText s), []⟩ := by
  have htoken : (Scalar.text s).token = .ofText s := rfl
  unfold readSpawn
  rw [htoken]
  by_cases hname : (Token.ofText s).name = ""
  · rw [if_pos hname, spawn_of_unnamed hname]
  · obtain ⟨enemyId, -, hspawn⟩ := spawn_of_named h hname
    rw [if_neg hname, hspawn]

lemma readInTurn_spawns {c : String} {l : List String} (h : ∀ s ∈ l, s ∈ Text.barSegments c) :
    readInTurn readSpawn l = .ok ⟨l.filterMap fun s => Spawn.ofToken? (.ofText s), []⟩ := by
  induction l with
  | nil => rfl
  | cons s rest ih =>
    apply readInTurn_cons.mpr
    refine ⟨_, _, readSpawn_segment (h s List.mem_cons_self),
      ih fun t ht => h t (List.mem_cons_of_mem s ht), ?_⟩
    rw [List.filterMap_cons]
    cases Spawn.ofToken? (.ofText s) <;> rfl

lemma segmentwise_spawns :
    Segmentwise readSpawn fun c => ⟨Spawn.parseCell (Scalar.text c), []⟩ := by
  apply segmentwise_of_accepted
  intro c
  unfold Spawn.parseCell
  rw [segments_text]
  exact readInTurn_spawns fun s hs => hs

/-! ## Single tokens -/

lemma action_parse_eq : Action.parse = readToken .action Action.ofToken := by
  funext token
  unfold Action.parse readToken
  split
  · rename_i field hfield
    rw [hfield]
  · rename_i hvalid
    split
    · rename_i field hfield
      exact absurd hfield (hvalid field)
    · rfl

/-- What is refused in a mechanic is caught and warned of. -/
lemma mechanic_caught (c : Scalar) :
    readToken .mechanic Mechanic.ofToken c = .ok (Mechanic.parse c) ∨
      ∃ field, readToken .mechanic Mechanic.ofToken c = .refused [⟨[field], .malformed⟩] ∧
        Mechanic.parse c = ⟨none, [.token .mechanic (.invalid field) c]⟩ := by
  by_cases h : ∃ field, Mechanic.ofToken c.token = .error (.invalid field)
  · obtain ⟨field, hfield⟩ := h
    right
    refine ⟨field, ?_, ?_⟩
    · unfold readToken
      rw [hfield]
    · unfold Mechanic.parse
      rw [hfield]
      rfl
  · left
    exact readToken_eq fun field hfield => h ⟨field, hfield⟩

lemma bar_of_refused {t : String} {problems : List Problem}
    (h : Action.parse (Scalar.text t) = .refused problems) : '|' ∈ t.toList := by
  by_contra hbar
  have hvalid : ∀ field, Action.ofToken (.ofText t) ≠ .error (.invalid field) := by
    intro field hfield
    exact (bar_notMem_parts hbar).2 0 ((action_invalid_iff_bar t).mp ⟨field, hfield⟩).2
  have hread : readToken .action Action.ofToken (Scalar.text t) = .ok _ := readToken_eq hvalid
  rw [action_parse_eq, hread] at h
  simp at h

/-- Every cell is read segment by segment, and whatever it holds, nothing is refused and nothing is
dropped without a warning, but for spawns without an enemy. A mechanic is read or warned of, and so
is a single action, unless it holds a bar and is refused. -/
theorem cells_segmentwise :
    (Segmentwise Action.parse (fun c => listed (Action.parseCell (Scalar.text c))) ∧
      KeepsCount fun c => Action.parseCell (Scalar.text c)) ∧
    (Segmentwise (readToken .requirement Requirement.ofToken)
        (fun c => listed (Requirement.parseCell (Scalar.text c))) ∧
      KeepsCount fun c => Requirement.parseCell (Scalar.text c)) ∧
    (Segmentwise readSpawn fun c => ⟨Spawn.parseCell (Scalar.text c), []⟩) ∧
    (∀ c : String, ValueOrWarning (Mechanic.parse c) ∧
      (readToken .mechanic Mechanic.ofToken c = .ok (Mechanic.parse c) ∨
        ∃ field, readToken .mechanic Mechanic.ofToken c = .refused [⟨[field], .malformed⟩] ∧
          Mechanic.parse c = ⟨none, [.token .mechanic (.invalid field) c]⟩)) ∧
    ∀ t : String, (∃ n, Action.parse t = .ok n ∧ ValueOrWarning n) ∨
      (∃ problems, Action.parse t = .refused problems) ∧ '|' ∈ t.toList := by
  have haction : ∀ c, ∀ s ∈ Text.barSegments c, ∀ field,
      Action.ofToken (.ofText s) ≠ .error (.invalid field) := fun c s hs => action_ne_invalid hs
  have hrequirement : ∀ c, ∀ s ∈ Text.barSegments c, ∀ field,
      Requirement.ofToken (.ofText s) ≠ .error (.invalid field) :=
    fun c s hs => requirement_ne_invalid hs
  refine ⟨⟨?_, keepsCount_tokens haction⟩, ⟨segmentwise_tokens hrequirement,
    keepsCount_tokens hrequirement⟩, segmentwise_spawns, fun c => ⟨?_, mechanic_caught c⟩,
    fun t => ?_⟩
  · rw [action_parse_eq]
    exact segmentwise_tokens haction
  · exact valueOrWarning_noteFault ..
  · cases h : Action.parse (Scalar.text t) with
    | ok n =>
      rw [action_parse_eq] at h
      exact .inl ⟨n, rfl, valueOrWarning_readToken h⟩
    | refused problems => exact .inr ⟨⟨problems, rfl⟩, bar_of_refused h⟩

end Gamebook.Proofs
