import Gamebook.Proofs.TokenRoundTrip

/-!
# Faults of tokens

A part of a token is trimmed and holds no colon, so it can stand as an argument unless it is empty
or holds a bar. The segments of a cell hold no bar: whatever they write, a story can hold it. An
action that stands in a cell by itself can write an argument with a bar, which no story can hold.
-/

namespace Gamebook.Proofs

/-! ## Parts of a token -/

lemma isArgText_iff_of_part {s : String} (h : TokenPart s) :
    isArgText s = true ↔ s ≠ "" ∧ '|' ∉ s.toList := by
  constructor
  · intro hs
    exact ⟨(arg_chars hs).1, (arg_chars hs).2.2⟩
  · rintro ⟨hne, hbar⟩
    obtain ⟨htrim, hcolon⟩ := h
    obtain ⟨hhead, hlast⟩ := trimmedChars_iff.mp (trimmed_iff.mp htrim)
    have hnil : s.toList ≠ [] := by
      intro hnil
      exact hne (String.toList_inj.mp hnil)
    -- the ends are not blank, and blank takes in every white space that an argument may not have
    have hwhite : ∀ c, Text.isBlank c = false → Text.isWhite c = false := by
      intro c hc
      by_contra hwhite
      rw [Bool.not_eq_false] at hwhite
      exact absurd (Text.isBlank_of_isWhite hwhite) (by simp [hc])
    unfold isArgText
    dsimp only
    rw [List.head?_eq_some_head hnil, List.getLast?_eq_some_getLast hnil]
    simp only [Bool.and_eq_true, Bool.not_eq_true', List.all_eq_true, decide_eq_true_eq]
    refine ⟨⟨hwhite _ (hhead _ (List.head?_eq_some_head hnil)),
      hwhite _ (hlast _ (List.getLast?_eq_some_getLast hnil))⟩, fun c hc => ⟨?_, ?_⟩⟩
    · rintro rfl
      exact hcolon hc
    · rintro rfl
      exact hbar hc

lemma field_invalid_iff {name field s : String} :
    Token.field name s = .error (.invalid field) ↔ field = name ∧ isArgText s = false := by
  unfold Token.field Arg.ofText?
  by_cases h : isArgText s = true
  · rw [dif_pos h]
    simp [h]
  · rw [dif_neg h]
    simp [h, eq_comm]

lemma subset_of_mem_splitOn {sep : Char} {cs piece : List Char} (h : piece ∈ cs.splitOn sep) :
    piece ⊆ cs := by
  have hjoin : [sep].intercalate (cs.splitOn sep) = cs := List.intercalate_splitOn sep
  rw [← hjoin]
  generalize cs.splitOn sep = pieces at h
  intro c hc
  induction pieces with
  | nil => simp at h
  | cons first rest ih =>
    cases rest with
    | nil =>
      rw [List.mem_singleton] at h
      simpa [← h] using hc
    | cons second rest =>
      rw [List.intercalate_cons_cons]
      rcases List.mem_cons.mp h with rfl | h
      · simp [hc]
      · simp [ih h]

lemma toList_subset_of_part {s part : String} (h : part ∈ Text.colonParts s) :
    part.toList ⊆ s.toList := by
  unfold Text.colonParts at h
  obtain ⟨piece, hpiece, rfl⟩ := List.mem_map.mp h
  rw [splitAt_eq_splitOn] at hpiece
  rw [String.toList_ofList]
  exact fun c hc => subset_of_mem_splitOn hpiece (mem_trimBy hc)

lemma bar_notMem_parts {s : String} (h : '|' ∉ s.toList) :
    '|' ∉ (Token.ofText s).name.toList ∧ ∀ i, '|' ∉ ((Token.ofText s).argument i).toList := by
  have hparts : ∀ p ∈ Text.colonParts s, '|' ∉ p.toList :=
    fun p hp hbar => h (toList_subset_of_part hp hbar)
  unfold Token.argument Token.ofText
  split
  · exact ⟨by simp, by simp⟩
  · rename_i name arguments heq
    rw [heq] at hparts
    refine ⟨hparts name List.mem_cons_self, fun i => ?_⟩
    rw [List.getD_eq_getElem?_getD]
    cases hi : arguments[i]? with
    | none => simp
    | some p => exact hparts p (List.mem_cons_of_mem _ (List.mem_of_getElem? hi))

lemma bar_notMem_segment {cell s : String} (h : s ∈ Text.barSegments cell) : '|' ∉ s.toList := by
  rw [barSegments_eq] at h
  obtain ⟨piece, hpiece, rfl⟩ := List.mem_map.mp h
  unfold barPieces at hpiece
  obtain ⟨raw, hraw, rfl⟩ := List.mem_map.mp (List.mem_filter.mp hpiece).1
  rw [String.toList_ofList]
  exact fun hbar => notMem_of_mem_splitOn hraw (mem_trimBy hbar)

lemma isArgText_segment {cell s : String} (h : s ∈ Text.barSegments cell) (i : ℕ)
    (hne : (Token.ofText s).argument i ≠ "") : isArgText ((Token.ofText s).argument i) = true :=
  (isArgText_iff_of_part (tokenPart_argument s i)).mpr
    ⟨hne, (bar_notMem_parts (bar_notMem_segment h)).2 i⟩

/-! ## Actions -/

/-- The names of the actions that have a text as their first argument. -/
def textActions : List String := ["set_flag", "add_item", "remove_item", "heal"]

lemma map_invalid_iff {α : Type} {f : Arg → α} {name field s : String} :
    (Token.field name s).map f = .error (.invalid field) ↔ field = name ∧ isArgText s = false := by
  rw [← field_invalid_iff]
  cases Token.field name s <;> simp [Except.map]

lemma filled_invalid_iff {α : Type} {f : Arg → α} {name s : String} {missing : Except TokenFault α}
    (h : ∀ field, missing ≠ .error (.invalid field)) :
    (∃ field, (if s = "" then missing else (Token.field name s).map f) =
      .error (.invalid field)) ↔ s ≠ "" ∧ isArgText s = false := by
  by_cases hs : s = ""
  · simp [hs, h]
  · simp [hs, map_invalid_iff]

/-- Only an action whose first argument is a text can write what no story can hold. -/
lemma action_invalid_iff (t : Token) :
    (∃ field, Action.ofToken t = .error (.invalid field)) ↔
      t.name ∈ textActions ∧ t.argument 0 ≠ "" ∧ isArgText (t.argument 0) = false := by
  have hmissing : ∀ (name arguments field : String),
      (Except.error (.missing name arguments) : Except TokenFault Action) ≠
        .error (.invalid field) := by simp
  have hok : ∀ (a : Action) (field : String),
      (Except.ok a : Except TokenFault Action) ≠ .error (.invalid field) := by simp
  unfold Action.ofToken
  split
  · rename_i hname
    simp [textActions, hname]
  · rename_i hname
    rw [filled_invalid_iff (hmissing _ _), hname]
    simp [textActions]
  · rename_i hname
    rw [filled_invalid_iff (hmissing _ _), hname]
    simp [textActions]
  · rename_i hname
    rw [filled_invalid_iff (hmissing _ _), hname]
    simp [textActions]
  · rename_i hname
    simp [textActions, hname]
  · rename_i hname
    simp [textActions, hname]
  · rename_i hname
    rw [filled_invalid_iff (hok _), hname]
    simp [textActions]
  · rename_i hflag hadd hremove _ _ hheal
    have hother : t.name ∉ textActions := by
      simp only [textActions, List.mem_cons, List.not_mem_nil, or_false, not_or]
      exact ⟨hflag, hadd, hremove, hheal⟩
    simp [hother]

/-- An action that no story can hold has a bar in its first argument. -/
lemma action_invalid_iff_bar (s : String) :
    (∃ field, Action.ofToken (.ofText s) = .error (.invalid field)) ↔
      (Token.ofText s).name ∈ textActions ∧ '|' ∈ ((Token.ofText s).argument 0).toList := by
  rw [action_invalid_iff, ← Bool.not_eq_true, isArgText_iff_of_part (tokenPart_argument s 0)]
  refine and_congr_right fun _ => ⟨fun ⟨hne, h⟩ => by_contra fun hbar => h ⟨hne, hbar⟩, ?_⟩
  intro hbar
  refine ⟨?_, fun h => h.2 hbar⟩
  rintro hempty
  simp [hempty] at hbar

lemma action_ne_invalid {cell s : String} (h : s ∈ Text.barSegments cell) (field : String) :
    Action.ofToken (.ofText s) ≠ .error (.invalid field) := by
  intro hfault
  have hbar := ((action_invalid_iff_bar s).mp ⟨field, hfault⟩).2
  exact (bar_notMem_parts (bar_notMem_segment h)).2 0 hbar

/-! ## Requirements and spawns -/

lemma requirement_ne_invalid {cell s : String} (h : s ∈ Text.barSegments cell) (field : String) :
    Requirement.ofToken (.ofText s) ≠ .error (.invalid field) := by
  have harg := isArgText_segment h
  generalize Token.ofText s = t at harg
  have hmissing : ∀ (name arguments field : String),
      (Except.error (.missing name arguments) : Except TokenFault Requirement) ≠
        .error (.invalid field) := by simp
  intro hfault
  unfold Requirement.ofToken at hfault
  split at hfault
  · simp at hfault
  · obtain ⟨hne, hinvalid⟩ := (filled_invalid_iff (hmissing _ _)).mp ⟨field, hfault⟩
    simp [harg 0 hne] at hinvalid
  · obtain ⟨hne, hinvalid⟩ := (filled_invalid_iff (hmissing _ _)).mp ⟨field, hfault⟩
    simp [harg 0 hne] at hinvalid
  · obtain ⟨hne, hinvalid⟩ := (filled_invalid_iff (hmissing _ _)).mp ⟨field, hfault⟩
    simp [harg 0 hne] at hinvalid
  · split at hfault
    · simp at hfault
    · rename_i hfilled
      rw [not_or, not_or] at hfilled
      have hstat := field_text "stat" ⟨t.argument 0, harg 0 hfilled.1⟩
      have hoperator := field_text "operator" ⟨t.argument 1, harg 1 hfilled.2.1⟩
      rw [hstat, hoperator] at hfault
      simp [bind, Except.bind, pure, Except.pure] at hfault
  · simp at hfault

lemma spawn_of_unnamed {t : Token} (h : t.name = "") : Spawn.ofToken? t = none := by
  unfold Spawn.ofToken?
  rw [h]
  rfl

lemma spawn_of_named {cell s : String} (h : s ∈ Text.barSegments cell)
    (hne : (Token.ofText s).name ≠ "") : ∃ enemyId : Arg, enemyId.text = (Token.ofText s).name ∧
      Spawn.ofToken? (.ofText s) =
        some ⟨enemyId, (Scalar.text ((Token.ofText s).argument 0)).numberOr 1⟩ := by
  have hname : isArgText (Token.ofText s).name = true :=
    (isArgText_iff_of_part (tokenPart_name s)).mpr
      ⟨hne, (bar_notMem_parts (bar_notMem_segment h)).1⟩
  refine ⟨⟨_, hname⟩, rfl, ?_⟩
  unfold Spawn.ofToken? Arg.ofText?
  rw [dif_pos hname, Option.map_some]

end Gamebook.Proofs
