import Gamebook.Cell.Token
import Gamebook.Proofs.NumberCell
import Mathlib.Data.List.DropRight

/-!
# Cells and tokens as texts

A cell of tokens without bars is cut into these tokens, and a token of parts without colons
is cut into these parts, when all of them are trimmed. Cutting gives nothing but trimmed
pieces without the separator.
-/

namespace Gamebook.Proofs

/-- White space at neither end. -/
def Trimmed (s : String) : Prop := Text.trim s = s

/-- White space at neither end of a list of characters. -/
def TrimmedChars (cs : List Char) : Prop := Text.trimBy Text.isBlank cs = cs

lemma trimmed_iff {s : String} : Trimmed s ↔ TrimmedChars s.toList := by
  unfold Trimmed TrimmedChars Text.trim
  constructor
  · intro h
    rw [← String.toList_inj, String.toList_ofList] at h
    exact h
  · intro h
    rw [h, String.ofList_toList]

lemma trimBy_eq {α : Type} (p : α → Bool) (l : List α) :
    Text.trimBy p l = (l.dropWhile p).rdropWhile p := rfl

lemma trimmedChars_iff {cs : List Char} :
    TrimmedChars cs ↔ (∀ c ∈ cs.head?, Text.isBlank c = false) ∧
      (∀ c ∈ cs.getLast?, Text.isBlank c = false) := by
  unfold TrimmedChars
  rw [trimBy_eq]
  constructor
  · intro h
    have hhead : cs.dropWhile Text.isBlank = cs := by
      have hle := (List.rdropWhile_prefix Text.isBlank (cs.dropWhile Text.isBlank)).length_le
      rw [h] at hle
      exact (List.dropWhile_suffix Text.isBlank).eq_of_length_le hle
    rw [hhead, List.rdropWhile_eq_self_iff] at h
    refine ⟨?_, ?_⟩
    · intro c hc
      cases cs with
      | nil => simp at hc
      | cons d rest =>
        rw [List.head?_cons, Option.mem_some_iff] at hc
        subst hc
        by_contra hblank
        rw [Bool.not_eq_false] at hblank
        rw [List.dropWhile_cons_of_pos hblank] at hhead
        have hle := List.dropWhile_suffix (l := rest) Text.isBlank |>.length_le
        rw [hhead, List.length_cons] at hle
        omega
    · intro c hc
      obtain ⟨hne, rfl⟩ := List.mem_getLast?_eq_getLast hc
      exact Bool.eq_false_iff.mpr (h hne)
  · rintro ⟨hhead, hlast⟩
    have hdrop : cs.dropWhile Text.isBlank = cs := by
      cases cs with
      | nil => rfl
      | cons c rest =>
        have hc : Text.isBlank c = false := hhead c rfl
        exact List.dropWhile_cons_of_neg (by simp [hc])
    rw [hdrop, List.rdropWhile_eq_self_iff]
    intro hne
    rw [hlast _ (List.getLast?_eq_some_getLast hne)]
    exact Bool.false_ne_true

lemma trimmedChars_nil : TrimmedChars [] := rfl

lemma trimmedChars_trimBy (cs : List Char) : TrimmedChars (Text.trimBy Text.isBlank cs) := by
  rw [trimmedChars_iff, trimBy_eq]
  refine ⟨?_, ?_⟩
  · intro c hc
    have hprefix := List.rdropWhile_prefix Text.isBlank (cs.dropWhile Text.isBlank)
    have hmem : c ∈ (cs.dropWhile Text.isBlank).head? := by
      obtain ⟨rest, hrest⟩ := hprefix
      rw [← hrest, List.head?_append, Option.mem_def.mp hc]
      rfl
    exact Bool.eq_false_iff.mpr fun hblank => by
      have hnot := List.head?_dropWhile_not Text.isBlank cs
      rw [Option.mem_def.mp hmem] at hnot
      simp [hblank] at hnot
  · intro c hc
    obtain ⟨hne, rfl⟩ := List.mem_getLast?_eq_getLast hc
    exact Bool.eq_false_iff.mpr (List.rdropWhile_last_not Text.isBlank _ hne)

lemma trimmed_trim (s : String) : Trimmed (Text.trim s) := by
  rw [trimmed_iff, Text.trim, String.toList_ofList]
  exact trimmedChars_trimBy s.toList

lemma trimmed_empty : Trimmed "" := rfl

lemma trimBy_cons_blank {c : Char} (cs : List Char) (h : Text.isBlank c = true) :
    Text.trimBy Text.isBlank (c :: cs) = Text.trimBy Text.isBlank cs := by
  rw [trimBy_eq, trimBy_eq, List.dropWhile_cons_of_pos h]

lemma trimBy_concat_blank {c : Char} {cs : List Char} (hcs : TrimmedChars cs)
    (h : Text.isBlank c = true) : Text.trimBy Text.isBlank (cs ++ [c]) = cs := by
  obtain ⟨hhead, -⟩ := trimmedChars_iff.mp hcs
  cases cs with
  | nil => simp [trimBy_eq, h]
  | cons d rest =>
    have hd : ¬Text.isBlank d = true := Bool.eq_false_iff.mp (hhead d rfl)
    rw [trimBy_eq, List.cons_append, List.dropWhile_cons_of_neg hd, ← List.cons_append,
      List.rdropWhile_concat_pos _ _ _ h]
    rw [TrimmedChars, trimBy_eq, List.dropWhile_cons_of_neg hd] at hcs
    exact hcs

lemma trimmedChars_join {as bs : List Char} {c : Char} (ha : TrimmedChars as)
    (hb : TrimmedChars bs) (hc : Text.isBlank c = false) : TrimmedChars (as ++ c :: bs) := by
  rw [trimmedChars_iff] at ha hb ⊢
  refine ⟨?_, ?_⟩
  · intro d hd
    cases as with
    | nil =>
      rw [List.nil_append, List.head?_cons, Option.mem_some_iff] at hd
      exact hd ▸ hc
    | cons a as => exact ha.1 d hd
  · intro d hd
    rw [List.getLast?_append, List.getLast?_cons, Option.some_or, Option.mem_some_iff] at hd
    cases hlast : bs.getLast? with
    | none =>
      rw [hlast, Option.getD_none] at hd
      exact hd ▸ hc
    | some e =>
      rw [hlast, Option.getD_some] at hd
      exact hb.2 d (hd ▸ hlast)

lemma trimmedChars_append {as bs : List Char} (between : List Char) (ha : TrimmedChars as)
    (hb : TrimmedChars bs) (hane : as ≠ []) (hbne : bs ≠ []) :
    TrimmedChars (as ++ between ++ bs) := by
  rw [trimmedChars_iff] at ha hb ⊢
  obtain ⟨a, as, rfl⟩ := List.exists_cons_of_ne_nil hane
  refine ⟨fun c hc => ha.1 c hc, ?_⟩
  intro c hc
  rw [List.getLast?_append, List.getLast?_eq_some_getLast hbne, Option.some_or] at hc
  exact hb.2 c (by rw [List.getLast?_eq_some_getLast hbne]; exact hc)

/-! ## Cutting at a separator -/

lemma splitAt_eq_splitOn (sep : Char) (cs : List Char) : Text.splitAt sep cs = cs.splitOn sep := by
  induction cs with
  | nil => rfl
  | cons c cs ih =>
    rw [Text.splitAt_cons, List.splitOn_cons_eq_if_modifyHead, ih]
    by_cases hc : c = sep
    · simp [hc]
    · have hne := List.splitOn_ne_nil sep cs
      obtain ⟨piece, pieces, hpieces⟩ := List.exists_cons_of_ne_nil hne
      simp [hc, hpieces, Text.consFirst]

lemma notMem_of_mem_splitOn {sep : Char} {cs piece : List Char} (h : piece ∈ cs.splitOn sep) :
    sep ∉ piece := by
  induction cs generalizing piece with
  | nil => simp_all
  | cons c cs ih =>
    rw [List.splitOn_cons_eq_if_modifyHead] at h
    obtain ⟨first, rest, hpieces⟩ := List.exists_cons_of_ne_nil (List.splitOn_ne_nil sep cs)
    rw [hpieces] at h ih
    by_cases hc : c = sep
    · rw [if_pos (by simp [hc]), List.mem_cons] at h
      obtain rfl | h := h
      · simp
      · exact ih h
    · rw [if_neg (by simp [hc]), List.modifyHead_cons, List.mem_cons] at h
      obtain rfl | h := h
      · have hfirst := ih List.mem_cons_self
        simp [hfirst, Ne.symm hc]
      · exact ih (List.mem_cons_of_mem _ h)

/-- A trimmed text without a colon. -/
def TokenPart (s : String) : Prop := Trimmed s ∧ ':' ∉ s.toList

lemma mem_trimBy {α : Type} {p : α → Bool} {l : List α} {x : α} (h : x ∈ Text.trimBy p l) : x ∈ l :=
  (List.dropWhile_suffix p).subset ((List.rdropWhile_prefix p _).subset h)

lemma tokenPart_of_mem_colonParts {s part : String} (h : part ∈ Text.colonParts s) :
    TokenPart part := by
  unfold Text.colonParts at h
  obtain ⟨piece, hpiece, rfl⟩ := List.mem_map.mp h
  rw [splitAt_eq_splitOn] at hpiece
  refine ⟨?_, ?_⟩
  · rw [trimmed_iff, String.toList_ofList]
    exact trimmedChars_trimBy piece
  · rw [String.toList_ofList]
    intro hmem
    exact notMem_of_mem_splitOn hpiece (mem_trimBy hmem)

/-- A token of trimmed parts without colons is cut into its parts. -/
theorem colonParts_intercalate {parts : List String} (hne : parts ≠ [])
    (h : ∀ p ∈ parts, TokenPart p) : Text.colonParts (":".intercalate parts) = parts := by
  have hcut : (":".intercalate parts).toList.splitOn ':' = parts.map String.toList := by
    rw [String.toList_intercalate]
    apply List.splitOn_intercalate
    · intro piece hpiece
      obtain ⟨p, hp, rfl⟩ := List.mem_map.mp hpiece
      exact (h p hp).2
    · simpa using hne
  unfold Text.colonParts
  rw [splitAt_eq_splitOn, hcut, List.map_map]
  calc parts.map _ = parts.map id := List.map_congr_left fun p hp => (h p hp).1
    _ = parts := List.map_id parts

lemma trimmed_intercalate {parts : List String} (h : ∀ p ∈ parts, Trimmed p) :
    Trimmed (":".intercalate parts) := by
  rw [trimmed_iff, String.toList_intercalate]
  induction parts with
  | nil => exact trimmedChars_nil
  | cons p rest ih =>
    have hp : TrimmedChars p.toList := trimmed_iff.mp (h p List.mem_cons_self)
    have hrest := ih fun q hq => h q (List.mem_cons_of_mem p hq)
    cases rest with
    | nil => simpa using hp
    | cons q rest =>
      rw [List.map_cons, List.map_cons, List.intercalate_cons_cons, List.append_assoc]
      exact trimmedChars_join hp hrest (by decide)

/-! ## Cells of tokens -/

/-- A token that may stand between the bars of a cell. -/
def Segment (s : String) : Prop := Trimmed s ∧ s ≠ "" ∧ '|' ∉ s.toList

/-- The pieces of a cell as lists of characters. -/
def barPieces (cs : List Char) : List (List Char) :=
  ((cs.splitOn '|').map (Text.trimBy Text.isBlank)).filter (· ≠ [])

lemma barSegments_eq (s : String) :
    Text.barSegments s = (barPieces s.toList).map String.ofList := by
  unfold Text.barSegments barPieces
  rw [splitAt_eq_splitOn, List.filter_map, List.filter_map, List.map_map]
  congr 1
  apply List.filter_congr
  intro piece _
  simp

lemma barPieces_bar (as bs : List Char) :
    barPieces (as ++ '|' :: bs) = barPieces as ++ barPieces bs := by
  unfold barPieces
  rw [List.splitOn_append_cons_self, List.map_append, List.filter_append]

lemma barPieces_blank (cs : List Char) : barPieces (' ' :: cs) = barPieces cs := by
  obtain ⟨first, rest, hpieces⟩ := List.exists_cons_of_ne_nil (List.splitOn_ne_nil '|' cs)
  have hne : ¬(' ' == '|') = true := by decide
  unfold barPieces
  rw [List.splitOn_cons_eq_if_modifyHead, if_neg hne, hpieces, List.modifyHead_cons,
    List.map_cons, List.map_cons, trimBy_cons_blank first (by decide)]

lemma barPieces_single {cs : List Char} (hbar : '|' ∉ cs) (hne : Text.trimBy Text.isBlank cs ≠ []) :
    barPieces cs = [Text.trimBy Text.isBlank cs] := by
  unfold barPieces
  rw [List.splitOn_eq_singleton hbar]
  simp [hne]

lemma filter_segments {tokens : List String} (h : ∀ t ∈ tokens, Segment t) :
    tokens.filter (· ≠ "") = tokens :=
  List.filter_eq_self.mpr fun t ht => by simpa using (h t ht).2.1

lemma trimmed_joinCell {tokens : List String} (h : ∀ t ∈ tokens, Segment t) :
    Trimmed (joinCell tokens) := by
  unfold joinCell
  rw [filter_segments h, trimmed_iff]
  cases tokens with
  | nil => exact trimmedChars_nil
  | cons t rest =>
    suffices hboth : TrimmedChars (" | ".intercalate (t :: rest)).toList ∧
        (" | ".intercalate (t :: rest)).toList ≠ [] from hboth.1
    induction rest generalizing t with
    | nil =>
      obtain ⟨htrim, hne, -⟩ := h t List.mem_cons_self
      rw [String.intercalate_singleton]
      exact ⟨trimmed_iff.mp htrim, by simpa using hne⟩
    | cons u rest ih =>
      obtain ⟨htrim, hne, -⟩ := h t List.mem_cons_self
      obtain ⟨hrest, hrestne⟩ := ih u fun v hv => h v (List.mem_cons_of_mem t hv)
      have hnil : t.toList ≠ [] := by simpa using hne
      rw [String.intercalate_cons_cons, String.toList_append, String.toList_append]
      exact ⟨trimmedChars_append _ (trimmed_iff.mp htrim) hrest hnil hrestne, by simp [hnil]⟩

/-- A cell is cut into the tokens that it joins. -/
theorem barSegments_joinCell {tokens : List String} (h : ∀ t ∈ tokens, Segment t) :
    Text.barSegments (joinCell tokens) = tokens := by
  unfold joinCell
  rw [filter_segments h, barSegments_eq]
  induction tokens with
  | nil => rfl
  | cons t rest ih =>
    obtain ⟨htrim, hne, hbar⟩ := h t List.mem_cons_self
    have hchars : TrimmedChars t.toList := trimmed_iff.mp htrim
    have hnil : t.toList ≠ [] := by simpa using hne
    cases rest with
    | nil =>
      rw [String.intercalate_singleton, barPieces_single hbar (by rw [hchars]; exact hnil), hchars]
      simp
    | cons u rest =>
      have hrest := ih fun v hv => h v (List.mem_cons_of_mem t hv)
      have hpad := trimBy_concat_blank hchars (c := ' ') (by decide)
      have hpiece : barPieces (t.toList ++ [' ']) = [t.toList] := by
        rw [barPieces_single (by simpa using hbar) (by rw [hpad]; exact hnil), hpad]
      have hlist : (" | ".intercalate (t :: u :: rest)).toList =
          (t.toList ++ [' ']) ++ '|' :: ' ' :: (" | ".intercalate (u :: rest)).toList := by
        rw [String.intercalate_cons_cons, String.toList_append, String.toList_append]
        simp
      rw [hlist, barPieces_bar, barPieces_blank, List.map_append, hrest, hpiece]
      simp

@[simp] lemma segments_text (s : String) : (Scalar.text s).segments = Text.barSegments s := by
  unfold Scalar.segments Scalar.truthy Scalar.plain
  by_cases hs : s = ""
  · subst hs
    rfl
  · simp [hs]

/-! ## Arguments and numbers as parts -/

lemma arg_chars {s : String} (h : isArgText s = true) :
    s ≠ "" ∧ ':' ∉ s.toList ∧ '|' ∉ s.toList := by
  unfold isArgText at h
  dsimp only at h
  split at h
  · rename_i first last hfirst hlast
    simp only [Bool.and_eq_true, List.all_eq_true] at h
    refine ⟨?_, ?_, ?_⟩
    · rintro rfl
      simp at hfirst
    · intro hmem
      exact absurd (h.2 _ hmem) (by decide)
    · intro hmem
      exact absurd (h.2 _ hmem) (by decide)
  · exact absurd h (by decide)

@[simp] lemma ofText?_text (a : Arg) : Arg.ofText? a.text = some a := dif_pos a.valid

lemma tokenPart_arg {a : Arg} (h : Trimmed a.text) : TokenPart a.text :=
  ⟨h, (arg_chars a.valid).2.1⟩

lemma numeralChar_plain {c : Char} (h : isNumeralChar c = true) :
    Text.isBlank c = false ∧ c ≠ ':' ∧ c ≠ '|' := by
  refine ⟨?_, ?_, ?_⟩
  · simp only [isNumeralChar, Bool.or_eq_true, decide_eq_true_eq] at h
    obtain (((hdigit | rfl) | rfl) | rfl) | rfl := h
    · obtain ⟨hlow, hhigh⟩ := isDigit_bounds hdigit
      simp only [Text.isBlank, Text.isWhite, Bool.or_eq_false_iff, Bool.and_eq_false_iff,
        decide_eq_false_iff_not, beq_eq_false_iff_ne]
      omega
    · decide
    · decide
    · decide
    · decide
  · rintro rfl
    exact absurd h (by decide)
  · rintro rfl
    exact absurd h (by decide)

lemma trimmedChars_numeral {cs : List Char} (h : NumeralChars cs) : TrimmedChars cs := by
  rw [trimmedChars_iff]
  refine ⟨?_, ?_⟩
  · intro c hc
    exact (numeralChar_plain (h c (List.mem_of_mem_head? hc))).1
  · intro c hc
    exact (numeralChar_plain (h c (List.mem_of_mem_getLast? hc))).1

lemma tokenPart_number {n : Number} (h : ExactNumber n) : TokenPart (String.ofList n.cell) := by
  refine ⟨?_, ?_⟩
  · rw [trimmed_iff, String.toList_ofList]
    exact trimmedChars_numeral (numeralChars_cell h)
  · rw [String.toList_ofList]
    exact notMem_numeralChars (numeralChars_cell h) (by decide)

lemma bar_notMem_number {n : Number} (h : ExactNumber n) : '|' ∉ (String.ofList n.cell).toList := by
  rw [String.toList_ofList]
  exact notMem_numeralChars (numeralChars_cell h) (by decide)

lemma cell_ne_empty {n : Number} (h : ExactNumber n) : String.ofList n.cell ≠ "" := by
  intro hempty
  have hread := ofText?_cell h
  have hnil : n.cell = [] := by simpa using hempty
  have hnone : Number.ofText? [] = none := by decide
  rw [hnil, hnone] at hread
  exact absurd hread (by simp)

lemma numberOr_cell {n : Number} (h : ExactNumber n) (fallback : Number) :
    (Scalar.text (String.ofList n.cell)).numberOr fallback = settledNumber n := by
  have htrim : TrimmedChars n.cell := trimmedChars_numeral (numeralChars_cell h)
  unfold Scalar.numberOr Scalar.plain
  dsimp only
  rw [String.toList_ofList, htrim, ofText?_cell h, Option.getD_some]

end Gamebook.Proofs
