import Gamebook.Proofs.SegmentReading

/-!
# White space in cells

White space at the ends of a text, next to a colon or next to a bar goes away when the pieces of
the text are trimmed. So the tokens of a cell stay the same when white space comes or goes there,
and when blank segments come or go between its bars.
-/

namespace Gamebook.Proofs

/-- Nothing but white space. -/
def Blank (cs : List Char) : Prop := ∀ c ∈ cs, Text.isBlank c = true

instance (cs : List Char) : Decidable (Blank cs) :=
  List.decidableBAll (fun c => Text.isBlank c = true) cs

/-! ## Trimming -/

lemma trimBy_of_blank {cs : List Char} (h : Blank cs) : Text.trimBy Text.isBlank cs = [] :=
  trimBy_eq_nil_iff.mpr (List.all_eq_true.mpr h)

lemma trimBy_blank_append {blank : List Char} (h : Blank blank) (cs : List Char) :
    Text.trimBy Text.isBlank (blank ++ cs) = Text.trimBy Text.isBlank cs := by
  rw [trimBy_eq, trimBy_eq, List.dropWhile_append_of_pos h]

lemma trimBy_append_blank {blank : List Char} (h : Blank blank) (cs : List Char) :
    Text.trimBy Text.isBlank (cs ++ blank) = Text.trimBy Text.isBlank cs := by
  induction blank using List.reverseRecOn generalizing cs with
  | nil => rw [List.append_nil]
  | append_singleton blank c ih =>
    have hc : Text.isBlank c = true := h c (by simp)
    have hblank : Blank blank := fun d hd => h d (by simp [hd])
    rw [← List.append_assoc, ← ih hblank cs, trimBy_eq, trimBy_eq, List.dropWhile_append]
    split
    · rename_i hempty
      rw [List.isEmpty_iff.mp hempty, List.dropWhile_cons_of_pos hc]
      rfl
    · rw [List.rdropWhile_concat_pos _ _ _ hc]

lemma exists_blank_ends (cs : List Char) : ∃ before after, Blank before ∧ Blank after ∧
    cs = before ++ Text.trimBy Text.isBlank cs ++ after := by
  refine ⟨cs.takeWhile Text.isBlank, (cs.dropWhile Text.isBlank).rtakeWhile Text.isBlank,
    fun c hc => List.mem_takeWhile_imp hc, fun c hc => List.mem_rtakeWhile_imp hc, ?_⟩
  rw [trimBy_eq, List.append_assoc, List.rdropWhile_append_rtakeWhile,
    List.takeWhile_append_dropWhile]

lemma trim_of_blank {s : String} (h : Blank s.toList) : Text.trim s = "" := by
  unfold Text.trim
  rw [trimBy_of_blank h]

lemma trim_ends {before after : String} (hbefore : Blank before.toList)
    (hafter : Blank after.toList) (s : String) :
    Text.trim (before ++ s ++ after) = Text.trim s := by
  unfold Text.trim
  rw [String.toList_append, String.toList_append, trimBy_append_blank hafter,
    trimBy_blank_append hbefore]

/-! ## Trimmed pieces -/

/-- The pieces of a text between the separators, trimmed. -/
def trimmedPieces (sep : Char) (cs : List Char) : List (List Char) :=
  (cs.splitOn sep).map (Text.trimBy Text.isBlank)

section

variable {sep : Char} {cs ds blank before after : List Char}

lemma exists_last_of_mem {c : Char} (h : c ∈ cs) :
    ∃ front back, cs = front ++ c :: back ∧ c ∉ back := by
  obtain ⟨back, front, hcs, hback⟩ := List.eq_append_cons_of_mem (List.mem_reverse.mpr h)
  refine ⟨front.reverse, back.reverse, ?_, ?_⟩
  · rw [← List.reverse_reverse cs, hcs]
    simp
  · rwa [List.mem_reverse]

lemma notMem_of_blank (hsep : Text.isBlank sep = false) (h : Blank blank) : sep ∉ blank := by
  intro hmem
  rw [h sep hmem] at hsep
  exact Bool.noConfusion hsep

lemma trimmedPieces_sep (cs ds : List Char) :
    trimmedPieces sep (cs ++ sep :: ds) = trimmedPieces sep cs ++ trimmedPieces sep ds := by
  unfold trimmedPieces
  rw [List.splitOn_append_cons_self, List.map_append]

lemma trimmedPieces_single (h : sep ∉ cs) :
    trimmedPieces sep cs = [Text.trimBy Text.isBlank cs] := by
  unfold trimmedPieces
  rw [List.splitOn_eq_singleton h, List.map_singleton]

lemma trimmedPieces_blank_append (hsep : Text.isBlank sep = false) (h : Blank blank) :
    trimmedPieces sep (blank ++ cs) = trimmedPieces sep cs := by
  have hblank := notMem_of_blank hsep h
  by_cases hmem : sep ∈ cs
  · obtain ⟨front, back, rfl, hfront⟩ := List.eq_append_cons_of_mem hmem
    rw [← List.append_assoc, trimmedPieces_sep, trimmedPieces_sep,
      trimmedPieces_single (by simp [hblank, hfront]), trimBy_blank_append h,
      trimmedPieces_single hfront]
  · rw [trimmedPieces_single (by simp [hblank, hmem]), trimBy_blank_append h,
      trimmedPieces_single hmem]

lemma trimmedPieces_append_blank (hsep : Text.isBlank sep = false) (h : Blank blank) :
    trimmedPieces sep (cs ++ blank) = trimmedPieces sep cs := by
  have hblank := notMem_of_blank hsep h
  by_cases hmem : sep ∈ cs
  · obtain ⟨front, back, rfl, hback⟩ := exists_last_of_mem hmem
    have hlast : sep ∉ back ++ blank := by simp [hblank, hback]
    rw [List.append_assoc, List.cons_append, trimmedPieces_sep, trimmedPieces_sep,
      trimmedPieces_single hlast, trimBy_append_blank h, trimmedPieces_single hback]
  · rw [trimmedPieces_single (by simp [hblank, hmem]), trimBy_append_blank h,
      trimmedPieces_single hmem]

lemma trimmedPieces_trimBy (hsep : Text.isBlank sep = false) (cs : List Char) :
    trimmedPieces sep (Text.trimBy Text.isBlank cs) = trimmedPieces sep cs := by
  obtain ⟨before, after, hbefore, hafter, hcs⟩ := exists_blank_ends cs
  conv_rhs => rw [hcs]
  rw [trimmedPieces_append_blank hsep hafter, trimmedPieces_blank_append hsep hbefore]

lemma trimmedPieces_respaced (hsep : Text.isBlank sep = false) (hbefore : Blank before)
    (hafter : Blank after) : trimmedPieces sep (cs ++ before ++ sep :: (after ++ ds)) =
      trimmedPieces sep (cs ++ sep :: ds) := by
  rw [trimmedPieces_sep, trimmedPieces_sep, trimmedPieces_append_blank hsep hbefore,
    trimmedPieces_blank_append hsep hafter]

end

/-! ## Tokens -/

@[simp] lemma isBlank_colon : Text.isBlank ':' = false := by decide

@[simp] lemma isBlank_bar : Text.isBlank '|' = false := by decide

lemma colonParts_eq (s : String) :
    Text.colonParts s = (trimmedPieces ':' s.toList).map String.ofList := by
  unfold Text.colonParts trimmedPieces
  rw [splitAt_eq_splitOn, List.map_map]
  rfl

lemma token_congr {s t : String}
    (h : trimmedPieces ':' s.toList = trimmedPieces ':' t.toList) :
    Token.ofText s = Token.ofText t := by
  unfold Token.ofText
  rw [colonParts_eq, colonParts_eq, h]

@[simp] lemma token_trim (s : String) : Token.ofText (Text.trim s) = Token.ofText s := by
  apply token_congr
  rw [Text.trim, String.toList_ofList]
  exact trimmedPieces_trimBy isBlank_colon _

lemma token_respaced {before after : String} (hbefore : Blank before.toList)
    (hafter : Blank after.toList) (s t : String) :
    Token.ofText (s ++ before ++ ":" ++ after ++ t) = Token.ofText (s ++ ":" ++ t) := by
  apply token_congr
  simpa using trimmedPieces_respaced isBlank_colon hbefore hafter

/-! ## Tokens between bars -/

/-- The tokens of a cell. -/
def cellTokens (s : String) : List Token := (Text.barSegments s).map Token.ofText

lemma barPieces_eq (cs : List Char) : barPieces cs = (trimmedPieces '|' cs).filter (· ≠ []) := rfl

lemma barSegments_congr {s t : String} (h : barPieces s.toList = barPieces t.toList) :
    Text.barSegments s = Text.barSegments t := by
  rw [barSegments_eq, barSegments_eq, h]

@[simp] lemma barSegments_trim (s : String) :
    Text.barSegments (Text.trim s) = Text.barSegments s := by
  apply barSegments_congr
  rw [Text.trim, String.toList_ofList, barPieces_eq, barPieces_eq, trimmedPieces_trimBy isBlank_bar]

@[simp] lemma cellTokens_trim (s : String) : cellTokens (Text.trim s) = cellTokens s := by
  unfold cellTokens
  rw [barSegments_trim]

lemma barSegments_respaced {before after : String} (hbefore : Blank before.toList)
    (hafter : Blank after.toList) (s t : String) :
    Text.barSegments (s ++ before ++ "|" ++ after ++ t) = Text.barSegments (s ++ "|" ++ t) := by
  apply barSegments_congr
  have hpieces :
      trimmedPieces '|' (s.toList ++ before.toList ++ '|' :: (after.toList ++ t.toList)) =
        trimmedPieces '|' (s.toList ++ '|' :: t.toList) :=
    trimmedPieces_respaced isBlank_bar hbefore hafter
  rw [barPieces_eq, barPieces_eq]
  apply congrArg (List.filter _)
  simpa using hpieces

lemma barPieces_of_blank {cs : List Char} (h : Blank cs) : barPieces cs = [] := by
  rw [barPieces_eq, trimmedPieces_single (notMem_of_blank isBlank_bar h), trimBy_of_blank h]
  rfl

lemma barPieces_intercalate (segments : List (List Char)) :
    barPieces (['|'].intercalate segments) = segments.flatMap barPieces := by
  induction segments with
  | nil => rfl
  | cons first rest ih =>
    cases rest with
    | nil => simp
    | cons second rest =>
      rw [List.intercalate_cons_cons, List.append_assoc, List.singleton_append, barPieces_bar, ih]
      rfl

lemma barSegments_segment {blank : String} (h : Blank blank.toList) (front back : List String) :
    Text.barSegments ("|".intercalate (front ++ blank :: back)) =
      Text.barSegments ("|".intercalate (front ++ back)) := by
  have hbar : "|".toList = ['|'] := rfl
  apply barSegments_congr
  rw [String.toList_intercalate, String.toList_intercalate, hbar, barPieces_intercalate,
    barPieces_intercalate]
  simp [barPieces_of_blank h]

lemma barPieces_behind (cs : List Char) : ∃ front last, '|' ∉ last ∧
    ∀ ds, barPieces (cs ++ ds) = front ++ barPieces (last ++ ds) := by
  by_cases hmem : '|' ∈ cs
  · obtain ⟨front, last, rfl, hlast⟩ := exists_last_of_mem hmem
    refine ⟨barPieces front, last, hlast, fun ds => ?_⟩
    rw [List.append_assoc, List.cons_append, barPieces_bar]
  · exact ⟨[], cs, hmem, fun ds => rfl⟩

lemma barPieces_before (cs : List Char) : ∃ first back, '|' ∉ first ∧
    ∀ ds, barPieces (ds ++ cs) = barPieces (ds ++ first) ++ back := by
  by_cases hmem : '|' ∈ cs
  · obtain ⟨first, back, rfl, hfirst⟩ := List.eq_append_cons_of_mem hmem
    refine ⟨first, barPieces back, hfirst, fun ds => ?_⟩
    rw [← List.append_assoc, barPieces_bar]
  · exact ⟨cs, [], hmem, fun ds => (List.append_nil _).symm⟩

lemma cellTokens_eq (s : String) :
    cellTokens s = (barPieces s.toList).map fun piece => Token.ofText (String.ofList piece) := by
  unfold cellTokens
  rw [barSegments_eq, List.map_map]
  rfl

/-- A segment with a colon is not blank, and trimming it does not change its token. -/
lemma cellTokens_of_colon {s : String} (hcolon : ':' ∈ s.toList) (hbar : '|' ∉ s.toList) :
    cellTokens s = [Token.ofText s] := by
  have hne : Text.trimBy Text.isBlank s.toList ≠ [] := by
    rw [Ne, trimBy_eq_nil_iff, List.all_eq_true]
    intro hblank
    have hc := hblank ':' hcolon
    rw [isBlank_colon] at hc
    exact Bool.noConfusion hc
  rw [cellTokens_eq, barPieces_single hbar hne, List.map_singleton]
  exact congrArg (fun t => [t]) (token_trim s)

lemma cellTokens_around (s t : String) : ∃ front last first back, ∀ between : String,
    ':' ∈ between.toList → '|' ∉ between.toList →
    cellTokens (s ++ between ++ t) =
      front ++ [Token.ofText (last ++ between ++ first)] ++ back := by
  obtain ⟨front, last, hlast, hfront⟩ := barPieces_behind s.toList
  obtain ⟨first, back, hfirst, hback⟩ := barPieces_before t.toList
  let tokens (pieces : List (List Char)) :=
    pieces.map fun piece => Token.ofText (String.ofList piece)
  refine ⟨tokens front, String.ofList last, String.ofList first, tokens back, ?_⟩
  intro between hcolon hbar
  have hcut : barPieces (s ++ between ++ t).toList =
      front ++ barPieces (String.ofList last ++ between ++ String.ofList first).toList ++ back := by
    simp only [String.toList_append, String.toList_ofList]
    rw [hback, List.append_assoc s.toList, hfront, List.append_assoc last]
  rw [← cellTokens_of_colon (by simp [hcolon]) (by simp [hlast, hfirst, hbar]), cellTokens_eq, hcut,
    List.map_append, List.map_append, cellTokens_eq]

lemma cellTokens_respaced {before after : String} (hbefore : Blank before.toList)
    (hafter : Blank after.toList) (s t : String) :
    cellTokens (s ++ before ++ ":" ++ after ++ t) = cellTokens (s ++ ":" ++ t) := by
  -- only the segment with the colon changes, and the bars around it cut the same texts
  obtain ⟨front, last, first, back, hcell⟩ := cellTokens_around s t
  have hwide : '|' ∉ (before ++ ":" ++ after).toList := by
    simp [notMem_of_blank isBlank_bar hbefore, notMem_of_blank isBlank_bar hafter]
  calc cellTokens (s ++ before ++ ":" ++ after ++ t)
      = cellTokens (s ++ (before ++ ":" ++ after) ++ t) := by simp only [String.append_assoc]
    _ = front ++ [Token.ofText (last ++ (before ++ ":" ++ after) ++ first)] ++ back :=
        hcell _ (by simp) hwide
    _ = front ++ [Token.ofText (last ++ before ++ ":" ++ after ++ first)] ++ back := by
        simp only [String.append_assoc]
    _ = front ++ [Token.ofText (last ++ ":" ++ first)] ++ back := by
        rw [token_respaced hbefore hafter]
    _ = cellTokens (s ++ ":" ++ t) := (hcell ":" (by simp) (by simp)).symm

end Gamebook.Proofs
