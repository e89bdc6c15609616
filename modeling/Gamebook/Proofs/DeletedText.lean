import Gamebook.Proofs.ImportedTexts
import Gamebook.Proofs.PayloadSearch

/-!
# What cleaning deletes

Cleaning is three searches, one for each kind of payloads; it only ever deletes, and it leaves the
texts without a payload alone. The blocks that the first search deletes are those of a plain scan:
from an opening tag through the next closing tag, until there is no such pair.
-/

namespace Gamebook.Proofs

open Package

/-! ## The scan for script blocks -/

/-- A script tag opens here: no word character goes on with its name. -/
def Opens (cs : List Char) : Prop :=
  ∃ opening rest, cs = opening ++ rest ∧ Spells "<script".toList opening ∧
    ∀ c ∈ rest.head?, Text.isWord c = false

/-- A script tag closes here. -/
def Closes (cs : List Char) : Prop :=
  ∃ closing rest, cs = closing ++ rest ∧ Spells "</script>".toList closing

/-- At no place of the text. -/
def Nowhere (P : List Char → Prop) (cs : List Char) : Prop := ∀ us vs, cs = us ++ vs → ¬P vs

/-- Behind some characters for the first time. -/
structure First (P : List Char → Prop) (before behind : List Char) : Prop where
  here : P behind
  earliest : ∀ us vs, before = us ++ vs → vs ≠ [] → ¬P (vs ++ behind)

/-- The scan of a text with a mark for each character: the character, or nothing if it belongs to a
block. -/
inductive Scan : List Char → List (Option Char) → Prop
  | noOpening {cs : List Char} (h : Nowhere Opens cs) : Scan cs (cs.map some)
  | noClosing {before opening rest : List Char} (hopening : Spells "<script".toList opening)
      (hfirst : First Opens before (opening ++ rest)) (hrest : Nowhere Closes rest) :
      Scan (before ++ opening ++ rest) ((before ++ opening ++ rest).map some)
  | block {before opening inside closing rest : List Char} {marks : List (Option Char)}
      (hopening : Spells "<script".toList opening) (hclosing : Spells "</script>".toList closing)
      (hfirst : First Opens before (opening ++ (inside ++ (closing ++ rest))))
      (hnext : First Closes inside (closing ++ rest)) (hrest : Scan rest marks) :
      Scan (before ++ (opening ++ inside ++ closing) ++ rest)
        (before.map some ++ (opening ++ inside ++ closing).map (fun _ => none) ++ marks)

section

variable {P : List Char → Prop} {c : Char} {cs us vs opening inside closing rest before : List Char}

lemma nowhere_append (h : Nowhere P (us ++ vs)) : Nowhere P vs :=
  fun before behind hvs => h (us ++ before) behind (by rw [hvs, List.append_assoc])

lemma exists_first (h : ¬Nowhere P cs) : ∃ before behind, cs = before ++ behind ∧
    First P before behind := by
  induction cs with
  | nil =>
    refine ⟨[], [], rfl, by_contra fun hnot => h fun us vs hcs hvs => hnot ?_, ?_⟩
    · obtain ⟨-, rfl⟩ := List.append_eq_nil_iff.mp hcs.symm
      exact hvs
    · intro us vs hcs hne
      exact absurd (List.append_eq_nil_iff.mp hcs.symm).2 hne
  | cons c cs ih =>
    by_cases hhere : P (c :: cs)
    · refine ⟨[], c :: cs, rfl, hhere, fun us vs hcs hne => ?_⟩
      exact absurd (List.append_eq_nil_iff.mp hcs.symm).2 hne
    · have hlater : ¬Nowhere P cs := by
        refine fun hnowhere => h fun us vs hcs hvs => ?_
        cases us with
        | nil =>
          obtain rfl : c :: cs = vs := hcs
          exact hhere hvs
        | cons u us => exact hnowhere us vs (List.cons.inj hcs).2 hvs
      obtain ⟨before, behind, rfl, hfirst⟩ := ih hlater
      refine ⟨c :: before, behind, rfl, hfirst.here, fun us vs hcs hne => ?_⟩
      cases us with
      | nil =>
        obtain rfl : c :: before = vs := hcs
        exact hhere
      | cons u us => exact hfirst.earliest us vs (List.cons.inj hcs).2 hne

lemma closes_iff : Closes cs ↔ Text.startsWith scriptClosing cs = true := startsWith_iff.symm

/-! ## Blocks under the pattern -/

lemma throughClosing_of_first (hclosing : Spells "</script>".toList closing)
    (h : First Closes inside (closing ++ rest)) (n : ℕ) :
    throughClosing n (inside ++ (closing ++ rest)) = some (n + inside.length + closing.length) := by
  induction inside generalizing n with
  | nil =>
    have hstarts := closes_iff.mp h.here
    cases closing with
    | nil => exact absurd hclosing (by decide)
    | cons c closing =>
      rw [List.nil_append, List.cons_append] at *
      rw [throughClosing, if_pos hstarts, length_of_spells hclosing]
      rfl
  | cons c inside ih =>
    have hnot : ¬Text.startsWith scriptClosing (c :: (inside ++ (closing ++ rest))) = true :=
      fun hstarts => h.earliest [] (c :: inside) rfl (by simp) (closes_iff.mpr hstarts)
    have hrest : First Closes inside (closing ++ rest) :=
      ⟨h.here, fun us vs hinside hne => h.earliest (c :: us) vs (by rw [hinside]; rfl) hne⟩
    rw [List.cons_append, throughClosing, if_neg hnot, ih hrest, List.length_cons]
    exact congrArg some (by omega)

lemma scriptBlock_of_opens (hopening : Spells "<script".toList opening)
    (h : Opens (opening ++ rest)) :
    scriptBlock (opening ++ rest) = (throughClosing opening.length rest).getD 0 := by
  obtain ⟨opening', rest', htext, hopening', hname⟩ := h
  obtain ⟨-, rfl⟩ := List.append_inj htext
    ((length_of_spells hopening).trans (length_of_spells hopening').symm)
  have hlength : scriptOpening.length = opening.length := (length_of_spells hopening).symm
  have hstarts : Text.startsWith scriptOpening (opening ++ rest) = true :=
    startsWith_iff.mpr ⟨_, _, rfl, hopening⟩
  have hhead : ¬rest.head?.any Text.isWord = true := by
    cases rest with
    | nil => simp
    | cons c rest => simpa using hname c rfl
  unfold scriptBlock
  dsimp only
  rw [if_pos hstarts, hlength, List.drop_left, if_neg hhead]

lemma opens_of_scriptBlock (h : ScriptBlock us) (vs : List Char) : Opens (us ++ vs) := by
  obtain ⟨opening, inside, closing, rfl, hopening, hinside, hclosing⟩ := h
  refine ⟨opening, inside ++ (closing ++ vs), by simp, hopening, ?_⟩
  cases inside with
  | cons c inside => exact hinside
  | nil =>
    have hbracket := notWord_of_closing hclosing
    cases closing with
    | nil => exact absurd hclosing (by decide)
    | cons c closing => exact hbracket

lemma scriptBlock_of_not_opens (h : ¬Opens cs) : scriptBlock cs = 0 := by
  by_contra hne
  obtain ⟨us, vs, rfl, hblock⟩ := exists_scriptBlock hne
  exact h (opens_of_scriptBlock hblock vs)

/-- Without a closing tag behind its opening tag no block begins in the text, nor does one where the
opening tag stands. -/
lemma scriptBlock_of_nowhere (hopening : Spells "<script".toList opening)
    (hrest : Nowhere Closes rest) (h : opening ++ rest = us ++ vs) : scriptBlock vs = 0 := by
  by_contra hne
  obtain ⟨_, behind, rfl, opening', inside, closing, rfl, hopening', -, hclosing⟩ :=
    exists_scriptBlock hne
  -- The tag that opens there takes as many characters as the first one, so its block ends in
  -- `rest`.
  have hlength : opening'.length = opening.length :=
    (length_of_spells hopening').trans (length_of_spells hopening).symm
  have hwhole : inside ++ (closing ++ behind) <:+ opening ++ rest :=
    ⟨us ++ opening', by rw [h]; simp⟩
  have hsuffix : inside ++ (closing ++ behind) <:+ rest := by
    refine List.suffix_of_suffix_length_le hwhole (List.suffix_append opening rest) ?_
    have htotal := congrArg List.length h
    simp only [List.length_append] at htotal ⊢
    omega
  obtain ⟨front, rfl⟩ := hsuffix
  exact nowhere_append (nowhere_append hrest) [] _ rfl ⟨closing, behind, rfl, hclosing⟩

/-! ## Marks -/

section

variable {p : Pattern}

lemma marksFrom_append
    (h : ∀ us vs, before = us ++ vs → vs ≠ [] → p (vs ++ rest) = 0) :
    marksFrom p 0 (before ++ rest) = before.map some ++ marksFrom p 0 rest := by
  induction before with
  | nil => rfl
  | cons c before ih =>
    have hhere : p (c :: (before ++ rest)) = 0 := h [] (c :: before) rfl (by simp)
    rw [List.cons_append, marksFrom, hhere]
    refine congrArg (some c :: ·) (ih fun us vs hbefore hne => h (c :: us) vs ?_ hne)
    rw [hbefore]
    rfl

lemma marksFrom_of_zero (h : ∀ us vs, cs = us ++ vs → p vs = 0) :
    marksFrom p 0 cs = cs.map some := by
  have hzero : ∀ us vs, cs = us ++ vs → vs ≠ [] → p (vs ++ []) = 0 := by
    intro us vs hcs _
    rw [List.append_nil]
    exact h us vs hcs
  have hmarks := marksFrom_append hzero
  rwa [List.append_nil, marksFrom, List.append_nil] at hmarks

lemma marksFrom_length (us vs : List Char) :
    marksFrom p us.length (us ++ vs) = us.map (fun _ => none) ++ marksFrom p 0 vs := by
  induction us with
  | nil => rfl
  | cons u us ih => exact congrArg (none :: ·) ih

lemma marksFrom_match (hp : p (us ++ vs) = us.length) (hne : us ≠ []) :
    marksFrom p 0 (us ++ vs) = us.map (fun _ => none) ++ marksFrom p 0 vs := by
  cases us with
  | nil => exact absurd rfl hne
  | cons u us =>
    rw [List.cons_append] at hp ⊢
    rw [marksFrom, hp]
    exact congrArg (none :: ·) (marksFrom_length us vs)

end

lemma marksFrom_of_scan {marks : List (Option Char)} (h : Scan cs marks) :
    marksFrom scriptBlock 0 cs = marks := by
  induction h with
  | noOpening h => exact marksFrom_of_zero fun us vs hcs => scriptBlock_of_not_opens (h us vs hcs)
  | @noClosing before opening rest hopening hfirst hrest =>
    have hbefore := marksFrom_append (p := scriptBlock) fun us vs hbefore hne =>
      scriptBlock_of_not_opens (hfirst.earliest us vs hbefore hne)
    have hbehind : marksFrom scriptBlock 0 (opening ++ rest) = (opening ++ rest).map some :=
      marksFrom_of_zero fun us vs h => scriptBlock_of_nowhere hopening hrest h
    rw [List.append_assoc, hbefore, hbehind, ← List.map_append]
  | @block before opening inside closing rest marks hopening hclosing hfirst hnext _ ih =>
    have htext : opening ++ inside ++ closing ++ rest =
        opening ++ (inside ++ (closing ++ rest)) := by simp
    have hbefore : marksFrom scriptBlock 0 (before ++ (opening ++ inside ++ closing ++ rest)) =
        before.map some ++ marksFrom scriptBlock 0 (opening ++ inside ++ closing ++ rest) := by
      refine marksFrom_append fun us vs hbefore hne => scriptBlock_of_not_opens ?_
      rw [htext]
      exact hfirst.earliest us vs hbefore hne
    have hspan : scriptBlock (opening ++ inside ++ closing ++ rest) =
        (opening ++ inside ++ closing).length := by
      rw [htext, scriptBlock_of_opens hopening hfirst.here,
        throughClosing_of_first hclosing hnext, Option.getD_some, List.length_append,
        List.length_append]
    have hne : opening ++ inside ++ closing ≠ [] := by
      intro hnil
      rw [(List.append_eq_nil_iff.mp hnil).2] at hclosing
      exact absurd hclosing (by decide)
    rw [List.append_assoc before, hbefore, marksFrom_match hspan hne, ih,
      ← List.append_assoc (before.map some)]

lemma exists_scan (cs : List Char) : ∃ marks, Scan cs marks := by
  induction hlength : cs.length using Nat.strong_induction_on generalizing cs with
  | _ n ih =>
    by_cases hopens : Nowhere Opens cs
    · exact ⟨_, .noOpening hopens⟩
    · obtain ⟨before, behind, rfl, hfirst⟩ := exists_first hopens
      obtain ⟨opening, rest, rfl, hopening, -⟩ := hfirst.here
      by_cases hcloses : Nowhere Closes rest
      · rw [← List.append_assoc]
        exact ⟨_, .noClosing hopening hfirst hcloses⟩
      · obtain ⟨inside, behind, rfl, hnext⟩ := exists_first hcloses
        obtain ⟨closing, rest, rfl, hclosing⟩ := hnext.here
        have hshorter : rest.length < n := by
          have hopeningLength := length_of_spells hopening
          have hletters : "<script".toList.length = 7 := rfl
          simp only [List.length_append] at hlength
          omega
        obtain ⟨marks, hmarks⟩ := ih _ hshorter rest rfl
        have hscan := Scan.block hopening hclosing hfirst hnext hmarks
        exact ⟨_, by simpa only [List.append_assoc] using hscan⟩

end

/-- The expressions for the payloads, in the order of the searches. -/
def payloadRegexes : List Regex := [scriptRegex, schemeRegex, handlerRegex]

lemma clean_iff_not_found {cs : List Char} : Clean cs ↔ ∀ r ∈ payloadRegexes, ¬r.FoundIn cs := by
  simp only [payloadRegexes, List.forall_mem_cons, List.not_mem_nil, false_imp_iff, implies_true,
    and_true, foundIn_iff runs_script finds_scriptBlock, foundIn_iff runs_scheme finds_scriptScheme,
    foundIn_iff runs_handler finds_inlineHandler, not_exists, not_and]
  unfold Clean Payload
  simp only [not_or, imp_and, forall_and]

/-- Cleaning searches for the payloads and only deletes; it leaves exactly the texts alone in which
no search finds anything. Of script blocks it deletes just what the plain scan marks. -/
theorem cleanText_deletes (s : String) :
    (cleanText s).toList.Sublist s.toList ∧
      (cleanText s = s ↔ ∀ r ∈ payloadRegexes, ¬r.FoundIn s.toList) ∧
      (cleanText s).toList = payloadRegexes.foldl (fun cs r => r.deleted cs) s.toList ∧
      ∀ marks, Scan s.toList marks ↔ scriptRegex.marks s.toList = marks := by
  refine ⟨?_, ?_, ?_, fun marks => ?_⟩
  · rw [toList_cleanText]
    exact (delete_sublist _ _).trans ((delete_sublist _ _).trans (delete_sublist _ _))
  · rw [← clean_iff_not_found, ← cleanChars_eq_self_iff, ← toList_cleanText, String.toList_inj]
  · simp only [payloadRegexes, List.foldl_cons, List.foldl_nil, deleted_eq runs_script,
      deleted_eq runs_scheme, deleted_eq runs_handler]
    exact toList_cleanText s
  · unfold Regex.marks
    rw [marksFrom_eq runs_script]
    constructor
    · exact marksFrom_of_scan
    · rintro rfl
      obtain ⟨marks, hscan⟩ := exists_scan s.toList
      rwa [marksFrom_of_scan hscan]

/-- A second opening tag within a block does not matter. -/
example : cleanText "a<Script>b<script>c</SCRIPT >d</scrıpt>e" = "ae" := by decide

end Gamebook.Proofs
