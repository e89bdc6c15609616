import Gamebook.Proofs.RowRoundTrip

/-!
# Reading back the text of a table

The text of a table with two columns or more is read as the records that were written, whatever
the cells hold, as long as none of them is longer than the limit of a field. With a longer cell
the whole text is refused.
-/

namespace Gamebook.Proofs

open Csv

/-- The reader can hold the field. -/
def FitsField (s : String) : Prop := s.toList.length ≤ fieldLimit

instance (s : String) : Decidable (FitsField s) :=
  inferInstanceAs (Decidable (s.toList.length ≤ fieldLimit))

/-- The reader with no field open. -/
def opening (place : Csv.Place) (fields : List String) (records : List (List String)) : State :=
  ⟨place, [], 0, fields, records⟩

lemma run_append (s : State) (as bs : List Char) :
    s.run (as ++ bs) =
      match s.run as with
      | .ok t => t.run bs
      | .error fault => .error fault := by
  induction as generalizing s with
  | nil => rfl
  | cons c as ih =>
    rw [List.cons_append, State.run, State.run]
    cases s.step c with
    | ok t => exact ih t
    | error fault => rfl

lemma run_append_ok {s t : State} {as : List Char} (bs : List Char) (h : s.run as = .ok t) :
    s.run (as ++ bs) = t.run bs := by
  rw [run_append, h]

lemma run_append_error {s : State} {as : List Char} {fault : Fault} (bs : List Char)
    (h : s.run as = .error fault) : s.run (as ++ bs) = .error fault := by
  rw [run_append, h]

lemma run_cons_ok {s t : State} {c : Char} (cs : List Char) (h : s.step c = .ok t) :
    s.run (c :: cs) = t.run cs := by
  rw [State.run, h]

/-! ## One field -/

section

variable (fields : List String) (records : List (List String))

lemma push_eq (s : State) (place : Csv.Place) (c : Char) :
    s.push place c =
      if s.size + 1 ≤ fieldLimit then
        .ok ⟨place, c :: s.pending, s.size + 1, s.fields, s.records⟩
      else .error .oversized := by
  unfold State.push
  by_cases hsize : fieldLimit ≤ s.size
  · rw [if_pos hsize, if_neg (by omega)]
  · rw [if_neg hsize, if_pos (by omega)]

lemma run_push_cons {s : State} {place : Csv.Place} {c : Char} (h : s.step c = s.push place c)
    (cs : List Char) :
    s.run (c :: cs) =
      if s.size + 1 ≤ fieldLimit then
        State.run ⟨place, c :: s.pending, s.size + 1, s.fields, s.records⟩ cs
      else .error .oversized := by
  rw [State.run, h, push_eq]
  by_cases hsize : s.size + 1 ≤ fieldLimit
  · rw [if_pos hsize, if_pos hsize]
  · rw [if_neg hsize, if_neg hsize]

/-- A text is read into the open field when each piece of it adds its character. -/
lemma run_pushes (place : Csv.Place) (piece : Char → List Char) {cs : List Char}
    (hpiece : ∀ c ∈ cs, ∀ pending n rest,
      State.run ⟨place, pending, n, fields, records⟩ (piece c ++ rest) =
        if n + 1 ≤ fieldLimit then
          State.run ⟨place, c :: pending, n + 1, fields, records⟩ rest
        else .error .oversized) (pending : List Char) (n : ℕ) :
    State.run ⟨place, pending, n, fields, records⟩ (cs.flatMap piece) =
      if cs = [] ∨ n + cs.length ≤ fieldLimit then
        .ok ⟨place, cs.reverse ++ pending, n + cs.length, fields, records⟩
      else .error .oversized := by
  induction cs generalizing pending n with
  | nil => simp [State.run]
  | cons c cs ih =>
    have hrest := ih fun d hd => hpiece d (List.mem_cons_of_mem c hd)
    have hlength : n + 1 + cs.length = n + (c :: cs).length := by
      rw [List.length_cons]
      omega
    rw [List.flatMap_cons, hpiece c List.mem_cons_self]
    by_cases hn : n + 1 ≤ fieldLimit
    · rw [if_pos hn, hrest, hlength]
      by_cases hfit : n + (c :: cs).length ≤ fieldLimit
      · rw [if_pos (.inr hfit), if_pos (.inr hfit)]
        simp
      · rw [if_neg, if_neg]
        · rintro (h | h)
          · exact absurd h (by simp)
          · exact hfit h
        · rintro (rfl | h)
          · exact hfit hn
          · exact hfit h
    · rw [if_neg hn, if_neg]
      rintro (h | h)
      · exact absurd h (by simp)
      · omega

lemma run_plain {cs : List Char} (hcs : ∀ c ∈ cs, isSpecial c = false) (pending : List Char)
    (n : ℕ) :
    State.run ⟨.plain, pending, n, fields, records⟩ cs =
      if cs = [] ∨ n + cs.length ≤ fieldLimit then
        .ok ⟨.plain, cs.reverse ++ pending, n + cs.length, fields, records⟩
      else .error .oversized := by
  have hrun := run_pushes fields records .plain (fun c => [c]) (by
      intro c hc pending n rest
      have hspecial := hcs c hc
      simp only [isSpecial, Bool.or_eq_false_iff, decide_eq_false_iff_not] at hspecial
      have hstep : State.step ⟨.plain, pending, n, fields, records⟩ c =
          State.push ⟨.plain, pending, n, fields, records⟩ .plain c := by
        unfold State.step
        simp [hspecial]
      exact run_push_cons hstep rest) pending n
  rw [List.flatMap_singleton'] at hrun
  exact hrun

lemma run_quoted (cs pending : List Char) (n : ℕ) :
    State.run ⟨.quoted, pending, n, fields, records⟩ (doubleQuotes cs) =
      if cs = [] ∨ n + cs.length ≤ fieldLimit then
        .ok ⟨.quoted, cs.reverse ++ pending, n + cs.length, fields, records⟩
      else .error .oversized := by
  apply run_pushes
  intro c _ pending n rest
  by_cases hc : c = '"'
  · -- A quote inside is two quotes: the first one seems to close the field.
    have hstep : State.step ⟨.closing, pending, n, fields, records⟩ c =
        State.push ⟨.closing, pending, n, fields, records⟩ .quoted c := by
      rw [hc]
      rfl
    have hclose : State.step ⟨.quoted, pending, n, fields, records⟩ c =
        .ok ⟨.closing, pending, n, fields, records⟩ := by
      rw [hc]
      rfl
    rw [if_pos hc, ← hc]
    exact (run_cons_ok _ hclose).trans (run_push_cons hstep rest)
  · have hstep : State.step ⟨.quoted, pending, n, fields, records⟩ c =
        State.push ⟨.quoted, pending, n, fields, records⟩ .quoted c := by
      unfold State.step
      simp [hc]
    rw [if_neg hc]
    exact run_push_cons hstep rest

/-- The reader behind a field: what is open is the field. -/
structure Behind (s : State) (field : String) (fields : List String)
    (records : List (List String)) : Prop where
  comma : s.step ',' = .ok (opening .field (field :: fields) records)
  lineFeed : s.step '\n' = .ok (opening .start [] ((field :: fields).reverse :: records))
  finish : s.finish = .ok (((field :: fields).reverse :: records).reverse)

lemma behind_of_place {place : Csv.Place} {pending : List Char} {n : ℕ} {field : String}
    (hfield : String.ofList pending.reverse = field)
    (hplace : place = .plain ∨ place = .closing ∨ place = .field) :
    Behind ⟨place, pending, n, fields, records⟩ field fields records := by
  subst hfield
  obtain rfl | rfl | rfl := hplace
  · exact ⟨rfl, rfl, rfl⟩
  · exact ⟨rfl, rfl, rfl⟩
  · exact ⟨rfl, rfl, rfl⟩

lemma run_escape_quoted {place : Csv.Place} (hplace : place = .start ∨ place = .field)
    {field : String} (hspecial : field.toList.any isSpecial = true) :
    (opening place fields records).run (escape field).toList =
      if FitsField field then
        .ok ⟨.closing, field.toList.reverse, field.toList.length, fields, records⟩
      else .error .oversized := by
  have hescape : (escape field).toList = '"' :: (doubleQuotes field.toList ++ ['"']) := by
    unfold escape
    dsimp only
    rw [if_pos hspecial, String.toList_ofList, List.cons_append]
  have hopen : (opening place fields records).step '"' = .ok ⟨.quoted, [], 0, fields, records⟩ := by
    obtain rfl | rfl := hplace <;> rfl
  have hinside := run_quoted fields records field.toList [] 0
  rw [hescape, run_cons_ok _ hopen]
  by_cases hfit : FitsField field
  · rw [if_pos (.inr (by simpa [FitsField] using hfit))] at hinside
    rw [run_append_ok _ hinside, if_pos hfit, List.append_nil, zero_add]
    rfl
  · rw [if_neg] at hinside
    · rw [run_append_error _ hinside, if_neg hfit]
    · rintro (h | h)
      · simp [h] at hspecial
      · exact hfit (by simpa [FitsField] using h)

lemma run_escape_plain {place : Csv.Place} (hplace : place = .start ∨ place = .field)
    {field : String} (hspecial : field.toList.any isSpecial = false) (hne : field ≠ "") :
    (opening place fields records).run (escape field).toList =
      if FitsField field then
        .ok ⟨.plain, field.toList.reverse, field.toList.length, fields, records⟩
      else .error .oversized := by
  have hescape : (escape field).toList = field.toList := by
    unfold escape
    dsimp only
    rw [hspecial]
    rfl
  have hnil : field.toList ≠ [] := by simpa using hne
  obtain ⟨c, cs, hcs⟩ := List.exists_cons_of_ne_nil hnil
  have hplain : ∀ d ∈ c :: cs, isSpecial d = false := by
    rw [hcs, List.any_eq_false] at hspecial
    intro d hd
    exact Bool.eq_false_iff.mpr (hspecial d hd)
  have hc := hplain c List.mem_cons_self
  simp only [isSpecial, Bool.or_eq_false_iff, decide_eq_false_iff_not] at hc
  have hstep : (opening place fields records).step c =
      (opening place fields records).push .plain c := by
    obtain rfl | rfl := hplace <;>
      simp [opening, State.step, State.beginRecord, State.begin, hc]
  have hrest := run_plain fields records
    (fun d hd => hplain d (List.mem_cons_of_mem c hd)) [c] 1
  have hfits : FitsField field ↔ 1 + cs.length ≤ fieldLimit := by
    unfold FitsField
    rw [hcs, List.length_cons, Nat.add_comm]
  have hone : 0 + 1 ≤ fieldLimit := by decide
  have hstart : (opening place fields records).run (c :: cs) =
      State.run ⟨.plain, [c], 1, fields, records⟩ cs :=
    (run_push_cons hstep cs).trans (if_pos hone)
  rw [hescape, hcs, hstart, hrest]
  by_cases hfit : FitsField field
  · rw [if_pos (.inr (hfits.mp hfit)), if_pos hfit, List.reverse_cons, List.length_cons,
      Nat.add_comm]
  · rw [if_neg, if_neg hfit]
    rintro (rfl | h)
    · exact hfit (hfits.mpr (by decide))
    · exact hfit (hfits.mpr h)

/-- A field that fits is read to its end, where no empty field begins a record. -/
lemma run_escape {place : Csv.Place} {field : String}
    (hplace : place = .field ∨ place = .start ∧ field ≠ "") (hfit : FitsField field) :
    ∃ s, (opening place fields records).run (escape field).toList = .ok s ∧
      Behind s field fields records := by
  have hopen : place = .start ∨ place = .field := by tauto
  have hpending : String.ofList field.toList.reverse.reverse = field := by simp
  cases hspecial : field.toList.any isSpecial with
  | true =>
    rw [run_escape_quoted fields records hopen hspecial, if_pos hfit]
    exact ⟨_, rfl, behind_of_place fields records hpending (by simp)⟩
  | false =>
    by_cases hne : field = ""
    · subst hne
      obtain rfl | ⟨-, h⟩ := hplace
      · exact ⟨_, rfl, behind_of_place fields records rfl (by simp)⟩
      · exact absurd rfl h
    · rw [run_escape_plain fields records hopen hspecial hne, if_pos hfit]
      exact ⟨_, rfl, behind_of_place fields records hpending (by simp)⟩

/-- A field in front of a comma is read to its end. -/
lemma run_escape_comma {place : Csv.Place} (hplace : place = .start ∨ place = .field)
    {field : String} (hfit : FitsField field) (cs : List Char) :
    (opening place fields records).run ((escape field).toList ++ ',' :: cs) =
      (opening .field (field :: fields) records).run cs := by
  by_cases hempty : place = .start ∧ field = ""
  · obtain ⟨rfl, rfl⟩ := hempty
    rfl
  · obtain ⟨s, hrun, hbehind⟩ := run_escape fields records (by tauto) hfit
    rw [run_append_ok _ hrun, run_cons_ok _ hbehind.comma]

lemma run_escape_oversized {place : Csv.Place} (hplace : place = .start ∨ place = .field)
    {field : String} (hfit : ¬FitsField field) :
    (opening place fields records).run (escape field).toList = .error .oversized := by
  have hne : field ≠ "" := by
    rintro rfl
    exact hfit (Nat.zero_le _)
  cases hspecial : field.toList.any isSpecial with
  | true => rw [run_escape_quoted fields records hplace hspecial, if_neg hfit]
  | false => rw [run_escape_plain fields records hplace hspecial hne, if_neg hfit]

end

/-! ## Lines and tables -/

/-- The reader at the end of a record. -/
structure AtEnd (s : State) (records : List (List String)) : Prop where
  lineFeed : s.step '\n' = .ok (opening .start [] records)
  finish : s.finish = .ok records.reverse

lemma line_cons (f g : String) (rest : List String) :
    (line (f :: g :: rest)).toList = (escape f).toList ++ ',' :: (line (g :: rest)).toList := by
  unfold line
  rw [List.map_cons, List.map_cons, String.intercalate_cons_cons, String.toList_append,
    String.toList_append, List.append_assoc]
  rfl

lemma run_line {place : Csv.Place} {l : List String} (hne : l ≠ [])
    (hplace : place = .field ∨ place = .start ∧ l ≠ [""]) (hfit : ∀ f ∈ l, FitsField f)
    (fields : List String) (records : List (List String)) :
    ∃ s, (opening place fields records).run (line l).toList = .ok s ∧
      AtEnd s ((fields.reverse ++ l) :: records) := by
  induction l generalizing place fields with
  | nil => exact absurd rfl hne
  | cons f l ih =>
    have hf : FitsField f := hfit f List.mem_cons_self
    cases l with
    | nil =>
      have hfield : place = .field ∨ place = .start ∧ f ≠ "" := by simpa using hplace
      obtain ⟨s, hrun, hbehind⟩ := run_escape fields records hfield hf
      have hline : line [f] = escape f := String.intercalate_singleton
      rw [hline]
      refine ⟨s, hrun, ?_⟩
      rw [← List.reverse_cons]
      exact ⟨hbehind.lineFeed, hbehind.finish⟩
    | cons g rest =>
      obtain ⟨s, hrun, hend⟩ := ih (by simp) (.inl rfl)
        (fun e he => hfit e (List.mem_cons_of_mem f he)) (f :: fields)
      rw [line_cons, run_escape_comma fields records (by tauto) hf]
      refine ⟨s, hrun, ?_⟩
      rw [List.reverse_cons, List.append_assoc] at hend
      exact hend

/-- A field that does not fit stops the reader wherever it stands in a line. -/
lemma run_line_oversized {place : Csv.Place} (hplace : place = .start ∨ place = .field)
    {l : List String} (hfit : ∃ f ∈ l, ¬FitsField f) (fields : List String)
    (records : List (List String)) :
    (opening place fields records).run (line l).toList = .error .oversized := by
  induction l generalizing place fields with
  | nil => simp at hfit
  | cons f l ih =>
    by_cases hf : FitsField f
    · obtain ⟨e, he, hoversized⟩ := hfit
      obtain rfl | he := List.mem_cons.mp he
      · exact absurd hf hoversized
      · cases l with
        | nil => simp at he
        | cons g rest =>
          rw [line_cons, run_escape_comma fields records hplace hf]
          exact ih (.inr rfl) ⟨e, he, hoversized⟩ (f :: fields)
    · have hrun := run_escape_oversized fields records hplace hf
      cases l with
      | nil =>
        have hline : line [f] = escape f := String.intercalate_singleton
        rw [hline]
        exact hrun
      | cons g rest =>
        rw [line_cons]
        exact run_append_error _ hrun

/-- The text of lines. -/
def linesText (lines : List (List String)) : List Char :=
  ("\n".intercalate (lines.map line)).toList

lemma linesText_cons (l m : List String) (rest : List (List String)) :
    linesText (l :: m :: rest) = (line l).toList ++ '\n' :: linesText (m :: rest) := by
  unfold linesText
  rw [List.map_cons, List.map_cons, String.intercalate_cons_cons, String.toList_append,
    String.toList_append, List.append_assoc]
  rfl

lemma linesText_singleton (l : List String) : linesText [l] = (line l).toList :=
  congrArg String.toList String.intercalate_singleton

/-- The records that lines are read as: an empty line is a record without fields, and none at the
end. -/
def readBack : List (List String) → List (List String)
  | [] => []
  | l :: lines =>
    if l = [""] then (if lines = [] then [] else [] :: readBack lines) else l :: readBack lines

lemma readBack_eq {lines : List (List String)} (h : [""] ∉ lines) : readBack lines = lines := by
  induction lines with
  | nil => rfl
  | cons l lines ih =>
    rw [List.mem_cons, not_or] at h
    rw [readBack, if_neg (Ne.symm h.1), ih h.2]

lemma run_lines {lines : List (List String)} (hne : lines ≠ []) (hlines : [] ∉ lines)
    (hfit : ∀ l ∈ lines, ∀ f ∈ l, FitsField f) (records : List (List String)) :
    ∃ s, (opening .start [] records).run (linesText lines) = .ok s ∧
      s.finish = .ok (records.reverse ++ readBack lines) := by
  induction lines generalizing records with
  | nil => exact absurd rfl hne
  | cons l lines ih =>
    rw [List.mem_cons, not_or] at hlines
    have hrest := fun hne => ih hne hlines.2 fun k hk => hfit k (List.mem_cons_of_mem l hk)
    rw [readBack]
    by_cases hempty : l = [""]
    · -- Nothing is written for the line: a line feed or the end of the text comes next.
      have hline : (line l).toList = [] := by
        rw [hempty]
        decide
      rw [if_pos hempty]
      cases lines with
      | nil =>
        rw [linesText_singleton, hline]
        exact ⟨_, rfl, by simp [opening, State.finish]⟩
      | cons m rest =>
        obtain ⟨t, hrun, hfinish⟩ := hrest (by simp) ([] :: records)
        rw [linesText_cons, hline, List.nil_append, if_neg (by simp)]
        refine ⟨t, hrun, ?_⟩
        rw [hfinish]
        simp
    · obtain ⟨s, hrun, hend⟩ := run_line (Ne.symm hlines.1) (.inr ⟨rfl, hempty⟩)
        (hfit l List.mem_cons_self) [] records
      rw [if_neg hempty]
      cases lines with
      | nil =>
        rw [linesText_singleton]
        refine ⟨s, hrun, ?_⟩
        rw [hend.finish]
        simp [readBack]
      | cons m rest =>
        obtain ⟨t, hrest, hfinish⟩ := hrest (by simp) (l :: records)
        rw [linesText_cons, run_append_ok _ hrun, run_cons_ok _ hend.lineFeed]
        refine ⟨t, hrest, ?_⟩
        rw [hfinish]
        simp

lemma records_readBack {lines : List (List String)} (hne : lines ≠ []) (hlines : [] ∉ lines)
    (hfit : ∀ l ∈ lines, ∀ f ∈ l, FitsField f) :
    Csv.records (linesText lines) = .ok (readBack lines) := by
  have hinitial : State.initial = opening .start [] [] := rfl
  obtain ⟨s, hrun, hfinish⟩ := run_lines hne hlines hfit []
  unfold Csv.records
  rw [hinitial, hrun]
  exact hfinish

lemma run_lines_oversized {lines : List (List String)} (hlength : ∀ l ∈ lines, 2 ≤ l.length)
    (hfit : ∃ l ∈ lines, ∃ f ∈ l, ¬FitsField f) (records : List (List String)) :
    (opening .start [] records).run (linesText lines) = .error .oversized := by
  induction lines generalizing records with
  | nil => simp at hfit
  | cons l lines ih =>
    by_cases hl : ∀ f ∈ l, FitsField f
    · obtain ⟨m, hm, f, hf, hoversized⟩ := hfit
      obtain rfl | hm := List.mem_cons.mp hm
      · exact absurd (hl f hf) hoversized
      have htwo : 2 ≤ l.length := hlength l List.mem_cons_self
      have hne : l ≠ [] := by
        rintro rfl
        simp at htwo
      have hempty : l ≠ [""] := by
        rintro rfl
        simp at htwo
      obtain ⟨s, hrun, hend⟩ := run_line hne (.inr ⟨rfl, hempty⟩) hl [] records
      cases lines with
      | nil => simp at hm
      | cons k rest =>
        rw [linesText_cons, run_append_ok _ hrun, run_cons_ok _ hend.lineFeed]
        exact ih (fun k hk => hlength k (List.mem_cons_of_mem l hk)) ⟨m, hm, f, hf, hoversized⟩ _
    · have hrun := run_line_oversized (.inl rfl) (by simpa using hl) [] records
      cases lines with
      | nil =>
        rw [linesText_singleton]
        exact hrun
      | cons m rest =>
        rw [linesText_cons]
        exact run_append_error _ hrun

/-- The text of lines of two fields or more is read as these lines exactly when every field fits. -/
theorem records_linesText {lines : List (List String)} (hne : lines ≠ [])
    (hlength : ∀ l ∈ lines, 2 ≤ l.length) :
    Csv.records (linesText lines) =
      if ∀ l ∈ lines, ∀ f ∈ l, FitsField f then .ok lines else .error .oversized := by
  have htwo : ∀ l, l.length < 2 → l ∉ lines := fun l hl hmem => by
    have := hlength l hmem
    omega
  by_cases hfit : ∀ l ∈ lines, ∀ f ∈ l, FitsField f
  · rw [if_pos hfit, records_readBack hne (htwo [] (by decide)) hfit,
      readBack_eq (htwo [""] (by decide))]
  · have hinitial : State.initial = opening .start [] [] := rfl
    unfold Csv.records
    rw [if_neg hfit, hinitial, run_lines_oversized hlength (by simpa using hfit) []]

/-! ## Rows -/

section

variable {κ α : Type} [DecidableEq κ]

lemma put_new {key : κ} (value : α) {entries : List (κ × α)} (h : key ∉ entries.map Prod.fst) :
    Entries.put key value entries = entries ++ [(key, value)] := by
  induction entries with
  | nil => rfl
  | cons entry entries ih =>
    have hkey : entry.1 ≠ key := fun heq => h (heq ▸ List.mem_cons_self)
    have hrest : key ∉ entries.map Prod.fst := fun hmem => h (List.mem_cons_of_mem _ hmem)
    rw [Entries.put, if_neg hkey, ih hrest, List.cons_append]

lemma ofPairs_of_nodup {pairs : List (κ × α)} (h : (pairs.map Prod.fst).Nodup) :
    Entries.ofPairs pairs = pairs := by
  have hfold : ∀ rest entries : List (κ × α), ((entries ++ rest).map Prod.fst).Nodup →
      rest.foldl (fun entries entry => Entries.put entry.1 entry.2 entries) entries =
        entries ++ rest := by
    intro rest
    induction rest with
    | nil => simp
    | cons pair rest ih =>
      intro entries hnodup
      obtain ⟨key, value⟩ := pair
      have hnew : key ∉ entries.map Prod.fst := by
        rw [List.map_append, List.map_cons] at hnodup
        intro hmem
        exact (List.nodup_append.mp hnodup).2.2 _ hmem _ List.mem_cons_self rfl
      rw [List.foldl_cons]
      dsimp only
      rw [put_new value hnew, ih _ (by simpa using hnodup)]
      simp
  exact hfold pairs [] h

end

lemma csvRow_eq {columns cells : List String} (hlength : cells.length = columns.length)
    (hnodup : columns.Nodup) (hempty : "" ∉ columns) :
    Csv.row columns cells = filledRow (columns.zip (cells.map Text.trim)) := by
  have hnamed : (columns.zip cells).filter (fun pair => pair.1 ≠ "") = columns.zip cells := by
    rw [List.filter_eq_self]
    intro pair hpair
    have hmem := (List.of_mem_zip hpair).1
    rw [decide_eq_true_eq]
    exact fun heq => hempty (heq ▸ hmem)
  unfold Csv.row filledRow
  dsimp only
  rw [hlength, Nat.sub_self, List.replicate_zero, List.append_nil, hnamed, ofPairs_of_nodup]
  · rw [List.zip_map_right, List.map_map]
    rfl
  · rw [List.map_map]
    have hkeys : (columns.zip cells).map Prod.fst = columns := List.map_fst_zip hlength.ge
    exact hkeys.symm ▸ hnodup

lemma rowHolds_csvRow {columns cells : List String} (hlength : cells.length = columns.length)
    (hnodup : columns.Nodup) (hempty : "" ∉ columns) :
    RowHolds (Csv.row columns cells) columns cells := by
  have hpairs : columns.zip (cells.map Text.trim) =
      (columns.zip cells).map (fun pair => (pair.1, Text.trim pair.2)) := by
    rw [List.zip_map_right]
    rfl
  have hsame : columns.length = (cells.map Text.trim).length := by
    rw [List.length_map, hlength]
  have hholds := rowHolds_filledRow hsame
  rw [csvRow_eq hlength hnodup hempty]
  refine ⟨hholds.keys, ?_⟩
  intro column
  rw [hholds.cell, hpairs, lookup_map]
  cases (columns.zip cells).lookup column with
  | none => rfl
  | some s => exact trimmed_trim s

lemma cells_of_zip {columns cells : List String} (hlength : cells.length = columns.length)
    (hnodup : columns.Nodup) :
    (columns.map fun c => (Entries.get? c (columns.zip cells)).getD "") = cells := by
  induction columns generalizing cells with
  | nil => simpa [eq_comm] using hlength
  | cons column columns ih =>
    cases cells with
    | nil => simp at hlength
    | cons cell cells =>
      obtain ⟨hnew, hrest⟩ := List.nodup_cons.mp hnodup
      have hcells : cells.length = columns.length := by simpa using hlength
      have htail := ih hcells hrest
      rw [List.zip_cons_cons, List.map_cons]
      congr 1
      · unfold Entries.get?
        rw [List.lookup_cons_self, Option.getD_some]
      · refine Eq.trans (List.map_congr_left ?_) htail
        intro c hc
        have hbeq : (c == column) = false :=
          beq_eq_false_iff_ne.mpr fun heq => hnew (heq ▸ hc)
        unfold Entries.get?
        simp only [List.lookup_cons, hbeq]

/-! ## The tables of a story -/

/-- The lines of the table of a kind: the header and the cells of the entities. -/
def storyLines (s : Story) : EntityKind → List (List String)
  | .node => Node.columns s.slots :: s.nodes.toList.map (Node.cells s.slots)
  | .item => Item.columns :: s.items.toList.map Item.cells
  | .enemy => Enemy.columns :: s.enemies.toList.map Enemy.cells
  | .encounter => Encounter.columns :: s.encounters.toList.map Encounter.cells

/-- Every field of the tables fits. -/
def FitsFields (s : Story) : Prop :=
  ∀ kind, ∀ l ∈ storyLines s kind, ∀ f ∈ l, FitsField f

/-- The story has tables, whose columns can be numbered, and every field of them fits. -/
structure FitsTables (s : Story) : Prop where
  numbered : s.hasNumberedSlots = true
  fields : FitsFields s

lemma write_eq {α : Type} {columns : List String} {l : List α} {cellsOf : α → List String}
    (hnodup : columns.Nodup) (hlength : ∀ x ∈ l, (cellsOf x).length = columns.length) :
    (Csv.write columns (l.map fun x => columns.zip (cellsOf x))).toList =
      linesText (columns :: l.map cellsOf) := by
  have hcells : (l.map fun x => columns.zip (cellsOf x)).map
      (fun row => line (columns.map fun c => (Entries.get? c row).getD "")) =
        (l.map cellsOf).map line := by
    rw [List.map_map, List.map_map]
    apply List.map_congr_left
    intro x hx
    exact congrArg line (cells_of_zip (hlength x hx) hnodup)
  unfold Csv.write linesText
  rw [hcells, List.map_cons]

lemma nodeCells_length (slots : ℕ) (n : Node) :
    (n.cells slots).length = (Node.columns slots).length := (nodeColumns_length slots n).symm

lemma table_eq (s : Story) (kind : EntityKind) :
    (s.table kind).toList = linesText (storyLines s kind) := by
  cases kind with
  | node => exact write_eq (nodeColumns_nodup s.slots) fun n _ => nodeCells_length s.slots n
  | item => exact write_eq (by decide) fun _ _ => rfl
  | enemy => exact write_eq (by decide) fun _ _ => rfl
  | encounter => exact write_eq (by decide) fun _ _ => rfl

lemma two_le_storyLines (s : Story) (kind : EntityKind) :
    ∀ l ∈ storyLines s kind, 2 ≤ l.length := by
  have hnode : 2 ≤ (Node.columns s.slots).length := by
    rw [nodeColumns_eq, List.length_append]
    simp only [plainColumns, List.length_cons]
    omega
  intro l hl
  cases kind with
  | node =>
    obtain rfl | hl := List.mem_cons.mp hl
    · exact hnode
    · obtain ⟨n, -, rfl⟩ := List.mem_map.mp hl
      rw [nodeCells_length]
      exact hnode
  | item =>
    obtain rfl | hl := List.mem_cons.mp hl
    · decide
    · obtain ⟨i, -, rfl⟩ := List.mem_map.mp hl
      simp [Item.cells]
  | enemy =>
    obtain rfl | hl := List.mem_cons.mp hl
    · decide
    · obtain ⟨e, -, rfl⟩ := List.mem_map.mp hl
      simp [Enemy.cells]
  | encounter =>
    obtain rfl | hl := List.mem_cons.mp hl
    · decide
    · obtain ⟨e, -, rfl⟩ := List.mem_map.mp hl
      simp [Encounter.cells]

/-- The table of a kind is read as its lines exactly when all of its fields fit. -/
theorem records_table (s : Story) (kind : EntityKind) :
    Csv.records (s.table kind).toList =
      if ∀ l ∈ storyLines s kind, ∀ f ∈ l, FitsField f then .ok (storyLines s kind)
      else .error .oversized := by
  have hne : storyLines s kind ≠ [] := by
    cases kind <;> exact List.cons_ne_nil _ _
  rw [table_eq]
  exact records_linesText hne (two_le_storyLines s kind)

lemma notBlank_of_trimmed {s : String} (htrim : Trimmed s) (hne : s ≠ "") :
    Text.isBlankText s = false := by
  have hnil : s.toList ≠ [] := by simpa using hne
  obtain ⟨c, cs, hcs⟩ := List.exists_cons_of_ne_nil hnil
  have hhead := (trimmedChars_iff.mp (trimmed_iff.mp htrim)).1 c (by rw [hcs]; rfl)
  unfold Text.isBlankText
  rw [hcs, List.all_cons, hhead, Bool.false_and]

lemma rows_of_lines {α : Type} {columns : List String} {l : List α} {cellsOf : α → List String}
    (htrim : ∀ c ∈ columns, Trimmed c) (hnodup : columns.Nodup) (hempty : "" ∉ columns)
    (hlength : ∀ x ∈ l, (cellsOf x).length = columns.length)
    (hshown : ∀ x ∈ l, ∃ cell ∈ cellsOf x, Text.isBlankText cell = false) :
    List.Forall₂ (fun row x => RowHolds row columns (cellsOf x))
      (Csv.rows (columns :: l.map cellsOf)) l := by
  have hkept : (l.map cellsOf).filter (fun cells => cells.any fun cell => !Text.isBlankText cell) =
      l.map cellsOf := by
    rw [List.filter_eq_self]
    intro cells hcells
    obtain ⟨x, hx, rfl⟩ := List.mem_map.mp hcells
    obtain ⟨cell, hcell, hblank⟩ := hshown x hx
    exact List.any_eq_true.mpr ⟨cell, hcell, by rw [hblank]; rfl⟩
  have hheader : columns.map Text.trim = columns :=
    (List.map_congr_left fun c hc => htrim c hc).trans (List.map_id columns)
  unfold Csv.rows
  dsimp only
  rw [hkept, hheader, List.map_map, List.forall₂_map_left_iff, List.forall₂_same]
  intro x hx
  exact rowHolds_csvRow (hlength x hx) hnodup hempty

lemma trimmed_choiceColumn (slot : ℕ) {field : String} (h : field ∈ slotFields) :
    Trimmed (choiceColumn slot field) := by
  have hfield : Trimmed field ∧ field ≠ "" := by
    simp only [slotFields, List.mem_cons, List.not_mem_nil, or_false] at h
    obtain rfl | rfl | rfl | rfl := h <;> decide
  have hnil : field.toList ≠ [] := by simpa using hfield.2
  have hprefix : TrimmedChars ['c', 'h', 'o', 'i', 'c', 'e'] := by
    unfold TrimmedChars
    decide
  have happend := trimmedChars_append (decimalDigits slot ++ ['_']) hprefix
    (trimmed_iff.mp hfield.1) (by simp) hnil
  rw [trimmed_iff, choiceColumn_toList]
  simpa using happend

lemma trimmed_nodeColumns (slots : ℕ) : ∀ c ∈ Node.columns slots, Trimmed c := by
  have hplain : ∀ c ∈ plainColumns, Trimmed c := by decide
  intro c hc
  rw [nodeColumns_eq] at hc
  obtain hc | hc := List.mem_append.mp hc
  · exact hplain c hc
  · obtain ⟨i, field, -, hfield, rfl⟩ := mem_slotColumns hc
    exact trimmed_choiceColumn _ hfield

lemma empty_notMem_nodeColumns (slots : ℕ) : "" ∉ Node.columns slots := by
  rw [nodeColumns_eq]
  intro hmem
  obtain hmem | hmem := List.mem_append.mp hmem
  · exact absurd hmem (by decide)
  · obtain ⟨i, field, -, -, heq⟩ := mem_slotColumns hmem
    have hlist := congrArg String.toList heq
    rw [choiceColumn_toList] at hlist
    simp at hlist

/-- The ids of the entities are trimmed. -/
structure TrimmedIds (s : Story) : Prop where
  nodes : ∀ n ∈ s.nodes.toList, Trimmed n.id.text
  items : ∀ i ∈ s.items.toList, Trimmed i.id.text
  enemies : ∀ e ∈ s.enemies.toList, Trimmed e.id.text
  encounters : ∀ e ∈ s.encounters.toList, Trimmed e.id.text

lemma trimmedIds_of_representable {s : Story} (h : RepresentableStory s) : TrimmedIds s :=
  ⟨fun n hn => (h.nodes n hn).id, fun i hi => (h.items i hi).id,
    fun e he => (h.enemies e he).id, fun e he => (h.encounters e he).id⟩

/-- The rows that the lines of a story give read as its cells. -/
theorem tablesHold_storyLines {s : Story} (h : TrimmedIds s) :
    TablesHold (.ofKinds fun kind => Csv.rows (storyLines s kind)) s := by
  have hshown : ∀ {id : Filled} {cells : List String}, Trimmed id.text →
      ∃ cell ∈ id.text :: cells, Text.isBlankText cell = false := by
    intro id cells hid
    exact ⟨id.text, List.mem_cons_self, notBlank_of_trimmed hid id.filled⟩
  constructor
  · exact rows_of_lines (trimmed_nodeColumns s.slots) (nodeColumns_nodup s.slots)
      (empty_notMem_nodeColumns s.slots) (fun n _ => nodeCells_length s.slots n)
      fun n hn => hshown (h.nodes n hn)
  · exact rows_of_lines (by decide) (by decide) (by decide) (fun _ _ => rfl)
      fun i hi => hshown (h.items i hi)
  · exact rows_of_lines (by decide) (by decide) (by decide) (fun _ _ => rfl)
      fun e he => hshown (h.enemies e he)
  · exact rows_of_lines (by decide) (by decide) (by decide) (fun _ _ => rfl)
      fun e he => hshown (h.encounters e he)

end Gamebook.Proofs
