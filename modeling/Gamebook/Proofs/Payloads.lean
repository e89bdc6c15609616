import Gamebook.Package.Sanitize
import Mathlib.Data.List.Infix
import Mathlib.Data.List.ReduceOption
import Mathlib.Data.List.TakeWhile
import Mathlib.Tactic.Lemma

/-!
# Payloads in cleaned texts

Cleaning leaves exactly the texts without payloads as they are. No payload of a text comes through
the cleaning in one piece, but the deletion of a payload may join what is on both sides of it to
another payload, which is left.
-/

namespace Gamebook.Proofs

variable {cs us vs word : List Char}

/-! ## Payloads -/

/-- The text spells a word of small letters, in any case. -/
def Spells (word cs : List Char) : Prop := cs.map Text.foldCase = word

instance (word cs : List Char) : Decidable (Spells word cs) :=
  inferInstanceAs (Decidable (_ = _))

/-- An opening tag whose name ends there, and all through a closing tag. -/
def ScriptBlock (us : List Char) : Prop :=
  ∃ opening inside closing, us = opening ++ inside ++ closing ∧
    Spells "<script".toList opening ∧ (∀ c ∈ inside.head?, Text.isWord c = false) ∧
    Spells "</script>".toList closing

/-- The scheme of script links. -/
def ScriptScheme (us : List Char) : Prop := Spells "javascript:".toList us

/-- `on`, word characters, maybe white space, and an equals sign. -/
def InlineHandler (us : List Char) : Prop :=
  ∃ opening word blanks, us = opening ++ word ++ blanks ++ ['='] ∧ Spells "on".toList opening ∧
    word ≠ [] ∧ (∀ c ∈ word, Text.isWord c = true) ∧ ∀ c ∈ blanks, Text.isBlank c = true

/-- A text of one of the three kinds that cleaning deletes. -/
def Payload (us : List Char) : Prop := ScriptBlock us ∨ ScriptScheme us ∨ InlineHandler us

/-- No part of the text is a payload. -/
def Clean (cs : List Char) : Prop := ∀ us, us <:+: cs → ¬Payload us

/-! ## Patterns -/

lemma startsWith_iff :
    Text.startsWith word cs = true ↔ ∃ us vs, cs = us ++ vs ∧ Spells word us := by
  induction word generalizing cs with
  | nil =>
    refine iff_of_true rfl ⟨[], cs, rfl, rfl⟩
  | cons w word ih =>
    cases cs with
    | nil =>
      refine iff_of_false (by simp [Text.startsWith]) ?_
      rintro ⟨us, vs, hcs, hus⟩
      obtain ⟨rfl, -⟩ := List.append_eq_nil_iff.mp hcs.symm
      exact absurd hus (by simp [Spells])
    | cons c cs =>
      rw [Text.startsWith, Bool.and_eq_true, decide_eq_true_eq, ih]
      constructor
      · rintro ⟨rfl, us, vs, rfl, hus⟩
        exact ⟨c :: us, vs, rfl, congrArg (List.cons (Text.foldCase c)) hus⟩
      · rintro ⟨us, vs, hcs, hus⟩
        cases us with
        | nil => exact absurd hus (by simp [Spells])
        | cons u us =>
          obtain ⟨rfl, rfl⟩ := List.cons.inj hcs
          obtain ⟨hu, hrest⟩ := List.cons.inj hus
          exact ⟨hu.symm, us, vs, rfl, hrest⟩

lemma length_of_spells (h : Spells word us) : us.length = word.length := by
  rw [← h, List.length_map]

/-- The pattern matches where a text of the kind begins, and nowhere else. -/
structure Finds (p : Package.Pattern) (Kind : List Char → Prop) : Prop where
  found : ∀ us vs, Kind us → p (us ++ vs) ≠ 0
  sound : ∀ cs, p cs ≠ 0 → ∃ us vs, cs = us ++ vs ∧ Kind us
  nonempty : ∀ us, Kind us → us ≠ []

lemma finds_scriptScheme : Finds Package.scriptScheme ScriptScheme := by
  refine ⟨fun us vs h => ?_, fun cs h => ?_, fun us h hnil => ?_⟩
  · have hstarts := startsWith_iff.mpr ⟨us, vs, rfl, h⟩
    unfold Package.scriptScheme Package.scriptSchemeText
    rw [if_pos hstarts]
    decide
  · unfold Package.scriptScheme Package.scriptSchemeText at h
    split at h
    · rename_i hstarts
      exact startsWith_iff.mp hstarts
    · exact absurd rfl h
  · have hlength := length_of_spells h
    rw [hnil] at hlength
    exact absurd hlength (by decide)

/-! ## Script blocks -/

lemma throughClosing_of_closing (n : ℕ) (us : List Char)
    (h : Text.startsWith Package.scriptClosing vs = true) :
    ∃ k, Package.throughClosing n (us ++ vs) = some (n + k + 1) := by
  induction us generalizing n with
  | nil =>
    cases vs with
    | nil => exact absurd h (by decide)
    | cons c vs =>
      rw [List.nil_append, Package.throughClosing, if_pos h]
      exact ⟨8, rfl⟩
  | cons u us ih =>
    rw [List.cons_append, Package.throughClosing]
    split
    · exact ⟨8, rfl⟩
    · obtain ⟨k, hk⟩ := ih (n + 1)
      rw [hk]
      exact ⟨k + 1, by congr 1; omega⟩

lemma closing_of_throughClosing {n k : ℕ} (h : Package.throughClosing n cs = some k) :
    ∃ us vs, cs = us ++ vs ∧ Text.startsWith Package.scriptClosing vs = true := by
  induction cs generalizing n with
  | nil => exact absurd h (by simp [Package.throughClosing])
  | cons c cs ih =>
    rw [Package.throughClosing] at h
    split at h
    · rename_i hstarts
      exact ⟨[], c :: cs, rfl, hstarts⟩
    · obtain ⟨us, vs, rfl, hstarts⟩ := ih h
      exact ⟨c :: us, vs, rfl, hstarts⟩

/-- Besides the letters with foreign forms, a character counts as itself or as its small letter. -/
lemma foldCase_cases {c d : Char} (h : Text.foldCase c = d) (hd : d ∉ ['s', 'i', 'k']) :
    c = d ∨ 65 ≤ c.toNat ∧ c.toNat + 32 = d.toNat := by
  simp only [List.mem_cons, List.not_mem_nil, or_false, not_or] at hd
  unfold Text.foldCase at h
  split at h
  · exact absurd h.symm hd.1
  · split at h
    · exact absurd h.symm hd.2.1
    · split at h
      · exact absurd h.symm hd.2.2
      · unfold Char.toLower at h
        split at h
        · rename_i hupper
          have hlow : 65 ≤ c.val.toNat := hupper.1
          have hhigh : c.val.toNat ≤ 90 := hupper.2
          have hsum : (c.val + ('a'.val - 'A'.val)).toNat = d.val.toNat :=
            congrArg (fun e => e.val.toNat) h
          have hshift : ('a'.val - 'A'.val).toNat = 32 := by decide
          rw [UInt32.toNat_add, hshift] at hsum
          refine .inr ⟨hlow, ?_⟩
          change c.val.toNat + 32 = d.val.toNat
          omega
        · exact .inl h

lemma foldCase_eq_iff {c d : Char} (hd : d.toNat < 65) : Text.foldCase c = d ↔ c = d := by
  constructor
  · intro h
    have hforeign : d ∉ ['s', 'i', 'k'] := by
      intro hmem
      have hletters : ∀ e ∈ ['s', 'i', 'k'], 65 ≤ e.toNat := by simp
      exact absurd (hletters d hmem) (by omega)
    obtain heq | ⟨hlow, hsum⟩ := foldCase_cases h hforeign
    · exact heq
    · omega
  · rintro rfl
    have hall : ∀ n < 65, Text.foldCase (Char.ofNat n) = Char.ofNat n := by decide
    rw [← Char.ofNat_toNat c]
    exact hall _ hd

lemma notWord_of_closing (h : Spells "</script>".toList us) :
    ∀ c ∈ us.head?, Text.isWord c = false := by
  cases us with
  | nil => simp
  | cons u us =>
    have hu : u = '<' := (foldCase_eq_iff (by decide)).mp (List.cons.inj h).1
    intro c hc
    obtain rfl := Option.some.inj hc
    rw [hu]
    decide

lemma scriptBlock_ne_zero (h : ScriptBlock us) (vs : List Char) :
    Package.scriptBlock (us ++ vs) ≠ 0 := by
  obtain ⟨opening, inside, closing, rfl, hopening, hinside, hclosing⟩ := h
  have hlength : Package.scriptOpening.length = opening.length := (length_of_spells hopening).symm
  have hstarts : Text.startsWith Package.scriptOpening
      (opening ++ (inside ++ (closing ++ vs))) = true := startsWith_iff.mpr ⟨_, _, rfl, hopening⟩
  have hend : Text.startsWith Package.scriptClosing (closing ++ vs) = true :=
    startsWith_iff.mpr ⟨_, _, rfl, hclosing⟩
  have hhead : ¬(inside ++ (closing ++ vs)).head?.any Text.isWord = true := by
    cases inside with
    | cons c inside => simpa using hinside c rfl
    | nil =>
      cases closing with
      | nil => exact absurd hclosing (by decide)
      | cons c closing => simpa using notWord_of_closing hclosing c rfl
  obtain ⟨k, hk⟩ := throughClosing_of_closing opening.length inside hend
  rw [List.append_assoc, List.append_assoc]
  unfold Package.scriptBlock
  dsimp only
  rw [if_pos hstarts, hlength, List.drop_left, if_neg hhead, hk]
  simp

lemma exists_scriptBlock (h : Package.scriptBlock cs ≠ 0) :
    ∃ us vs, cs = us ++ vs ∧ ScriptBlock us := by
  unfold Package.scriptBlock at h
  dsimp only at h
  split at h
  · rename_i hstarts
    obtain ⟨opening, rest, rfl, hopening⟩ := startsWith_iff.mp hstarts
    have hlength : Package.scriptOpening.length = opening.length :=
      (length_of_spells hopening).symm
    rw [hlength, List.drop_left] at h
    split at h
    · exact absurd rfl h
    · rename_i hhead
      cases hthrough : Package.throughClosing opening.length rest with
      | none =>
        rw [hthrough] at h
        exact absurd rfl h
      | some k =>
        obtain ⟨inside, behind, rfl, hend⟩ := closing_of_throughClosing hthrough
        obtain ⟨closing, vs, rfl, hclosing⟩ := startsWith_iff.mp hend
        refine ⟨opening ++ inside ++ closing, vs, by simp, opening, inside, closing, rfl, hopening,
          fun c hc => ?_, hclosing⟩
        cases inside with
        | nil => exact absurd hc (by simp)
        | cons d inside =>
          obtain rfl := Option.some.inj hc
          simpa using hhead
  · exact absurd rfl h

lemma finds_scriptBlock : Finds Package.scriptBlock ScriptBlock := by
  refine ⟨fun us vs h => scriptBlock_ne_zero h vs, fun cs => exists_scriptBlock, ?_⟩
  rintro us ⟨opening, inside, closing, rfl, hopening, -, -⟩ hnil
  have hlength := length_of_spells hopening
  rw [(List.append_eq_nil_iff.mp (List.append_eq_nil_iff.mp hnil).1).1] at hlength
  exact absurd hlength (by decide)

/-! ## Inline handlers -/

/-- The code points of white space. -/
def blankCodes : List ℕ :=
  [0x09, 0x0A, 0x0B, 0x0C, 0x0D, 0x1C, 0x1D, 0x1E, 0x1F, 0x20, 0x85, 0xA0, 0x1680, 0x2000, 0x2001,
    0x2002, 0x2003, 0x2004, 0x2005, 0x2006, 0x2007, 0x2008, 0x2009, 0x200A, 0x2028, 0x2029, 0x202F,
    0x205F, 0x3000]

lemma notWord_of_isBlank {c : Char} (h : Text.isBlank c = true) : Text.isWord c = false := by
  have hcode : c.toNat ∈ blankCodes := by
    simp only [Text.isBlank, Text.isWhite, Bool.or_eq_true, Bool.and_eq_true, decide_eq_true_eq,
      beq_iff_eq] at h
    simp only [blankCodes, List.mem_cons, List.not_mem_nil, or_false]
    omega
  have hall : ∀ n ∈ blankCodes, Text.isWord (Char.ofNat n) = false := by decide +kernel
  rw [← Char.ofNat_toNat c]
  exact hall _ hcode

lemma inlineHandler_ne_zero (h : InlineHandler us) (vs : List Char) :
    Package.inlineHandler (us ++ vs) ≠ 0 := by
  obtain ⟨opening, word, blanks, rfl, hopening, hne, hword, hblanks⟩ := h
  have hlength : 2 = opening.length := (length_of_spells hopening).symm
  have hstarts : Text.startsWith ['o', 'n'] (opening ++ (word ++ (blanks ++ '=' :: vs))) = true :=
    startsWith_iff.mpr ⟨_, _, rfl, hopening⟩
  have hnotWord : (blanks ++ '=' :: vs).takeWhile Text.isWord = [] := by
    cases blanks with
    | nil => rfl
    | cons c blanks =>
      rw [List.cons_append, List.takeWhile_cons_of_neg]
      simp [notWord_of_isBlank (hblanks c List.mem_cons_self)]
  have htakeWord : (word ++ (blanks ++ '=' :: vs)).takeWhile Text.isWord = word := by
    rw [List.takeWhile_append_of_pos hword, hnotWord, List.append_nil]
  have htakeBlanks : (blanks ++ '=' :: vs).takeWhile Text.isBlank = blanks := by
    have hequals : ('=' :: vs).takeWhile Text.isBlank = [] := rfl
    rw [List.takeWhile_append_of_pos hblanks, hequals, List.append_nil]
  have hcond : (!word.isEmpty && decide (('=' :: vs).head? = some '=')) = true := by
    simpa using hne
  have htext : opening ++ word ++ blanks ++ ['='] ++ vs =
      opening ++ (word ++ (blanks ++ '=' :: vs)) := by simp
  rw [htext]
  unfold Package.inlineHandler
  dsimp only
  rw [if_pos hstarts, hlength, List.drop_left, htakeWord, List.drop_left, htakeBlanks,
    List.drop_left, if_pos hcond]
  omega

lemma exists_inlineHandler (h : Package.inlineHandler cs ≠ 0) :
    ∃ us vs, cs = us ++ vs ∧ InlineHandler us := by
  unfold Package.inlineHandler at h
  dsimp only at h
  split at h
  · rename_i hstarts
    obtain ⟨opening, rest, rfl, hopening⟩ := startsWith_iff.mp hstarts
    have hlength : 2 = opening.length := (length_of_spells hopening).symm
    rw [hlength, List.drop_left] at h
    split at h
    · rename_i hcond
      have hword := List.prefix_append_drop (List.takeWhile_prefix Text.isWord (l := rest))
      generalize hw : rest.takeWhile Text.isWord = word at hcond hword
      generalize hb : rest.drop word.length = behind at hcond hword
      have hblanks := List.prefix_append_drop (List.takeWhile_prefix Text.isBlank (l := behind))
      generalize hk : behind.takeWhile Text.isBlank = blanks at hcond hblanks
      rw [Bool.and_eq_true, decide_eq_true_eq, List.head?_eq_some_iff] at hcond
      obtain ⟨hne, vs, hvs⟩ := hcond
      rw [hvs] at hblanks
      refine ⟨opening ++ word ++ blanks ++ ['='], vs, ?_, opening, word, blanks, rfl, hopening,
        by simpa using hne, ?_, ?_⟩
      · rw [hword, hblanks]
        simp
      · rw [← hw]
        exact fun c hc => List.mem_takeWhile_imp hc
      · rw [← hk]
        exact fun c hc => List.mem_takeWhile_imp hc
    · exact absurd rfl h
  · exact absurd rfl h

lemma finds_inlineHandler : Finds Package.inlineHandler InlineHandler := by
  refine ⟨fun us vs h => inlineHandler_ne_zero h vs, fun cs => exists_inlineHandler, ?_⟩
  rintro us ⟨opening, word, blanks, rfl, -, -, -, -⟩ hnil
  exact absurd hnil (by simp)

/-! ## Deleting -/

section

variable {p : Package.Pattern} {Kind : List Char → Prop} {n : ℕ}

lemma deleteFrom_sublist (p : Package.Pattern) (n : ℕ) (cs : List Char) :
    (Package.deleteFrom p n cs).Sublist cs := by
  induction cs generalizing n with
  | nil => rw [Package.deleteFrom]
  | cons c cs ih =>
    cases n with
    | succ n => exact (ih n).cons c
    | zero =>
      rw [Package.deleteFrom]
      split
      · exact (ih 0).cons_cons c
      · exact (ih _).cons c

lemma delete_sublist (p : Package.Pattern) (cs : List Char) :
    (Package.delete p cs).Sublist cs := deleteFrom_sublist p 0 cs

/-- Nothing is deleted exactly from the texts without a part of the kind. -/
lemma delete_eq_self_iff (h : Finds p Kind) :
    Package.delete p cs = cs ↔ ∀ us, us <:+: cs → ¬Kind us := by
  unfold Package.delete
  induction cs with
  | nil =>
    refine iff_of_true (by rw [Package.deleteFrom]) fun us hus hkind => ?_
    exact h.nonempty us hkind (List.infix_nil.mp hus)
  | cons c cs ih =>
    rw [Package.deleteFrom]
    split
    · rename_i hzero
      rw [List.cons.injEq, ih]
      constructor
      · rintro ⟨-, hrest⟩ us hus hkind
        obtain ⟨vs, hvs⟩ | hinfix := List.infix_cons_iff.mp hus
        · refine h.found us vs hkind ?_
          rw [hvs]
          exact hzero
        · exact hrest us hinfix hkind
      · exact fun hall => ⟨rfl, fun us hus => hall us (List.infix_cons hus)⟩
    · rename_i k hk
      refine iff_of_false (fun heq => ?_) fun hall => ?_
      · have hlength := (deleteFrom_sublist p k cs).length_le
        rw [heq, List.length_cons] at hlength
        omega
      · obtain ⟨us, vs, hus, hkind⟩ := h.sound (c :: cs) (by rw [hk]; simp)
        exact hall us ⟨[], vs, by simpa using hus.symm⟩ hkind

end

lemma cleanChars_eq_self_iff : Package.cleanChars cs = cs ↔ Clean cs := by
  have hkinds : Clean cs ↔ Package.delete Package.scriptBlock cs = cs ∧
      Package.delete Package.scriptScheme cs = cs ∧
      Package.delete Package.inlineHandler cs = cs := by
    rw [delete_eq_self_iff finds_scriptBlock, delete_eq_self_iff finds_scriptScheme,
      delete_eq_self_iff finds_inlineHandler]
    unfold Clean Payload
    simp only [not_or, imp_and, forall_and]
  rw [hkinds]
  unfold Package.cleanChars
  constructor
  · intro heq
    have hblock := delete_sublist Package.scriptBlock cs
    have hscheme := delete_sublist Package.scriptScheme (Package.delete Package.scriptBlock cs)
    have hhandler := delete_sublist Package.inlineHandler
      (Package.delete Package.scriptScheme (Package.delete Package.scriptBlock cs))
    rw [heq] at hhandler
    have hfirst := hblock.antisymm (hhandler.trans hscheme)
    rw [hfirst] at hscheme hhandler heq
    have hsecond := hscheme.antisymm hhandler
    rw [hsecond] at heq
    exact ⟨hfirst, hsecond, heq⟩
  · rintro ⟨hblock, hscheme, hhandler⟩
    rw [hblock, hscheme, hhandler]

/-! ## What is left -/

/-- A mark for each character of a text: the character, or nothing if it is deleted. -/
def Marks (cs : List Char) (marks : List (Option Char)) : Prop :=
  List.Forall₂ (fun c mark => mark = none ∨ mark = some c) cs marks

/-- The marks of a deletion. -/
def marksFrom (p : Package.Pattern) : ℕ → List Char → List (Option Char)
  | _, [] => []
  | n + 1, _ :: cs => none :: marksFrom p n cs
  | 0, c :: cs =>
    match p (c :: cs) with
    | 0 => some c :: marksFrom p 0 cs
    | n + 1 => none :: marksFrom p n cs

/-- A part of a text that comes through a deletion in one piece. -/
def Through (marks : List (Option Char)) (us : List Char) : Prop := us.map some <:+: marks

section

variable {p : Package.Pattern} {Kind : List Char → Prop} {n : ℕ} {marks : List (Option Char)}

lemma marks_marksFrom (p : Package.Pattern) (n : ℕ) (cs : List Char) :
    Marks cs (marksFrom p n cs) := by
  unfold Marks
  induction cs generalizing n with
  | nil =>
    rw [marksFrom]
    exact .nil
  | cons c cs ih =>
    cases n with
    | succ n => exact .cons (.inl rfl) (ih n)
    | zero =>
      rw [marksFrom]
      split
      · exact .cons (.inr rfl) (ih 0)
      · exact .cons (.inl rfl) (ih _)

lemma reduceOption_marksFrom (p : Package.Pattern) (n : ℕ) (cs : List Char) :
    (marksFrom p n cs).reduceOption = Package.deleteFrom p n cs := by
  induction cs generalizing n with
  | nil => rw [marksFrom, Package.deleteFrom, List.reduceOption_nil]
  | cons c cs ih =>
    cases n with
    | succ n =>
      rw [marksFrom, Package.deleteFrom, List.reduceOption_cons_of_none]
      exact ih n
    | zero =>
      rw [marksFrom, Package.deleteFrom]
      cases p (c :: cs) with
      | zero => exact (List.reduceOption_cons_of_some c _).trans (congrArg (c :: ·) (ih 0))
      | succ k => exact (List.reduceOption_cons_of_none _).trans (ih k)

lemma eq_nil_of_prefix_none (h : us.map some <+: none :: marks) : us = [] := by
  cases us with
  | nil => rfl
  | cons u us =>
    rw [List.map_cons, List.cons_prefix_cons] at h
    exact absurd h.1 (by simp)

lemma prefix_of_marks (h : Marks cs marks) (hus : us.map some <+: marks) : us <+: cs := by
  induction h generalizing us with
  | nil =>
    rw [List.prefix_nil, List.map_eq_nil_iff] at hus
    rw [hus]
  | @cons c mark cs marks hmark _ ih =>
    cases us with
    | nil => exact List.nil_prefix
    | cons u us =>
      rw [List.map_cons, List.cons_prefix_cons] at hus
      obtain ⟨rfl, hrest⟩ := hus
      obtain hnone | hsome := hmark
      · exact absurd hnone (by simp)
      · rw [List.cons_prefix_cons]
        exact ⟨Option.some.inj hsome, ih hrest⟩

/-- A text of the kind does not come through the deletion. -/
lemma not_through_marksFrom (h : Finds p Kind) (n : ℕ) (hus : Through (marksFrom p n cs) us) :
    ¬Kind us := by
  unfold Through at hus
  induction cs generalizing n with
  | nil =>
    rw [marksFrom, List.infix_nil, List.map_eq_nil_iff] at hus
    exact fun hkind => h.nonempty us hkind hus
  | cons c cs ih =>
    cases n with
    | succ n =>
      rw [marksFrom] at hus
      obtain hprefix | hinfix := List.infix_cons_iff.mp hus
      · exact fun hkind => h.nonempty us hkind (eq_nil_of_prefix_none hprefix)
      · exact ih n hinfix
    | zero =>
      rw [marksFrom] at hus
      split at hus
      · rename_i hzero
        obtain hprefix | hinfix := List.infix_cons_iff.mp hus
        · intro hkind
          obtain ⟨vs, hvs⟩ : us <+: c :: cs :=
            prefix_of_marks (.cons (.inr rfl) (marks_marksFrom p 0 cs)) hprefix
          refine h.found us vs hkind ?_
          rw [hvs]
          exact hzero
        · exact ih 0 hinfix
      · obtain hprefix | hinfix := List.infix_cons_iff.mp hus
        · exact fun hkind => h.nonempty us hkind (eq_nil_of_prefix_none hprefix)
        · exact ih _ hinfix

/-- The marks of two deletions, the later one of what the first one leaves. -/
def bothMarks : List (Option Char) → List (Option Char) → List (Option Char)
  | none :: marks, later => none :: bothMarks marks later
  | some _ :: marks, mark :: later => mark :: bothMarks marks later
  | _, _ => []

variable {later : List (Option Char)}

lemma exists_cons_of_marks {c : Char} (h : Marks (some c :: marks).reduceOption later) :
    ∃ mark rest, later = mark :: rest ∧ (mark = none ∨ mark = some c) ∧
      Marks marks.reduceOption rest := by
  rw [List.reduceOption_cons_of_some] at h
  obtain _ | ⟨hmark, hrest⟩ := h
  exact ⟨_, _, rfl, hmark, hrest⟩

lemma marks_bothMarks (h : Marks cs marks) (hlater : Marks marks.reduceOption later) :
    Marks cs (bothMarks marks later) := by
  induction h generalizing later with
  | nil =>
    rw [bothMarks.eq_def]
    exact .nil
  | @cons c mark cs marks hmark _ ih =>
    cases mark with
    | none =>
      rw [List.reduceOption_cons_of_none] at hlater
      exact .cons (.inl rfl) (ih hlater)
    | some d =>
      obtain rfl : d = c := by simpa using hmark
      obtain ⟨next, rest, rfl, hnext, hrest⟩ := exists_cons_of_marks hlater
      exact .cons hnext (ih hrest)

lemma reduceOption_bothMarks (hlater : Marks marks.reduceOption later) :
    (bothMarks marks later).reduceOption = later.reduceOption := by
  induction marks generalizing later with
  | nil =>
    cases hlater
    rfl
  | cons mark marks ih =>
    cases mark with
    | none =>
      rw [List.reduceOption_cons_of_none] at hlater
      rw [bothMarks, List.reduceOption_cons_of_none, ih hlater]
    | some d =>
      obtain ⟨next, rest, rfl, -, hrest⟩ := exists_cons_of_marks hlater
      rw [bothMarks]
      cases next with
      | none => rw [List.reduceOption_cons_of_none, List.reduceOption_cons_of_none, ih hrest]
      | some e => rw [List.reduceOption_cons_of_some, List.reduceOption_cons_of_some, ih hrest]

lemma prefix_of_bothMarks (hlater : Marks marks.reduceOption later)
    (hus : us.map some <+: bothMarks marks later) :
    us.map some <+: marks ∧ us.map some <+: later := by
  induction marks generalizing us later with
  | nil =>
    rw [bothMarks.eq_def] at hus
    rw [List.prefix_nil.mp hus]
    exact ⟨List.nil_prefix, List.nil_prefix⟩
  | cons mark marks ih =>
    cases mark with
    | none =>
      rw [eq_nil_of_prefix_none hus]
      exact ⟨List.nil_prefix, List.nil_prefix⟩
    | some d =>
      obtain ⟨next, rest, rfl, hnext, hrest⟩ := exists_cons_of_marks hlater
      cases us with
      | nil => exact ⟨List.nil_prefix, List.nil_prefix⟩
      | cons u us =>
        rw [List.map_cons, bothMarks, List.cons_prefix_cons] at hus
        obtain ⟨rfl, hus⟩ := hus
        obtain rfl : u = d := by simpa using hnext
        obtain ⟨hmarks, hlaters⟩ := ih hrest hus
        rw [List.map_cons, List.cons_prefix_cons, List.cons_prefix_cons]
        exact ⟨⟨rfl, hmarks⟩, rfl, hlaters⟩

lemma through_of_bothMarks (hlater : Marks marks.reduceOption later)
    (hus : Through (bothMarks marks later) us) : Through marks us ∧ Through later us := by
  unfold Through at hus ⊢
  induction marks generalizing later with
  | nil =>
    rw [bothMarks.eq_def] at hus
    rw [List.infix_nil.mp hus]
    exact ⟨List.nil_infix, List.nil_infix⟩
  | cons mark marks ih =>
    cases mark with
    | none =>
      rw [List.reduceOption_cons_of_none] at hlater
      obtain hprefix | hbehind := List.infix_cons_iff.mp hus
      · rw [eq_nil_of_prefix_none hprefix]
        exact ⟨List.nil_infix, List.nil_infix⟩
      · obtain ⟨hmarks, hlaters⟩ := ih hlater hbehind
        exact ⟨List.infix_cons hmarks, hlaters⟩
    | some d =>
      obtain ⟨next, rest, rfl, -, hrest⟩ := exists_cons_of_marks hlater
      obtain hprefix | hbehind := List.infix_cons_iff.mp hus
      · exact (prefix_of_bothMarks hlater hprefix).imp (·.isInfix) (·.isInfix)
      · obtain ⟨hmarks, hlaters⟩ := ih hrest hbehind
        exact ⟨List.infix_cons hmarks, List.infix_cons hlaters⟩

end

section

variable {Kind Other : List Char → Prop} {left last : List Char}

/-- What is left of a text when characters of it are deleted so that no text of the kind comes
through in one piece. -/
def LeftWithout (Kind : List Char → Prop) (cs left : List Char) : Prop :=
  ∃ marks, Marks cs marks ∧ marks.reduceOption = left ∧ ∀ us, Through marks us → ¬Kind us

lemma leftWithout_delete {p : Package.Pattern} (h : Finds p Kind) (cs : List Char) :
    LeftWithout Kind cs (Package.delete p cs) :=
  ⟨marksFrom p 0 cs, marks_marksFrom p 0 cs, reduceOption_marksFrom p 0 cs,
    fun _ hus => not_through_marksFrom h 0 hus⟩

lemma LeftWithout.trans (h : LeftWithout Kind cs left) (hlast : LeftWithout Other left last) :
    LeftWithout (fun us => Kind us ∨ Other us) cs last := by
  obtain ⟨marks, hmarks, rfl, hkind⟩ := h
  obtain ⟨later, hlater, rfl, hother⟩ := hlast
  refine ⟨bothMarks marks later, marks_bothMarks hmarks hlater, reduceOption_bothMarks hlater,
    fun us hus => ?_⟩
  obtain ⟨hthrough, hthroughLater⟩ := through_of_bothMarks hlater hus
  rintro (hus | hus)
  · exact hkind us hthrough hus
  · exact hother us hthroughLater hus

end

/-- No payload comes through the cleaning in one piece. -/
lemma leftWithout_cleanChars (cs : List Char) : LeftWithout Payload cs (Package.cleanChars cs) :=
  (leftWithout_delete finds_scriptBlock cs).trans
    ((leftWithout_delete finds_scriptScheme _).trans (leftWithout_delete finds_inlineHandler _))

end Gamebook.Proofs
