import Gamebook.Proofs.Regex

/-!
# Searching for payloads

The payloads that cleaning deletes, written as regular expressions. The one for script blocks leaves
a choice at every bracket, yet there is never more than one way through it: up to the first closing
tag.
-/

namespace Gamebook.Proofs

/-- `javascript:` -/
def schemeRegex : Regex := .word Package.scriptSchemeText

/-- `\s*=` -/
def equalsRegex : Regex := .seq (.many (.one Text.isBlank)) (.word ['='])

/-- `on\w+\s*=` -/
def handlerRegex : Regex :=
  .seq (.word ['o', 'n']) (.seq (.one Text.isWord) (.seq (.many (.one Text.isWord)) equalsRegex))

/-- `[^<]*` -/
def upToBracket : Regex := .many (.one fun c => c ≠ '<')

/-- `(?!</script>)<[^<]*` -/
def otherTag : Regex :=
  .seq (.absent (.word Package.scriptClosing)) (.seq (.word ['<']) upToBracket)

/-- `(?:(?!</script>)<[^<]*)*</script>` -/
def toClosing : Regex := .seq (.many otherTag) (.word Package.scriptClosing)

/-- `<script\b[^<]*(?:(?!</script>)<[^<]*)*</script>` -/
def scriptRegex : Regex :=
  .seq (.word Package.scriptOpening) (.seq .boundary (.seq upToBracket toClosing))

section

variable {b : Option Char} {x y : Cursor} {c : Char} {cs us vs letters : List Char} {r s : Regex}

lemma span_of_nil (h : r.ends x = []) : r.span x = 0 := by
  unfold Regex.span
  rw [h]

lemma span_of_behind {rest : List Char} (h : (r.ends x).map Cursor.behind = [rest]) :
    r.span x = x.behind.length - rest.length := by
  obtain ⟨y, hy, rfl⟩ := List.map_eq_singleton_iff.mp h
  unfold Regex.span
  rw [hy]

lemma ends_seq_word (h : Spells letters us) (b : Option Char) (vs : List Char) :
    ((Regex.word letters).seq s).ends ⟨b, us ++ vs⟩ = s.ends ⟨lastOf b us, vs⟩ := by
  rw [ends_seq, ends_word h, List.flatMap_singleton]

lemma ends_seq_word_eq_nil (h : ¬Text.startsWith letters cs = true) (b : Option Char) :
    ((Regex.word letters).seq s).ends ⟨b, cs⟩ = [] := by
  rw [ends_seq, ends_word_eq_nil (Bool.eq_false_iff.mpr h), List.flatMap_nil]

lemma ends_sign {d : Char} (hd : d.toNat < 65) (b : Option Char) (cs : List Char) :
    (Regex.word [d]).ends ⟨b, cs⟩ = if cs.head? = some d then [⟨some d, cs.tail⟩] else [] := by
  split
  · rename_i hhead
    obtain ⟨rest, rfl⟩ := List.head?_eq_some_iff.mp hhead
    have hspells : Spells [d] [d] := congrArg (fun e => [e]) ((foldCase_eq_iff hd).mpr rfl)
    exact ends_word hspells b rest
  · rename_i hhead
    refine ends_word_eq_nil (Bool.eq_false_iff.mpr fun hstarts => hhead ?_) b
    obtain ⟨us, vs, rfl, hus⟩ := startsWith_iff.mp hstarts
    obtain ⟨u, rfl, hu⟩ := List.map_eq_singleton_iff.mp hus
    exact congrArg some ((foldCase_eq_iff hd).mp hu)

/-! ## The script scheme and inline handlers -/

lemma runs_scheme : Runs schemeRegex Package.scriptScheme := by
  refine ⟨fun b cs => ?_, consumes_word⟩
  unfold Package.scriptScheme
  split
  · rename_i hstarts
    obtain ⟨us, vs, rfl, hus⟩ := startsWith_iff.mp hstarts
    have hends : (schemeRegex.ends ⟨b, us ++ vs⟩).map Cursor.behind = [vs] :=
      congrArg (List.map Cursor.behind) (ends_word hus b vs)
    rw [span_of_behind hends, List.length_append, ← length_of_spells hus]
    omega
  · rename_i hstarts
    exact span_of_nil (ends_word_eq_nil (Bool.eq_false_iff.mpr hstarts) b)

/-- Blanks are no equals signs, so all of them have to be taken. -/
lemma ends_equals (b : Option Char) (cs : List Char) :
    (equalsRegex.ends ⟨b, cs⟩).map Cursor.behind =
      if (cs.dropWhile Text.isBlank).head? = some '=' then [(cs.dropWhile Text.isBlank).tail]
      else [] := by
  have hblank : ∀ b c cs, Text.isBlank c = true → (Regex.word ['=']).ends ⟨b, c :: cs⟩ = [] := by
    intro b c cs hc
    rw [ends_sign (by decide), if_neg]
    intro hhead
    rw [List.head?_cons, Option.some.injEq] at hhead
    rw [hhead] at hc
    exact absurd hc (by decide)
  unfold equalsRegex
  rw [ends_seq, flatMap_many_one hblank, ends_sign (by decide)]
  split <;> rfl

lemma ends_equals_of_isWord (b : Option Char) (cs : List Char) (hc : Text.isWord c = true) :
    equalsRegex.ends ⟨b, c :: cs⟩ = [] := by
  have hblank : ¬Text.isBlank c = true := fun hblank => by
    rw [notWord_of_isBlank hblank] at hc
    exact absurd hc (by decide)
  have hequals : c ≠ '=' := by
    rintro rfl
    exact absurd hc (by decide)
  have hbehind := ends_equals b (c :: cs)
  rw [List.dropWhile_cons_of_neg hblank, if_neg (by simpa using hequals)] at hbehind
  exact List.map_eq_nil_iff.mp hbehind

lemma drop_length_takeWhile (p : Char → Bool) (cs : List Char) :
    cs.drop (cs.takeWhile p).length = cs.dropWhile p :=
  calc cs.drop (cs.takeWhile p).length
      = (cs.takeWhile p ++ cs.dropWhile p).drop (cs.takeWhile p).length := by
        rw [List.takeWhile_append_dropWhile]
    _ = cs.dropWhile p := List.drop_left

lemma ends_handlerTail (b : Option Char) (cs : List Char) :
    ((Regex.seq (.one Text.isWord) (.seq (.many (.one Text.isWord)) equalsRegex)).ends
        ⟨b, cs⟩).map Cursor.behind =
      if cs.head?.any Text.isWord = true ∧
          ((cs.dropWhile Text.isWord).dropWhile Text.isBlank).head? = some '=' then
        [((cs.dropWhile Text.isWord).dropWhile Text.isBlank).tail]
      else [] := by
  cases cs with
  | nil => rfl
  | cons c cs =>
    rw [ends_seq, ends_one_cons]
    by_cases hc : Text.isWord c = true
    · have hhead : (c :: cs).head?.any Text.isWord = true := hc
      rw [if_pos hc, List.flatMap_singleton, ends_seq,
        flatMap_many_one fun b c cs => ends_equals_of_isWord b cs, ends_equals,
        List.dropWhile_cons_of_pos hc]
      simp only [hhead, true_and]
    · have hhead : ¬(c :: cs).head?.any Text.isWord = true := hc
      rw [if_neg hc, if_neg fun h => hhead h.1]
      rfl

lemma length_takeWhile_add (p : Char → Bool) (cs : List Char) :
    (cs.takeWhile p).length + (cs.dropWhile p).length = cs.length := by
  rw [← List.length_append, List.takeWhile_append_dropWhile]

lemma isEmpty_takeWhile (p : Char → Bool) (cs : List Char) :
    (!(cs.takeWhile p).isEmpty) = cs.head?.any p := by
  cases cs with
  | nil => rfl
  | cons c cs => cases hc : p c <;> simp [hc]

lemma runs_handler : Runs handlerRegex Package.inlineHandler := by
  refine ⟨fun b cs => ?_, consumes_seq consumes_word⟩
  unfold Package.inlineHandler
  split
  · rename_i hstarts
    obtain ⟨us, vs, rfl, hus⟩ := startsWith_iff.mp hstarts
    have hlength : 2 = us.length := (length_of_spells hus).symm
    have hends := ends_handlerTail (lastOf b us) vs
    rw [← ends_seq_word hus b vs] at hends
    have hword := length_takeWhile_add Text.isWord vs
    have hblanks := length_takeWhile_add Text.isBlank (vs.dropWhile Text.isWord)
    dsimp only
    rw [hlength, List.drop_left, drop_length_takeWhile, drop_length_takeWhile, isEmpty_takeWhile]
    simp only [Bool.and_eq_true, decide_eq_true_eq]
    split
    · rename_i hcond
      rw [if_pos hcond] at hends
      obtain ⟨rest, hrest⟩ := List.head?_eq_some_iff.mp hcond.2
      have hlast := congrArg List.length hrest
      rw [List.length_cons] at hlast
      refine (span_of_behind hends).trans ?_
      rw [hrest, List.tail_cons, List.length_append]
      omega
    · rename_i hcond
      rw [if_neg hcond] at hends
      exact span_of_nil (List.map_eq_nil_iff.mp hends)
  · rename_i hstarts
    exact span_of_nil (ends_seq_word_eq_nil hstarts b)

/-! ## Script blocks -/

lemma throughClosing_add (n : ℕ) (cs : List Char) :
    Package.throughClosing n cs = (Package.throughClosing 0 cs).map (n + ·) := by
  induction cs generalizing n with
  | nil => rfl
  | cons c cs ih =>
    rw [Package.throughClosing, Package.throughClosing]
    split
    · rw [Option.map_some, Nat.zero_add]
    · rw [ih (n + 1), ih (0 + 1), Option.map_map]
      refine congrArg (Option.map · _) (funext fun k => ?_)
      rw [Function.comp_apply, Nat.zero_add, Nat.add_assoc]

lemma throughClosing_le {n k : ℕ} (h : Package.throughClosing n cs = some k) :
    k ≤ n + cs.length := by
  induction cs generalizing n with
  | nil => exact absurd h (by simp [Package.throughClosing])
  | cons c cs ih =>
    rw [Package.throughClosing] at h
    split at h
    · rename_i hstarts
      obtain ⟨us, vs, htext, hus⟩ := startsWith_iff.mp hstarts
      rw [← Option.some.inj h, htext, List.length_append, ← length_of_spells hus]
      omega
    · have hle := ih h
      rw [List.length_cons]
      omega

/-- The text behind the first closing tag. -/
def behindClosing (cs : List Char) : Option (List Char) :=
  (Package.throughClosing 0 cs).map fun n => cs.drop n

lemma behindClosing_of_spells (h : Spells Package.scriptClosing us) (vs : List Char) :
    behindClosing (us ++ vs) = some vs := by
  have hstarts : Text.startsWith Package.scriptClosing (us ++ vs) = true :=
    startsWith_iff.mpr ⟨us, vs, rfl, h⟩
  have hthrough : Package.throughClosing 0 (us ++ vs) = some us.length := by
    cases us with
    | nil => exact absurd h (by decide)
    | cons u us =>
      rw [List.cons_append] at hstarts ⊢
      rw [Package.throughClosing, if_pos hstarts, length_of_spells h, Nat.zero_add]
  unfold behindClosing
  rw [hthrough, Option.map_some, List.drop_left]

lemma behindClosing_cons (h : ¬Text.startsWith Package.scriptClosing (c :: cs) = true) :
    behindClosing (c :: cs) = behindClosing cs := by
  unfold behindClosing
  rw [Package.throughClosing, if_neg h, throughClosing_add, Option.map_map]
  refine congrArg (Option.map · _) (funext fun n => ?_)
  rw [Function.comp_apply, Nat.zero_add, Nat.add_comm, List.drop_succ_cons]

lemma not_closing (hc : c ≠ '<') (cs : List Char) :
    ¬Text.startsWith Package.scriptClosing (c :: cs) = true := by
  have hbracket : Package.scriptClosing = '<' :: "/script>".toList := rfl
  rw [hbracket, Text.startsWith, Bool.and_eq_true, decide_eq_true_eq]
  exact fun h => hc ((foldCase_eq_iff (by decide)).mp h.1.symm)

lemma behindClosing_dropWhile (cs : List Char) :
    behindClosing (cs.dropWhile fun c => c ≠ '<') = behindClosing cs := by
  induction cs with
  | nil => rfl
  | cons c cs ih =>
    by_cases hc : c = '<'
    · rw [List.dropWhile_cons_of_neg (by simpa using hc)]
    · rw [List.dropWhile_cons_of_pos (by simpa using hc), ih,
        behindClosing_cons (not_closing hc cs)]

lemma ends_otherTag_of_closing (h : Text.startsWith Package.scriptClosing cs = true)
    (b : Option Char) : otherTag.ends ⟨b, cs⟩ = [] := by
  obtain ⟨us, vs, rfl, hus⟩ := startsWith_iff.mp h
  have habsent : (Regex.absent (.word Package.scriptClosing)).ends ⟨b, us ++ vs⟩ = [] := by
    rw [Regex.ends, ends_word hus]
    rfl
  unfold otherTag
  rw [ends_seq, habsent, List.flatMap_nil]

lemma ends_otherTag (h : ¬Text.startsWith Package.scriptClosing cs = true) (b : Option Char) :
    otherTag.ends ⟨b, cs⟩ =
      if cs.head? = some '<' then upToBracket.ends ⟨some '<', cs.tail⟩ else [] := by
  have habsent : (Regex.absent (.word Package.scriptClosing)).ends ⟨b, cs⟩ = [⟨b, cs⟩] := by
    rw [Regex.ends, ends_word_eq_nil (Bool.eq_false_iff.mpr h)]
    rfl
  unfold otherTag
  rw [ends_seq, habsent, List.flatMap_singleton, ends_seq, ends_sign (by decide)]
  split
  · exact List.flatMap_singleton _ _
  · rfl

/-- A tag stands at a bracket, so no round can begin anywhere else. -/
lemma flatMap_rounds_of_ne (hc : c ≠ '<') (n : ℕ) (b : Option Char) (cs : List Char) :
    (rounds otherTag.ends n ⟨b, c :: cs⟩).flatMap (Regex.word Package.scriptClosing).ends = [] := by
  have hnone : otherTag.ends ⟨b, c :: cs⟩ = [] := by
    rw [ends_otherTag (not_closing hc cs), if_neg (by simpa using hc)]
  have hrounds : rounds otherTag.ends n ⟨b, c :: cs⟩ = [⟨b, c :: cs⟩] := by
    cases n with
    | zero => rfl
    | succ n =>
      rw [rounds, hnone]
      rfl
  rw [hrounds, List.flatMap_singleton,
    ends_word_eq_nil (Bool.eq_false_iff.mpr (not_closing hc cs))]

lemma eq_bracket_of_mem_head? (cs : List Char) :
    ∀ c ∈ (cs.dropWhile fun c => c ≠ '<').head?, c = '<' := by
  intro c hc
  have hnot := List.head?_dropWhile_not (fun c => c ≠ '<') cs
  rw [Option.mem_def.mp hc] at hnot
  simpa using hnot

/-- From a bracket on, the rounds that lead to a closing tag lead to the first one: a tag that
closes ends them, and each other one has to be taken up to the next bracket. -/
lemma flatMap_rounds {n : ℕ} (hn : cs.length ≤ n) (hhead : ∀ c ∈ cs.head?, c = '<')
    (b : Option Char) :
    ((rounds otherTag.ends n ⟨b, cs⟩).flatMap (Regex.word Package.scriptClosing).ends).map
      Cursor.behind = (behindClosing cs).toList := by
  induction n generalizing b cs with
  | zero =>
    obtain rfl := List.eq_nil_of_length_eq_zero (Nat.le_zero.mp hn)
    rfl
  | succ n ih =>
    cases cs with
    | nil => rfl
    | cons c cs =>
      obtain rfl : c = '<' := hhead c rfl
      by_cases hclose : Text.startsWith Package.scriptClosing ('<' :: cs) = true
      · obtain ⟨us, vs, htext, hus⟩ := startsWith_iff.mp hclose
        have hrounds : rounds otherTag.ends (n + 1) ⟨b, '<' :: cs⟩ = [⟨b, '<' :: cs⟩] := by
          rw [rounds, ends_otherTag_of_closing hclose]
          rfl
        rw [hrounds, List.flatMap_singleton, htext, ends_word hus, behindClosing_of_spells hus]
        rfl
      · have hends : otherTag.ends ⟨b, '<' :: cs⟩ = upToBracket.ends ⟨some '<', cs⟩ := by
          rw [ends_otherTag hclose, if_pos List.head?_cons, List.tail_cons]
        have hshorter : (upToBracket.ends ⟨some '<', cs⟩).filter
            (fun y => y.behind.length < ('<' :: cs).length) = upToBracket.ends ⟨some '<', cs⟩ := by
          refine List.filter_eq_self.mpr fun y hy => decide_eq_true ?_
          exact Nat.lt_succ_of_le (length_ends hy)
        have hlength : (cs.dropWhile fun c => c ≠ '<').length ≤ n :=
          (List.dropWhile_sublist _).length_le.trans (Nat.le_of_succ_le_succ hn)
        rw [rounds, hends, hshorter, List.flatMap_append, List.flatMap_singleton,
          ends_word_eq_nil (Bool.eq_false_iff.mpr hclose), List.append_nil, List.flatMap_assoc]
        unfold upToBracket
        rw [flatMap_many_one fun b c cs hc => flatMap_rounds_of_ne (by simpa using hc) n b cs,
          ih hlength (eq_bracket_of_mem_head? cs), behindClosing_dropWhile,
          behindClosing_cons hclose]

/-- Behind the name of an opening tag there is one way at most, up to the first closing tag. -/
lemma ends_inside (b : Option Char) (cs : List Char) :
    ((upToBracket.seq toClosing).ends ⟨b, cs⟩).map Cursor.behind = (behindClosing cs).toList := by
  have hother : ∀ b c cs, decide (c ≠ '<') = true → toClosing.ends ⟨b, c :: cs⟩ = [] :=
    fun b c cs hc => flatMap_rounds_of_ne (by simpa using hc) _ b cs
  unfold upToBracket
  rw [ends_seq, flatMap_many_one hother, ← behindClosing_dropWhile cs]
  exact flatMap_rounds le_rfl (eq_bracket_of_mem_head? cs) _

lemma isWord_lastOf (h : Spells Package.scriptOpening us) (b : Option Char) :
    (lastOf b us).any Text.isWord = true := by
  have hname : Package.scriptOpening = "<scrip".toList ++ ['t'] := rfl
  unfold Spells at h
  rw [hname] at h
  obtain ⟨init, last, rfl, -, hlast⟩ := List.map_eq_append_iff.mp h
  obtain ⟨u, rfl, hu⟩ := List.map_eq_singleton_iff.mp hlast
  rw [lastOf_append]
  obtain rfl | ⟨-, hsum⟩ := foldCase_cases hu (by decide)
  · rfl
  · have hcode : u.toNat = 84 := Nat.add_right_cancel hsum
    have hletter : u = 'T' := by
      rw [← Char.ofNat_toNat u, hcode]
    rw [hletter]
    rfl

lemma ends_script (h : Spells Package.scriptOpening us) (b : Option Char) (vs : List Char) :
    scriptRegex.ends ⟨b, us ++ vs⟩ =
      if vs.head?.any Text.isWord then []
      else (upToBracket.seq toClosing).ends ⟨lastOf b us, vs⟩ := by
  have hboundary : Regex.boundary.ends ⟨lastOf b us, vs⟩ =
      if vs.head?.any Text.isWord then [] else [⟨lastOf b us, vs⟩] := by
    rw [Regex.ends, Cursor.isBoundary, isWord_lastOf h]
    cases vs.head?.any Text.isWord <;> rfl
  unfold scriptRegex
  rw [ends_seq_word h, ends_seq, hboundary]
  split
  · rfl
  · exact List.flatMap_singleton _ _

/-- A block of which the name is spelled takes all through the first closing tag. -/
lemma span_script (h : Spells Package.scriptOpening us) (hword : ¬vs.head?.any Text.isWord = true)
    (b : Option Char) :
    scriptRegex.span ⟨b, us ++ vs⟩ = (Package.throughClosing us.length vs).getD 0 := by
  have hends := ends_script h b vs
  have hinside := ends_inside (lastOf b us) vs
  rw [if_neg hword] at hends
  rw [← hends] at hinside
  unfold behindClosing at hinside
  rw [throughClosing_add]
  cases hthrough : Package.throughClosing 0 vs with
  | none =>
    rw [hthrough] at hinside
    exact span_of_nil (List.map_eq_nil_iff.mp hinside)
  | some n =>
    rw [hthrough] at hinside
    have hle : n ≤ 0 + vs.length := throughClosing_le hthrough
    rw [span_of_behind hinside, List.length_append, List.length_drop, Option.map_some,
      Option.getD_some]
    omega

lemma runs_script : Runs scriptRegex Package.scriptBlock := by
  refine ⟨fun b cs => ?_, consumes_seq consumes_word⟩
  unfold Package.scriptBlock
  split
  · rename_i hstarts
    obtain ⟨us, vs, rfl, hus⟩ := startsWith_iff.mp hstarts
    have hlength : Package.scriptOpening.length = us.length := (length_of_spells hus).symm
    dsimp only
    rw [hlength, List.drop_left]
    split
    · rename_i hword
      refine span_of_nil ?_
      rw [ends_script hus, if_pos hword]
    · rename_i hword
      exact span_script hus hword b
  · rename_i hstarts
    exact span_of_nil (ends_seq_word_eq_nil hstarts b)

end

end Gamebook.Proofs
