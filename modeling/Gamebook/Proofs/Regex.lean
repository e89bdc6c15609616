import Gamebook.Proofs.Payloads

/-!
# Regular expressions

A regular expression matches at a place of a text in several ways, of which repetitions prefer the
longer ones. Backtracking tries the ways in this order, so a search takes the first one that goes
through to the end of the expression. What a search deletes is marked character by character.
-/

namespace Gamebook.Proofs

/-- A place in a text: the character before it, if there is one, and all that is behind it. -/
structure Cursor where
  before : Option Char
  behind : List Char

/-- Is there a word character on exactly one side? -/
def Cursor.isBoundary (x : Cursor) : Bool :=
  x.before.any Text.isWord != x.behind.head?.any Text.isWord

/-- The character before the place behind some characters. -/
def lastOf (before : Option Char) (cs : List Char) : Option Char :=
  cs.foldl (fun _ c => some c) before

inductive Regex where
  /-- Matches nothing, everywhere. -/
  | nothing
  /-- A character of a class. -/
  | one (p : Char → Bool)
  | seq (r s : Regex)
  /-- Any number of matches, as many as possible. -/
  | many (r : Regex)
  /-- Nothing, where there is no match. -/
  | absent (r : Regex)
  /-- Nothing, at the beginning or the end of a word. -/
  | boundary

/-- The ends of up to `n` rounds, each of which takes some characters; more rounds come first. -/
def rounds (ends : Cursor → List Cursor) : ℕ → Cursor → List Cursor
  | 0, x => [x]
  | n + 1, x =>
    ((ends x).filter fun y => y.behind.length < x.behind.length).flatMap (rounds ends n) ++ [x]

namespace Regex

/-- The places at which the matches at a place end, the preferred one first. -/
def ends : Regex → Cursor → List Cursor
  | nothing, x => [x]
  | one _, ⟨_, []⟩ => []
  | one p, ⟨_, c :: cs⟩ => if p c then [⟨some c, cs⟩] else []
  | seq r s, x => (r.ends x).flatMap s.ends
  | many r, x => rounds r.ends x.behind.length x
  | absent r, x => if (r.ends x).isEmpty then [x] else []
  | boundary, x => if x.isBoundary then [x] else []

/-- A word of small letters, in any case. -/
def word (letters : List Char) : Regex :=
  letters.foldr (fun letter r => seq (one fun c => letter = Text.foldCase c) r) nothing

/-- The number of characters that the preferred match takes, zero without a match. -/
def span (r : Regex) (x : Cursor) : ℕ :=
  match r.ends x with
  | [] => 0
  | y :: _ => x.behind.length - y.behind.length

/-- The marks of a search that deletes the matches which it finds from left to right. The first `n`
characters belong to a match already. -/
def marksFrom (r : Regex) : ℕ → Option Char → List Char → List (Option Char)
  | _, _, [] => []
  | n + 1, _, c :: cs => none :: r.marksFrom n (some c) cs
  | 0, before, c :: cs =>
    match r.span ⟨before, c :: cs⟩ with
    | 0 => some c :: r.marksFrom 0 (some c) cs
    | n + 1 => none :: r.marksFrom n (some c) cs

/-- The marks of a text when all matches are deleted. -/
def marks (r : Regex) (cs : List Char) : List (Option Char) := r.marksFrom 0 none cs

/-- The text without the matches. -/
def deleted (r : Regex) (cs : List Char) : List Char := (r.marks cs).reduceOption

/-- There is a match at some place of the text. -/
def FoundIn (r : Regex) (cs : List Char) : Prop :=
  ∃ us vs, cs = us ++ vs ∧ r.ends ⟨lastOf none us, vs⟩ ≠ []

end Regex

/-! ## Ends of matches -/

section

variable {r s : Regex} {p : Char → Bool} {b : Option Char} {c : Char} {x y : Cursor}
  {cs us vs letters : List Char}

lemma ends_seq (r s : Regex) (x : Cursor) : (r.seq s).ends x = (r.ends x).flatMap s.ends := rfl

lemma ends_one_cons : (Regex.one p).ends ⟨b, c :: cs⟩ = if p c then [⟨some c, cs⟩] else [] := rfl

lemma lastOf_append : lastOf b (us ++ vs) = lastOf (lastOf b us) vs := List.foldl_append

lemma length_rounds {ends : Cursor → List Cursor} {n : ℕ} (hy : y ∈ rounds ends n x) :
    y.behind.length ≤ x.behind.length := by
  induction n generalizing x with
  | zero =>
    obtain rfl := List.mem_singleton.mp hy
    exact le_rfl
  | succ n ih =>
    rw [rounds, List.mem_append, List.mem_singleton, List.mem_flatMap] at hy
    obtain ⟨z, hz, hy⟩ | rfl := hy
    · have hshorter := of_decide_eq_true (List.mem_filter.mp hz).2
      exact (ih hy).trans hshorter.le
    · exact le_rfl

lemma length_ends (hy : y ∈ r.ends x) : y.behind.length ≤ x.behind.length := by
  induction r generalizing x y with
  | nothing =>
    obtain rfl := List.mem_singleton.mp hy
    exact le_rfl
  | one p =>
    obtain ⟨b, cs⟩ := x
    cases cs with
    | nil => exact absurd hy List.not_mem_nil
    | cons c cs =>
      rw [ends_one_cons] at hy
      split at hy
      · obtain rfl := List.mem_singleton.mp hy
        exact Nat.le_succ _
      · exact absurd hy List.not_mem_nil
  | seq r s ihr ihs =>
    obtain ⟨z, hz, hy⟩ := List.mem_flatMap.mp hy
    exact (ihs hy).trans (ihr hz)
  | many r _ => exact length_rounds hy
  | absent r _ =>
    rw [Regex.ends] at hy
    split at hy
    · obtain rfl := List.mem_singleton.mp hy
      exact le_rfl
    · exact absurd hy List.not_mem_nil
  | boundary =>
    rw [Regex.ends] at hy
    split at hy
    · obtain rfl := List.mem_singleton.mp hy
      exact le_rfl
    · exact absurd hy List.not_mem_nil

/-- Every match takes some characters. -/
def Regex.Consumes (r : Regex) : Prop :=
  ∀ x, ∀ y ∈ r.ends x, y.behind.length < x.behind.length

lemma consumes_one (p : Char → Bool) : (Regex.one p).Consumes := by
  rintro ⟨b, cs⟩ y hy
  cases cs with
  | nil => exact absurd hy List.not_mem_nil
  | cons c cs =>
    rw [ends_one_cons] at hy
    split at hy
    · obtain rfl := List.mem_singleton.mp hy
      exact Nat.lt_succ_self _
    · exact absurd hy List.not_mem_nil

lemma consumes_seq (h : r.Consumes) : (r.seq s).Consumes := by
  intro x y hy
  obtain ⟨z, hz, hy⟩ := List.mem_flatMap.mp hy
  exact (length_ends hy).trans_lt (h x z hz)

lemma consumes_word {letter : Char} : (Regex.word (letter :: letters)).Consumes :=
  consumes_seq (consumes_one _)

lemma ends_word (h : Spells letters us) (b : Option Char) (vs : List Char) :
    (Regex.word letters).ends ⟨b, us ++ vs⟩ = [⟨lastOf b us, vs⟩] := by
  induction us generalizing letters b with
  | nil =>
    obtain rfl : [] = letters := h
    rfl
  | cons u us ih =>
    obtain rfl : Text.foldCase u :: us.map Text.foldCase = letters := h
    have hhead : (Regex.one fun c => Text.foldCase u = Text.foldCase c).ends ⟨b, u :: us ++ vs⟩ =
        [⟨some u, us ++ vs⟩] := if_pos (decide_eq_true rfl)
    have hword : Regex.word (Text.foldCase u :: us.map Text.foldCase) =
        .seq (.one fun c => Text.foldCase u = Text.foldCase c)
          (.word (us.map Text.foldCase)) := rfl
    rw [hword, ends_seq, hhead, List.flatMap_singleton, ih rfl]
    rfl

lemma ends_word_eq_nil (h : Text.startsWith letters cs = false) (b : Option Char) :
    (Regex.word letters).ends ⟨b, cs⟩ = [] := by
  induction letters generalizing cs b with
  | nil => exact absurd h (by simp [Text.startsWith])
  | cons letter letters ih =>
    cases cs with
    | nil => rfl
    | cons c cs =>
      rw [Text.startsWith] at h
      have hword : (Regex.word (letter :: letters)).ends ⟨b, c :: cs⟩ =
          (if letter = Text.foldCase c then [⟨some c, cs⟩] else []).flatMap
            (Regex.word letters).ends := by
        simp [Regex.word, Regex.ends]
      rw [hword]
      split
      · rename_i hletter
        rw [List.flatMap_singleton]
        refine ih ?_ _
        simpa [hletter] using h
      · rfl

/-- Of the repetitions of a character only the longest one counts, if the rest of the expression
does not begin with such a character. -/
lemma flatMap_many_one {β : Type} {f : Cursor → List β}
    (hf : ∀ b c cs, p c = true → f ⟨b, c :: cs⟩ = []) (b : Option Char) (cs : List Char) :
    ((Regex.one p).many.ends ⟨b, cs⟩).flatMap f =
      f ⟨lastOf b (cs.takeWhile p), cs.dropWhile p⟩ := by
  induction cs generalizing b with
  | nil => exact List.flatMap_singleton f _
  | cons c cs ih =>
    by_cases hc : p c = true
    · have hrounds : (Regex.one p).many.ends ⟨b, c :: cs⟩ =
          (Regex.one p).many.ends ⟨some c, cs⟩ ++ [⟨b, c :: cs⟩] := by
        simp [Regex.ends, rounds, hc]
      rw [hrounds, List.flatMap_append, List.flatMap_singleton, hf b c cs hc, List.append_nil, ih,
        List.takeWhile_cons_of_pos hc, List.dropWhile_cons_of_pos hc]
      rfl
    · have hrounds : (Regex.one p).many.ends ⟨b, c :: cs⟩ = [⟨b, c :: cs⟩] := by
        simp [Regex.ends, rounds, hc]
      rw [hrounds, List.flatMap_singleton, List.takeWhile_cons_of_neg hc,
        List.dropWhile_cons_of_neg hc]
      rfl

end

/-! ## Searches -/

/-- The expression takes the characters that the pattern takes, at every place. -/
structure Runs (r : Regex) (p : Package.Pattern) : Prop where
  span : ∀ b cs, r.span ⟨b, cs⟩ = p cs
  consumes : r.Consumes

section

variable {r : Regex} {p : Package.Pattern} {Kind : List Char → Prop} {b : Option Char} {n : ℕ}
  {cs : List Char}

lemma marksFrom_eq (h : Runs r p) (n : ℕ) (b : Option Char) (cs : List Char) :
    r.marksFrom n b cs = marksFrom p n cs := by
  induction cs generalizing n b with
  | nil => rw [Regex.marksFrom, marksFrom]
  | cons c cs ih =>
    cases n with
    | succ n => exact congrArg (none :: ·) (ih n (some c))
    | zero =>
      rw [Regex.marksFrom, marksFrom, h.span]
      cases p (c :: cs) with
      | zero => exact congrArg (some c :: ·) (ih 0 (some c))
      | succ n => exact congrArg (none :: ·) (ih n (some c))

lemma deleted_eq (h : Runs r p) (cs : List Char) : r.deleted cs = Package.delete p cs := by
  unfold Regex.deleted Regex.marks
  rw [marksFrom_eq h, reduceOption_marksFrom]
  rfl

lemma ends_eq_nil_iff (h : Runs r p) (b : Option Char) (cs : List Char) :
    r.ends ⟨b, cs⟩ = [] ↔ p cs = 0 := by
  rw [← h.span b cs]
  unfold Regex.span
  cases hends : r.ends ⟨b, cs⟩ with
  | nil => simp
  | cons y ys =>
    have hshorter : y.behind.length < cs.length := by
      refine h.consumes ⟨b, cs⟩ y ?_
      rw [hends]
      exact List.mem_cons_self
    simp only [reduceCtorEq, false_iff]
    omega

/-- A search finds something exactly in the texts with a part of the kind. -/
lemma foundIn_iff (h : Runs r p) (hfinds : Finds p Kind) :
    r.FoundIn cs ↔ ∃ us, us <:+: cs ∧ Kind us := by
  unfold Regex.FoundIn
  simp only [ne_eq, ends_eq_nil_iff h]
  constructor
  · rintro ⟨before, behind, rfl, hp⟩
    obtain ⟨us, vs, rfl, hkind⟩ := hfinds.sound behind hp
    exact ⟨us, ⟨before, vs, by simp⟩, hkind⟩
  · rintro ⟨us, ⟨before, vs, rfl⟩, hkind⟩
    exact ⟨before, us ++ vs, by simp, hfinds.found us vs hkind⟩

end

end Gamebook.Proofs
