import Gamebook.Text.Blank

/-!
# Splitting at a separator

Cells are cut at `|` into segments and segments at `:` into parts. A cut never loses a character
other than the separator, and there is always at least one piece.
-/

namespace Gamebook.Text

/-- Puts `c` in front of the first piece. -/
def consFirst {α : Type} (c : α) : List (List α) → List (List α)
  | [] => [[c]]
  | piece :: pieces => (c :: piece) :: pieces

def splitAt {α : Type} [DecidableEq α] (sep : α) (l : List α) : List (List α) :=
  l.foldr (fun c pieces => if c = sep then [] :: pieces else consFirst c pieces) [[]]

/-- The non-blank segments of a cell between the bars, trimmed. -/
def barSegments (s : String) : List String :=
  ((splitAt '|' s.toList).map fun piece => String.ofList (trimBy isBlank piece)).filter (· ≠ "")

/-- The parts of a token between the colons, trimmed. -/
def colonParts (s : String) : List String :=
  (splitAt ':' s.toList).map fun piece => String.ofList (trimBy isBlank piece)

section

variable {α : Type} [DecidableEq α] (sep : α)

@[simp] theorem splitAt_nil : splitAt sep [] = [[]] := rfl

theorem splitAt_cons (c : α) (l : List α) :
    splitAt sep (c :: l) =
      if c = sep then [] :: splitAt sep l else consFirst c (splitAt sep l) := rfl

theorem splitAt_ne_nil (l : List α) : splitAt sep l ≠ [] := by
  cases l with
  | nil => simp
  | cons c l =>
    rw [splitAt_cons]
    split
    · simp
    · cases splitAt sep l <;> simp [consFirst]

end

end Gamebook.Text
