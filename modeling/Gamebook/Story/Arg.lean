import Gamebook.Text.Blank

/-!
# Texts with a condition

An argument of a token must survive being joined with colons and bars and being trimmed: it is not
empty, holds neither `:` nor `|`, and has no white space at its ends. An identifier only must not be
empty.
-/

namespace Gamebook

/-- May the text stand between the colons of a token? -/
def isArgText (s : String) : Bool :=
  let cs := s.toList
  match cs.head?, cs.getLast? with
  | some first, some last =>
    !Text.isWhite first && !Text.isWhite last && cs.all fun c => c ≠ ':' && c ≠ '|'
  | _, _ => false

/-- An argument of a token. -/
structure Arg where
  text : String
  valid : isArgText text = true
deriving DecidableEq

/-- A text that is not empty. -/
structure Filled where
  text : String
  filled : text ≠ ""
deriving DecidableEq

namespace Arg

def ofText? (s : String) : Option Arg :=
  if h : isArgText s = true then some ⟨s, h⟩ else none

def zero : Arg := ⟨"0", by decide +kernel⟩

end Arg

namespace Filled

def ofText? (s : String) : Option Filled :=
  if h : s = "" then none else some ⟨s, h⟩

/-- The text, or another one in the place of an empty text. -/
def orElse (s : String) (other : Filled) : Filled := (ofText? s).getD other

end Filled

end Gamebook
