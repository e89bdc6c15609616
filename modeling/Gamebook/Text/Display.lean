import Gamebook.Text.Printable
import Gamebook.Text.Units

/-!
# Quoted display

How a message shows a text between quotes: single quotes, unless the text holds a single quote and
no double quote. Backslashes, the quote in use and the characters without a printed form are
escaped.
-/

namespace Gamebook.Text

/-- The lower-case hexadecimal digits of `n`, at least `width` of them. -/
def hex (width n : Nat) : List Char :=
  let digits := Nat.toDigits 16 n
  List.replicate (width - digits.length) '0' ++ digits

def displayChar (quote c : Char) : List Char :=
  if c = quote || c = '\\' then ['\\', c]
  else if c = '\n' then ['\\', 'n']
  else if c = '\r' then ['\\', 'r']
  else if c = '\t' then ['\\', 't']
  else if isPrintable c then [c]
  else if c.toNat < 0x100 then '\\' :: 'x' :: hex 2 c.toNat
  else if c.toNat < 0x10000 then '\\' :: 'u' :: hex 4 c.toNat
  else '\\' :: 'U' :: hex 8 c.toNat

/-- The quote around a text. -/
def quoteOf (cs : List Char) : Char :=
  if cs.contains '\'' && !cs.contains '"' then '"' else '\''

def display (s : String) : String :=
  let quote := quoteOf s.toList
  String.ofList (quote :: s.toList.flatMap (displayChar quote) ++ [quote])

def displayPiece (quote : Char) : Piece → List Char
  | .char c => displayChar quote c
  | .surrogate n => '\\' :: 'u' :: hex 4 n

/-- A garbled text between quotes, with its surrogates escaped. -/
def Garbled.display (g : Garbled) : String :=
  let quote := quoteOf (g.pieces.map Piece.shown)
  String.ofList (quote :: g.pieces.flatMap (displayPiece quote) ++ [quote])

end Gamebook.Text
