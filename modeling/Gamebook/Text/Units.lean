import Gamebook.Text.Encoding

/-!
# Text in wide units

A text may be written in units of two or of four bytes, in either order of the bytes. A unit of four
bytes is a character. So is a unit of two bytes, unless it is a surrogate: then two of them make one
character. The zeros among the first bytes tell how a text of a plain beginning is written.
-/

namespace Gamebook.Text

def charOf? (n : Nat) : Option Char :=
  if h : n.isValidChar then some (Char.ofNatAux n h) else none

def ofSurrogates? (high low : Nat) : Option Char :=
  if 0xD800 ≤ high ∧ high < 0xDC00 ∧ 0xDC00 ≤ low ∧ low < 0xE000 then
    charOf? (0x10000 + (high - 0xD800) * 0x400 + (low - 0xDC00))
  else none

/-- A character, or a surrogate that may be half of one. -/
inductive Piece where
  | char (c : Char)
  | surrogate (n : Nat)
deriving DecidableEq

def Piece.ofUnit (n : Nat) : Piece :=
  match charOf? n with
  | some c => char c
  | none => surrogate n

namespace Piece

def char? : Piece → Option Char
  | char c => some c
  | surrogate _ => none

/-- The character that is shown for a piece. -/
def shown : Piece → Char
  | char c => c
  | surrogate _ => '\ufffd'

end Piece

/-- The characters that pieces are, unless one of them is a surrogate. -/
def charsOf? (pieces : List Piece) : Option (List Char) := pieces.mapM Piece.char?

/-- A text of pieces that is not one of characters. -/
structure Garbled where
  pieces : List Piece
  isGarbled : charsOf? pieces = none

/-- The text of pieces, or the garbled text that they are. -/
def textOf (pieces : List Piece) : Except Garbled String :=
  match h : charsOf? pieces with
  | some cs => .ok (String.ofList cs)
  | none => .error ⟨pieces, h⟩

/-- The text as it is shown, each surrogate by a replacement character. -/
def Garbled.shown (g : Garbled) : String := String.ofList (g.pieces.map Piece.shown)

/-- Pieces with each two surrogates that belong together made one character. -/
def joinPairs : List Piece → List Piece
  | .surrogate high :: .surrogate low :: pieces =>
    match ofSurrogates? high low with
    | some c => .char c :: joinPairs pieces
    | none => .surrogate high :: joinPairs (.surrogate low :: pieces)
  | piece :: pieces => piece :: joinPairs pieces
  | [] => []

/-- The characters of pieces after `done` (in reverse), unless a surrogate has no partner. -/
def joinPieces? (done : List Char) : List Piece → Option (List Char)
  | [] => some done.reverse
  | .char c :: pieces => joinPieces? (c :: done) pieces
  | .surrogate high :: .surrogate low :: pieces =>
    match ofSurrogates? high low with
    | some c => joinPieces? (c :: done) pieces
    | none => none
  | .surrogate _ :: _ => none

/-- The number that bytes write, the greatest first. -/
def ofBytes (bytes : List UInt8) : Nat := bytes.foldl (fun n b => 256 * n + b.toNat) 0

inductive Spelling where
  | bytes
  | pairs (greatestFirst : Bool)
  | quads (greatestFirst : Bool)

namespace Spelling

def detect : List UInt8 → Spelling
  | a :: b :: c :: d :: _ =>
    if a = 0 then if b = 0 then quads true else pairs true
    else if b = 0 then if c = 0 && d = 0 then quads false else pairs false
    else bytes
  | [a, b] => if a = 0 then pairs true else if b = 0 then pairs false else bytes
  | _ => bytes

def unit (greatestFirst : Bool) (bytes : List UInt8) : Nat :=
  ofBytes (if greatestFirst then bytes else bytes.reverse)

/-- The units of two bytes each, after `done` (in reverse), if the bytes are used up by them. -/
def unitsOfPairs? (greatestFirst : Bool) (done : List Nat) : List UInt8 → Option (List Nat)
  | [] => some done.reverse
  | a :: b :: rest => unitsOfPairs? greatestFirst (unit greatestFirst [a, b] :: done) rest
  | [_] => none

/-- The units of four bytes each, after `done` (in reverse), if the bytes are used up by them. -/
def unitsOfQuads? (greatestFirst : Bool) (done : List Nat) : List UInt8 → Option (List Nat)
  | [] => some done.reverse
  | a :: b :: c :: d :: rest =>
    unitsOfQuads? greatestFirst (unit greatestFirst [a, b, c, d] :: done) rest
  | _ => none

/-- The characters that bytes write in a spelling. A byte order mark in front is none of them. -/
def decode? (bytes : ByteArray) : Spelling → Option (List Char)
  | .bytes => (Text.decode? bytes).map fun s => dropMark s.toList
  | .pairs first =>
    (unitsOfPairs? first [] bytes.data.toList).bind fun units =>
      joinPieces? [] (units.map Piece.ofUnit)
  | .quads first => (unitsOfQuads? first [] bytes.data.toList).bind fun units => units.mapM charOf?

end Spelling

end Gamebook.Text
