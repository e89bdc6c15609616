import Gamebook.Json.Writer

/-!
# Scalars

The values that a cell or a token may be given as: nothing, a truth value, a number or a text.
-/

namespace Gamebook

/-- A value that has a text of its own. -/
inductive Scalar where
  | absent
  | flag (b : Bool)
  | number (n : Number)
  | text (s : String)

namespace Scalar

instance : Coe String Scalar := ⟨.text⟩

def plain : Scalar → String
  | absent => "None"
  | flag true => "True"
  | flag false => "False"
  | number n => String.ofList n.text
  | text s => s

/-- The text of a scalar, where nothing is the empty text. -/
def content : Scalar → String
  | absent => ""
  | s => s.plain

/-- Every scalar is truthy but nothing, `false`, zero and the empty text. -/
def truthy : Scalar → Bool
  | absent => false
  | flag b => b
  | number n => !n.isZero
  | text s => s ≠ ""

def cell : Scalar → String
  | absent => ""
  | flag true => "true"
  | flag false => "false"
  | number n => String.ofList n.cell
  | text s => s

def toJson : Scalar → Json
  | absent => .null
  | flag b => .bool b
  | number n => .number n
  | text s => .string s

def quoted (s : Scalar) : String := s.toJson.toLine

end Scalar

end Gamebook
