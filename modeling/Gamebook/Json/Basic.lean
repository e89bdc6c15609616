import Gamebook.Entries
import Gamebook.Number.Basic
import Gamebook.Text.Display

/-!
# JSON values

Objects keep the order of their keys. A text may have been written with a surrogate that has no
partner. No character stands for such a surrogate, so the text is garbled. `plain` and `display` are
the two ways in which a message shows a value: a text as it is, or between quotes.
-/

namespace Gamebook

/-- A JSON value; a number may also be an infinity or not a number. -/
inductive Json where
  | null
  | bool (b : Bool)
  | number (n : Number)
  | string (s : String)
  | garbled (g : Text.Garbled)
  | array (items : List Json)
  | object (fields : List (String × Json))
  /-- The value of a field whose key is garbled. The field stands under the key as it is shown. -/
  | keyed (key : Text.Garbled) (value : Json)

namespace Json

instance : Inhabited Json := ⟨.null⟩

instance : Coe String Json := ⟨.string⟩

/-- The text of pieces, garbled or not. -/
def ofPieces (pieces : List Text.Piece) : Json :=
  match Text.textOf pieces with
  | .ok s => .string s
  | .error g => .garbled g

def int (n : Int) : Json := .number (.int n)

/-- What tells a field from others: its key, and what a garbled key is made of. -/
def fieldKey : String × Json → String × Option (List Text.Piece)
  | (key, keyed g _) => (key, some g.pieces)
  | (key, _) => (key, none)

/-- The object with these fields, a later one replacing an earlier one of the same key. -/
def ofFields (fields : List (String × Json)) : Json :=
  .object (Entries.values (Entries.ofPairs (fields.map fun field => (fieldKey field, field))))

def field? (key : String) : Json → Option Json
  | object fields => Entries.get? key fields
  | _ => none

/-- The value of a field, `null` without one. -/
def field (key : String) (j : Json) : Json := (j.field? key).getD .null

def string? : Json → Option String
  | string s => some s
  | _ => none

/-- The text of a value that is one, garbled or not. -/
def text? : Json → Option String
  | string s => some s
  | garbled g => some g.shown
  | _ => none

def array? : Json → Option (List Json)
  | array items => some items
  | _ => none

def object? : Json → Option (Entries Json)
  | object fields => some fields
  | _ => none

def isNull : Json → Bool
  | null => true
  | _ => false

mutual

/-- The value with `null` for each number that is not finite. -/
def finitePart : Json → Json
  | number (.double x) => if x.isFinite then number (.double x) else null
  | array items => array (finiteItems items)
  | object fields => object (finiteFields fields)
  | keyed key j => keyed key (finitePart j)
  | j => j

def finiteItems : List Json → List Json
  | [] => []
  | j :: items => finitePart j :: finiteItems items

def finiteFields : List (String × Json) → List (String × Json)
  | [] => []
  | (key, j) :: fields => (key, finitePart j) :: finiteFields fields

end

/-- Is a number no whole one with too many digits to be written? -/
def isShort : Number → Bool
  | .int n => (decimalDigits n.natAbs).length ≤ Text.maxDigits
  | .double _ => true

mutual

/-- Can all numbers be written? -/
def isWritable : Json → Bool
  | number n => isShort n
  | array items => areWritable items
  | object fields => fieldsAreWritable fields
  | keyed _ j => isWritable j
  | _ => true

def areWritable : List Json → Bool
  | [] => true
  | j :: items => isWritable j && areWritable items

def fieldsAreWritable : List (String × Json) → Bool
  | [] => true
  | (_, j) :: fields => isWritable j && fieldsAreWritable fields

end

mutual

/-- How deep a value is nested, from its innermost part up to itself. -/
def height : Json → Nat
  | array items => itemsHeight items + 1
  | object fields => fieldsHeight fields + 1
  | keyed _ j => height j
  | _ => 1

def itemsHeight : List Json → Nat
  | [] => 0
  | j :: items => max (height j) (itemsHeight items)

def fieldsHeight : List (String × Json) → Nat
  | [] => 0
  | (_, j) :: fields => max (height j) (fieldsHeight fields)

end

/-- The refusal of a value that is nested too deep. -/
structure TooDeep where

/-- A copy of a value, which can be nested only so deep. -/
def copy (room : Nat) (j : Json) : Except TooDeep Json :=
  if j.height ≤ room then .ok j else .error ⟨⟩

/-- Every value is truthy but `null`, `false`, zero and what is empty. -/
def truthy : Json → Bool
  | null => false
  | bool b => b
  | number n => !n.isZero
  | string s => s ≠ ""
  | garbled _ => true
  | array items => !items.isEmpty
  | object fields => !fields.isEmpty
  | keyed _ j => truthy j

/-- The key of a field as a message shows it. -/
def displayKey (key : String) : Json → List Char
  | keyed garbledKey _ => garbledKey.display.toList
  | _ => (Text.display key).toList

mutual

def displayChars : Json → List Char
  | null => "None".toList
  | bool true => "True".toList
  | bool false => "False".toList
  | number n => n.text
  | string s => (Text.display s).toList
  | garbled g => g.display.toList
  | array items => '[' :: displayItems items ++ [']']
  | object fields => '\x7b' :: displayFields fields ++ ['\x7d']
  | keyed _ j => displayChars j

def displayItems : List Json → List Char
  | [] => []
  | [j] => displayChars j
  | j :: items => displayChars j ++ ", ".toList ++ displayItems items

def displayFields : List (String × Json) → List Char
  | [] => []
  | [(key, j)] => displayKey key j ++ ": ".toList ++ displayChars j
  | (key, j) :: fields =>
    displayKey key j ++ ": ".toList ++ displayChars j ++ ", ".toList ++ displayFields fields

end

/-- The value as a message shows it inside another value: texts are quoted. -/
def display (j : Json) : String := String.ofList j.displayChars

/-- Why a value cannot be shown in a message. -/
inductive Unshown where
  | tooDeep
  | oversized

/-- What keeps a value from being shown, if it can be nested only so deep. -/
def unshown? (room : Nat) (j : Json) : Option Unshown :=
  if room < j.height then some .tooDeep else if j.isWritable then none else some .oversized

/-- The value as a message shows it by itself: a text stands as it is. -/
def plain : Json → String
  | string s => s
  | garbled g => g.shown
  | j => j.display

end Json

end Gamebook
