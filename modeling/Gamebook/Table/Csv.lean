import Gamebook.Table.Row

/-!
# Comma-separated text

Writing quotes a field that holds a comma, a quote or a line end, and writes a quote inside twice.
Reading is strict: a quote opens a quoted field only at its start, after the closing quote only a
comma or a line end may follow, and a quoted field must be closed. Lines end at a line feed, at a
carriage return or at both together.
-/

namespace Gamebook.Csv

/-! ## Writing -/

/-- Must a field that holds this character be quoted? -/
def isSpecial (c : Char) : Bool := c = ',' || c = '"' || c = '\n' || c = '\r'

def doubleQuotes (cs : List Char) : List Char :=
  cs.flatMap fun c => if c = '"' then ['"', '"'] else [c]

def escape (s : String) : String :=
  let cs := s.toList
  if cs.any isSpecial then String.ofList ('"' :: doubleQuotes cs ++ ['"']) else s

def line (fields : List String) : String := ",".intercalate (fields.map escape)

/-- A table with its header; a cell that a row does not give is empty. -/
def write (columns : List String) (rows : List (Entries String)) : String :=
  "\n".intercalate
    (line columns :: rows.map fun row => line (columns.map fun c => (Entries.get? c row).getD ""))

/-! ## Reading -/

inductive Fault where
  /-- Something other than a comma or a line end follows a closing quote. -/
  | afterQuote
  | openQuote
  /-- A field is longer than the limit. -/
  | oversized
deriving DecidableEq

def fieldLimit : Nat := 131072

def Fault.message : Fault → String
  | afterQuote => "',' expected after '\"'"
  | openQuote => "unexpected end of data"
  | oversized => "field larger than field limit (" ++ natText fieldLimit ++ ")"

inductive Place where
  /-- In front of a record. -/
  | start
  /-- Behind the carriage return that ended a record: a line feed belongs to it. -/
  | carriage
  /-- In front of a field that is not the first. -/
  | field
  | plain
  | quoted
  /-- Behind a quote inside a quoted field. -/
  | closing
deriving DecidableEq

/-- What has been read: the open field, the fields before it and the records before them, each in
reverse. -/
structure State where
  place : Place
  pending : List Char
  size : Nat
  fields : List String
  records : List (List String)

namespace State

def initial : State := ⟨.start, [], 0, [], []⟩

def push (s : State) (place : Place) (c : Char) : Except Fault State :=
  if fieldLimit ≤ s.size then .error .oversized
  else .ok { s with place, pending := c :: s.pending, size := s.size + 1 }

def endField (s : State) : State :=
  { s with
    place := .field, pending := [], size := 0
    fields := String.ofList s.pending.reverse :: s.fields }

def endRecord (s : State) (place : Place) : State :=
  { s with place, fields := [], records := s.fields.reverse :: s.records }

def endLine (s : State) (c : Char) : State :=
  s.endField.endRecord (if c = '\r' then .carriage else .start)

def begin (s : State) (c : Char) : Except Fault State :=
  if c = '"' then .ok { s with place := .quoted }
  else if c = ',' then .ok s.endField
  else s.push .plain c

/-- Reads a character in front of a record. An empty line is a record without fields. -/
def beginRecord (s : State) (c : Char) : Except Fault State :=
  if c = '\n' then .ok (s.endRecord .start)
  else if c = '\r' then .ok (s.endRecord .carriage)
  else s.begin c

def step (s : State) (c : Char) : Except Fault State :=
  match s.place with
  | .start => s.beginRecord c
  | .carriage => if c = '\n' then .ok { s with place := .start } else s.beginRecord c
  | .field => if c = '\n' || c = '\r' then .ok (s.endLine c) else s.begin c
  | .plain =>
    if c = '\n' || c = '\r' then .ok (s.endLine c)
    else if c = ',' then .ok s.endField
    else s.push .plain c
  | .quoted => if c = '"' then .ok { s with place := .closing } else s.push .quoted c
  | .closing =>
    if c = '"' then s.push .quoted c
    else if c = ',' then .ok s.endField
    else if c = '\n' || c = '\r' then .ok (s.endLine c)
    else .error .afterQuote

/-- The records, once the text has ended. -/
def finish (s : State) : Except Fault (List (List String)) :=
  match s.place with
  | .start | .carriage => .ok s.records.reverse
  | .quoted => .error .openQuote
  | .field | .plain | .closing => .ok (s.endLine '\n').records.reverse

def run (s : State) : List Char → Except Fault State
  | [] => .ok s
  | c :: cs =>
    match s.step c with
    | .ok s => s.run cs
    | .error fault => .error fault

end State

def records (cs : List Char) : Except Fault (List (List String)) :=
  match State.initial.run cs with
  | .ok s => s.finish
  | .error fault => .error fault

/-- The row of a record: cells beyond the columns are dropped, missing cells are empty, and a column
without a name holds nothing. -/
def row (columns cells : List String) : Row :=
  let padded := cells ++ List.replicate (columns.length - cells.length) ""
  Entries.ofPairs (((columns.zip padded).filter fun (column, _) => column ≠ "").map
    fun (column, cell) => (column, some (Text.trim cell)))

/-- The rows under a header, without the records that are blank. -/
def rows : List (List String) → List Row
  | [] => []
  | header :: records =>
    (records.filter fun cells => cells.any fun cell => !Text.isBlankText cell).map
      (row (header.map Text.trim))

def read (cs : List Char) : Except Fault (List Row) := (records cs).map rows

end Gamebook.Csv
