import Gamebook.Json.Basic
import Gamebook.Text.Percent
import Gamebook.Text.Units

/-!
# Reading JSON

The reader accepts the standard format and the three words `NaN`, `Infinity` and `-Infinity`. A
numeral with a point or an exponent is a double, any other is a whole number, which must not be too
long. Of two fields with one key the later value counts, in the place of the first. The fuel of the
readers is a bound on the steps left; the length of the text is enough.
-/

namespace Gamebook.Json

inductive Fault where
  | malformed
  | oversized
deriving DecidableEq

def isSpace (c : Char) : Bool := c = ' ' || c = '\t' || c = '\n' || c = '\r'

def skipSpace (cs : List Char) : List Char := cs.dropWhile isSpace

def hex4? (a b c d : Char) : Option Nat := do
  let high := (← Text.hexDigit? a) * 16 + (← Text.hexDigit? b)
  let low := (← Text.hexDigit? c) * 16 + (← Text.hexDigit? d)
  return high * 256 + low

/-- The character behind a backslash other than `u`. -/
def unescape? : Char → Option Char
  | '"' => some '"'
  | '\\' => some '\\'
  | '/' => some '/'
  | 'b' => some '\x08'
  | 'f' => some '\x0c'
  | 'n' => some '\n'
  | 'r' => some '\r'
  | 't' => some '\t'
  | _ => none

/-- The text of pieces, unless it is garbled. -/
def textOf? (pieces : List Text.Piece) : Option String :=
  (Text.joinPieces? [] pieces).map String.ofList

/-- What pieces between quotes are, with the surrogates that belong together made characters. -/
def quoted (pieces : List Text.Piece) : Except Text.Garbled String :=
  match textOf? pieces with
  | some s => .ok s
  | none => Text.textOf (Text.joinPairs pieces)

def quotedValue (pieces : List Text.Piece) : Json :=
  match quoted pieces with
  | .ok s => .string s
  | .error g => .garbled g

def quotedField (pieces : List Text.Piece) (j : Json) : String × Json :=
  match quoted pieces with
  | .ok key => (key, j)
  | .error g => (g.shown, .keyed g j)

/-- The rest of a quoted text, after `done` (in reverse), up to its closing quote. -/
def readQuoted : List Text.Piece → List Char → Except Fault (List Text.Piece × List Char)
  | done, '"' :: cs => .ok (done.reverse, cs)
  | done, '\\' :: 'u' :: a :: b :: c :: d :: cs =>
    match hex4? a b c d with
    | some n => readQuoted (.ofUnit n :: done) cs
    | none => .error .malformed
  | done, '\\' :: c :: cs =>
    match unescape? c with
    | some ch => readQuoted (.char ch :: done) cs
    | none => .error .malformed
  | done, c :: cs =>
    if c.toNat < 0x20 || c = '\\' then .error .malformed else readQuoted (.char c :: done) cs
  | _, [] => .error .malformed

/-- The digits of a whole part, which has no needless zero in front. -/
def readWhole : List Char → Option (List Nat × List Char)
  | '0' :: cs => some ([0], cs)
  | cs =>
    match takeDigits Text.asciiDigit? cs with
    | ([], _) => none
    | found => some found

/-- The digits behind a point, if there are any; a point alone is left. -/
def readFraction (cs : List Char) : List Nat × List Char :=
  match cs with
  | '.' :: rest =>
    match takeDigits Text.asciiDigit? rest with
    | ([], _) => ([], cs)
    | found => found
  | _ => ([], cs)

/-- The exponent, if there is one with a digit; a lone mark is left. -/
def readPower (cs : List Char) : Option Int × List Char :=
  match cs with
  | c :: rest =>
    if c = 'e' || c = 'E' then
      let (negative, rest) := takeSign rest
      match takeDigits Text.asciiDigit? rest with
      | ([], _) => (none, cs)
      | (digits, rest) =>
        let n : Int := Text.ofDigits digits
        (some (if negative then -n else n), rest)
    else (none, cs)
  | [] => (none, cs)

/-- A numeral at the head of the text, after its sign. -/
def readUnsigned (negative : Bool) (cs : List Char) : Except Fault (Json × List Char) :=
  match readWhole cs with
  | none => .error .malformed
  | some (whole, rest) =>
    let (fraction, rest) := readFraction rest
    let (power, rest) := readPower rest
    if fraction.isEmpty && power.isNone then
      let n : Int := Text.ofDigits whole
      if Text.maxDigits < whole.length then .error .oversized
      else .ok (.number (.int (if negative then -n else n)), rest)
    else
      let d : Decimal :=
        ⟨negative, Text.ofDigits (whole ++ fraction), power.getD 0 - fraction.length⟩
      .ok (.number (.double d.toDouble), rest)

def words : List (List Char × Json) := [
  ("null".toList, .null),
  ("true".toList, .bool true),
  ("false".toList, .bool false),
  ("NaN".toList, .number (.double .nan)),
  ("Infinity".toList, .number (.double (.infinite false))),
  ("-Infinity".toList, .number (.double (.infinite true)))]

def readAtom (cs : List Char) : Except Fault (Json × List Char) :=
  match words.find? fun (word, _) => word.isPrefixOf cs with
  | some (word, j) => .ok (j, cs.drop word.length)
  | none =>
    match cs with
    | '-' :: rest => readUnsigned true rest
    | _ => readUnsigned false cs

mutual

def readValue : Nat → List Char → Except Fault (Json × List Char)
  | 0, _ => .error .malformed
  | fuel + 1, cs =>
    match cs with
    | '"' :: cs => (readQuoted [] cs).map fun (pieces, cs) => (quotedValue pieces, cs)
    | '[' :: cs =>
      match skipSpace cs with
      | ']' :: cs => .ok (.array [], cs)
      | cs => readItems fuel [] cs
    | '\x7b' :: cs =>
      match skipSpace cs with
      | '\x7d' :: cs => .ok (.object [], cs)
      | cs => readFields fuel [] cs
    | cs => readAtom cs

/-- The items of an array after `done` (in reverse), up to its closing bracket. -/
def readItems : Nat → List Json → List Char → Except Fault (Json × List Char)
  | 0, _, _ => .error .malformed
  | fuel + 1, done, cs =>
    match readValue fuel cs with
    | .error fault => .error fault
    | .ok (j, cs) =>
      match skipSpace cs with
      | ',' :: cs => readItems fuel (j :: done) (skipSpace cs)
      | ']' :: cs => .ok (.array (j :: done).reverse, cs)
      | _ => .error .malformed

/-- The fields of an object after `done` (in reverse), up to its closing brace. -/
def readFields : Nat → List (String × Json) → List Char → Except Fault (Json × List Char)
  | 0, _, _ => .error .malformed
  | fuel + 1, done, cs =>
    match cs with
    | '"' :: cs =>
      match readQuoted [] cs with
      | .error fault => .error fault
      | .ok (key, cs) =>
        match skipSpace cs with
        | ':' :: cs =>
          match readValue fuel (skipSpace cs) with
          | .error fault => .error fault
          | .ok (j, cs) =>
            match skipSpace cs with
            | ',' :: cs => readFields fuel (quotedField key j :: done) (skipSpace cs)
            | '\x7d' :: cs => .ok (.ofFields (quotedField key j :: done).reverse, cs)
            | _ => .error .malformed
        | _ => .error .malformed
    | _ => .error .malformed

end

/-- The value that a whole text writes. A byte-order mark is no part of a text. -/
def ofChars (cs : List Char) : Except Fault Json :=
  match readValue (cs.length + 1) (skipSpace cs) with
  | .error fault => .error fault
  | .ok (j, rest) => if (skipSpace rest).isEmpty then .ok j else .error .malformed

def ofText (s : String) : Except Fault Json := ofChars s.toList

/-- The value that bytes write, in any spelling of a text. -/
def ofBytes (bytes : ByteArray) : Except Fault Json :=
  match (Text.Spelling.detect (bytes.data.toList.take 4)).decode? bytes with
  | some cs => ofChars cs
  | none => .error .malformed

end Gamebook.Json
