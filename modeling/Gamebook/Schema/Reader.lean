import Gamebook.Json.Basic
import Gamebook.Schema.Problem
import Gamebook.Story.Arg

/-!
# Reading values of known shapes

Readers for the leaves and the shapes that entities are made of. A field is found under its camel
case name or else under its snake case one; a key that no field takes is a problem of its own.
-/

namespace Gamebook

abbrev Reader (α : Type) := Json → Checked α

namespace Reader

variable {α β : Type}

def string : Reader String
  | .string s => .ok s
  | .garbled _ => .fail .notUnicode
  | _ => .fail .notString

def filled : Reader Filled
  | .string s =>
    match Filled.ofText? s with
    | some t => .ok t
    | none => .fail .tooShort
  | .garbled _ => .fail .notUnicode
  | _ => .fail .notString

def arg : Reader Arg
  | .string s =>
    match Arg.ofText? s with
    | some a => .ok a
    | none => .fail (if s = "" then .tooShort else .malformed)
  | .garbled _ => .fail .notUnicode
  | _ => .fail .notString

def truthWords : List (String × Bool) := [
  ("0", false), ("off", false), ("f", false), ("false", false), ("n", false), ("no", false),
  ("1", true), ("on", true), ("t", true), ("true", true), ("y", true), ("yes", true)]

/-- A truth value, a word for one, or a number that is zero or one. A number of 64 bits counts as a
word that is not known. -/
def bool : Reader Bool
  | .bool b => .ok b
  | .number (.int 0) => .ok false
  | .number (.int 1) => .ok true
  | .number (.int n) =>
    .fail (if -Nat.pow 2 63 ≤ n && n < Nat.pow 2 63 then .unreadableBool else .notBool)
  | .number (.double x) =>
    match x.toInt? with
    | some 0 => .ok false
    | some 1 => .ok true
    | some n => .fail (if n.natAbs < Nat.pow 2 63 then .unreadableBool else .notBool)
    | none => .fail .notBool
  | .string s =>
    match truthWords.lookup s.toLower with
    | some b => .ok b
    | none => .fail .unreadableBool
  | .garbled _ => .fail .notUnicode
  | _ => .fail .notBool

/-! ## Numerals

A whole number may be written plainly: digits without a needless zero in front, and maybe a minus
before them. A text that is not a plain numeral is tidied into one, if it can be. -/

/-- The minus of a numeral, and its digits with all that follows them. -/
def takeMinus : List Char → List Char × List Char
  | '-' :: cs => (['-'], cs)
  | cs => ([], cs)

def isPositiveDigit (c : Char) : Bool := '1' ≤ c && c ≤ '9'

/-- Does the text begin with a plain numeral that is too long to be read? Its minus counts. -/
def isOversized (cs : List Char) : Bool :=
  let (minus, digits) := takeMinus cs
  digits.head?.any isPositiveDigit &&
    Text.maxDigits < minus.length + (takeDigits Text.asciiDigit? digits).1.length

def plainInt? (cs : List Char) : Option Int :=
  let (minus, digits) := takeMinus cs
  let n : Int := Text.ofDigits (digits.filterMap Text.asciiDigit?)
  if isOversized cs then none
  else if digits = ['0'] ||
      digits.head?.any isPositiveDigit && digits.all fun c => (Text.asciiDigit? c).isSome then
    some (if minus.isEmpty then n else -n)
  else none

/-- A numeral without the zeros in front and the underscores among them, down to a last zero if no
digit follows. A minus may stand behind the zeros. -/
def dropZeros? (cs : List Char) : Option (List Char) :=
  if cs.head? = some '0' then
    let zeros := cs.takeWhile fun c => c = '0' || c = '_'
    let lastZero := zeros.drop (zeros.length - 1)
    match cs.drop zeros.length with
    | [] => some lastZero
    | '.' :: fraction => some (lastZero ++ '.' :: fraction)
    | c :: rest => if c = '-' || isPositiveDigit c then some (c :: rest) else none
  else if cs.head?.any fun c => c = '-' || isPositiveDigit c then some cs
  else none

/-- A numeral without a fraction of zeros, of which there is at least one. -/
def dropZeroFraction (cs : List Char) : List Char :=
  match cs.dropWhile (· ≠ '.') with
  | _ :: fraction =>
    if !fraction.isEmpty && fraction.all (· = '0') then cs.takeWhile (· ≠ '.') else cs
  | [] => cs

def doubleUnderscore : List Char → Bool
  | '_' :: '_' :: _ => true
  | _ :: cs => doubleUnderscore cs
  | [] => false

/-- A numeral without its underscores, which may only stand singly between other characters. -/
def dropUnderscores? (cs : List Char) : Option (List Char) :=
  if cs.head? = some '_' || cs.getLast? = some '_' || doubleUnderscore cs then none
  else some (cs.filter (· ≠ '_'))

/-- The plain numeral that a text comes down to without its blanks, its plus, its zeros in front,
its fraction of zeros and its underscores. -/
def tidyNumeral? (cs : List Char) : Option (List Char) := do
  let cs := Text.trimBy Text.isWhite cs
  let cs ← match cs with
    | '+' :: '-' :: _ => none
    | '+' :: rest => some rest
    | _ => some cs
  let (minus, cs) := takeMinus cs
  return minus ++ (← dropUnderscores? (dropZeroFraction (← dropZeros? cs)))

def intOfText (s : String) : Except ProblemKind Int :=
  match plainInt? s.toList with
  | some n => .ok n
  | none =>
    if isOversized s.toList then .error .oversizedInt
    else
      match (tidyNumeral? s.toList).bind plainInt? with
      | some n => .ok n
      | none => .error .unreadableInt

def doubleOfText? (s : String) : Option Double :=
  match readDouble? Text.asciiDigit? (Text.trimBy Text.isWhite s.toList) with
  | some x => some x
  | none => (dropUnderscores? s.toList).bind (readDouble? Text.asciiDigit?)

/-- The two problems of what is neither a whole number nor a double. -/
def neither (asInt asDouble : ProblemKind) : Checked α :=
  .refused [⟨["int"], asInt⟩, ⟨["float"], asDouble⟩]

/-- A number keeps its kind; a text is a whole number if it can be one. -/
def number : Reader Number
  | .number n => .ok n
  | .bool b => .ok (.int (if b then 1 else 0))
  | .string s =>
    match intOfText s, doubleOfText? s with
    | .ok n, _ => .ok (.int n)
    | .error _, some x => .ok (.double x)
    | .error kind, none => neither kind .unreadableDouble
  | .garbled _ => neither .notUnicode .notUnicode
  | _ => neither .notInt .notDouble

/-- A whole number; a double serves if it is whole. -/
def int : Reader Int
  | .number (.int n) => .ok n
  | .number (.double x) =>
    match x.toInt? with
    | some n => if n.natAbs < Nat.pow 2 63 then .ok n else .fail .oversizedInt
    | none => .fail (if x.isFinite then .fractionalInt else .notFinite)
  | .bool b => .ok (if b then 1 else 0)
  | .string s =>
    match intOfText s with
    | .ok n => .ok n
    | .error kind => .fail kind
  | .garbled _ => .fail .notUnicode
  | _ => .fail .notInt

def literal (word : String) : Reader Unit
  | .string s => if s = word then .ok () else .fail .otherLiteral
  | _ => .fail .otherLiteral

/-- One of some fixed texts, for what it stands for. -/
def oneOf (words : List (String × α)) : Reader α
  | .string s =>
    match words.lookup s with
    | some a => .ok a
    | none => .fail .otherLiteral
  | _ => .fail .otherLiteral

/-- `null` for nothing. -/
def nullable (read : Reader α) : Reader (Option α)
  | .null => .ok none
  | j => (read j).map some

def list (read : Reader α) : Reader (List α)
  | .array items => .all (items.mapIdx fun i j => (read j).under (natText i))
  | _ => .fail .notList

/-- The value of a field with its key, which must not be garbled. -/
def entry (read : Reader α) : String × Json → Checked (String × α)
  | (key, .keyed _ j) =>
    ((Checked.fail .notUnicode).under "[key]").under key <* (read j).under key
  | (key, j) => ((read j).under key).map (Prod.mk key)

/-- The values of an object with their keys. -/
def map (read : Reader α) : Reader (List (String × α))
  | .object fields => .all (fields.map (entry read))
  | _ => .fail .notMap

end Reader

/-- The two names of a field. -/
structure FieldName where
  camel : String
  snake : String

namespace FieldName

def word (name : String) : FieldName := ⟨name, name⟩

/-- The key under which an object gives the field. -/
def keyIn? (f : FieldName) (fields : Entries Json) : Option String :=
  if (Entries.get? f.camel fields).isSome then some f.camel
  else if (Entries.get? f.snake fields).isSome then some f.snake
  else none

end FieldName

namespace Reader

variable {α : Type}

def required (fields : Entries Json) (f : FieldName) (read : Reader α) : Checked α :=
  match f.keyIn? fields with
  | some key => (read ((Entries.get? key fields).getD .null)).under key
  | none => (Checked.fail .missing).under f.camel

def optional (fields : Entries Json) (f : FieldName) (read : Reader α) (default : α) : Checked α :=
  match f.keyIn? fields with
  | some key => (read ((Entries.get? key fields).getD .null)).under key
  | none => .ok default

/-- No key but those that the fields take. -/
def noOthers (fields : Entries Json) (names : List FieldName) : Checked Unit :=
  let taken := names.filterMap fun f => f.keyIn? fields
  match (Entries.keys fields).filter fun key => !taken.contains key with
  | [] => .ok ()
  | others => .refused (others.map fun key => ⟨[key], .extra⟩)

def fields (read : Entries Json → Checked α) : Reader α
  | .object fields => read fields
  | _ => .fail .notObject

/-- One of several objects, told apart by the text of one field. -/
def tagged (tag : FieldName) (variants : List (String × (Entries Json → Checked α))) : Reader α
  | .object fields =>
    match (tag.keyIn? fields).bind fun key => Entries.get? key fields with
    | none => .fail .tagMissing
    | some (.string name) =>
      match variants.lookup name with
      | some read => (read fields).under name
      | none => .fail .tagUnknown
    | some _ => .fail .tagUnknown
  | _ => .fail .notObject

end Reader

end Gamebook
