import Gamebook.Number.Shortest

/-!
# Numbers

A number is a whole number of any size or a double, and the two kinds stay apart. Comparison is
exact across the kinds: both are placed on one line, counted in units of `2 ^ -1074`. What is not a
number has no place and compares as false.
-/

namespace Gamebook

inductive Number where
  | int (n : Int)
  | double (x : Double)
deriving DecidableEq

/-- A place on the number line, counted in units of `2 ^ -1074`, or beyond one of its ends. -/
inductive Place where
  | below
  | unit (n : Int)
  | above
deriving DecidableEq

namespace Place

def compare : Place → Place → Ordering
  | below, below => .eq
  | below, _ => .lt
  | unit _, below => .gt
  | unit a, unit b => Ord.compare a b
  | unit _, above => .lt
  | above, above => .eq
  | above, _ => .gt

end Place

def Double.place? : Double → Option Place
  | .finite negative m => some (.unit (if negative then -(m.units : Int) else m.units))
  | .infinite negative => some (if negative then .below else .above)
  | .nan => none

/-- The decimal digits of a whole number, with a minus sign below zero. -/
def intText (n : Int) : List Char :=
  (if n < 0 then ['-'] else []) ++ decimalDigits n.natAbs

namespace Number

instance (n : Nat) : OfNat Number n := ⟨.int n⟩

def place? : Number → Option Place
  | int n => some (.unit (n * unitsPerOne))
  | double x => x.place?

/-- How two numbers compare by value, if both are on the line. -/
def compare? (a b : Number) : Option Ordering := do
  return (← a.place?).compare (← b.place?)

def lt (a b : Number) : Bool := compare? a b == some .lt

def eq (a b : Number) : Bool := compare? a b == some .eq

def le (a b : Number) : Bool := lt a b || eq a b

/-- Zero of either kind and either sign. -/
def isZero : Number → Bool
  | int n => n == 0
  | double x => x.isZero

def toDouble : Number → Double
  | int n => .ofInt n
  | double x => x

/-- The text with the kind kept: a whole double ends in `.0`. -/
def text : Number → List Char
  | int n => intText n
  | double x => x.text

/-- The text in a table cell: whole doubles are written as whole numbers. -/
def cell : Number → List Char
  | int n => intText n
  | double x =>
    match x.toInt? with
    | some n => intText n
    | none => x.text

/-- The number that a double stands for when it is read from text: whole ones become whole numbers,
and only finite ones are numbers. -/
def ofDouble? (x : Double) : Option Number :=
  if x.isFinite then
    some (match x.toInt? with
      | some n => .int n
      | none => .double x)
  else none

/-- The number that a trimmed text spells, in digits of any script and without underscores. -/
def ofText? (cs : List Char) : Option Number :=
  if cs.contains '_' then none else (readDouble? Text.digit? cs).bind ofDouble?

end Number

end Gamebook
