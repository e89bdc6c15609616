import Gamebook.Number.Decimal

/-!
# The shortest text of a double

Of all decimals that read back as a double, its text has the fewest digits, and of those it is the
nearest, an exact tie going to the even digit. On each grid of `1, 2, … 17` digits only the two
neighbours of the value need a look: if any point of the grid reads back, one of them does.
Positional notation serves for decimal exponents from `-4` to `15`, the other exponents are written
out with a sign and at least two digits.
-/

namespace Gamebook

/-- The decimal digits of a natural number, the most significant first. -/
def decimalDigits (n : Nat) : List Char := Nat.toDigits 10 n

def natText (n : Nat) : String := String.ofList (decimalDigits n)

namespace Magnitude

/-- The exponent of the first decimal digit of a positive magnitude. Multiplied by `10 ^ 330`, every
positive magnitude has a whole part. -/
def decimalExponent (m : Magnitude) : Int :=
  (decimalDigits (m.units * Nat.pow 10 330 / unitsPerOne)).length - 331

/-- The value divided by `10 ^ p`, as a numerator and a denominator. -/
def onGrid (m : Magnitude) : Int → Nat × Nat
  | .ofNat p => (m.units, unitsPerOne * Nat.pow 10 p)
  | .negSucc p => (m.units * Nat.pow 10 (p + 1), unitsPerOne)

def readsBack (m : Magnitude) (p : Int) (n : Nat) : Bool :=
  (Decimal.mk false n p).toDouble == .finite false m

/-- The neighbour on the grid of `10 ^ p` that reads back, the nearer of two. -/
def onGrid? (m : Magnitude) (p : Int) : Option Nat :=
  let (num, den) := m.onGrid p
  let below := num / den
  let nearer := divNearest num den
  if m.readsBack p nearer then some nearer
  else
    let other := if nearer = below then below + 1 else below
    if m.readsBack p other then some other else none

/-- The first decimal that reads back on grids of more and more digits. -/
def found? (m : Magnitude) : Option Decimal :=
  (List.range 17).findSome? fun (k : Nat) =>
    let p := m.decimalExponent - k
    (m.onGrid? p).map fun n => Decimal.mk false n p

/-- The exact value, to so many decimal places that all binary places fit. -/
def exactly (m : Magnitude) (places : Nat) : Decimal :=
  ⟨false, m.units * Nat.pow 5 places, -(places : Int)⟩

/-- The decimal with the fewest digits that reads back. The last case is the exact value. -/
def shortest (m : Magnitude) : Decimal := m.found?.getD (m.exactly 1074)

end Magnitude

structure NumeralLayout where
  /-- The least exponent of the first digit written positionally. -/
  least : Int
  /-- The greatest exponent of the first digit written positionally. -/
  greatest : Int
  /-- What follows a whole number in positional notation. -/
  wholeEnding : List Char
  /-- The least number of digits of a written exponent. -/
  exponentWidth : Nat

/-- Numbers are positional from `0.0001` to below `10 ^ 16`, with `.0` after a whole one. -/
def doubleLayout : NumeralLayout := ⟨-4, 15, ['.', '0'], 2⟩

def NumeralLayout.exponent (layout : NumeralLayout) (e : Int) : List Char :=
  let digits := decimalDigits e.natAbs
  (if e < 0 then '-' else '+') ::
    List.replicate (layout.exponentWidth - digits.length) '0' ++ digits

/-- The text of `digits`, the first of which has the exponent `e`. -/
def NumeralLayout.write (layout : NumeralLayout) (digits : List Char) (e : Int) : List Char :=
  if e < layout.least || layout.greatest < e then
    match digits with
    | [] => []
    | [d] => d :: 'e' :: layout.exponent e
    | d :: ds => d :: '.' :: ds ++ 'e' :: layout.exponent e
  else if e < 0 then
    '0' :: '.' :: List.replicate (e.natAbs - 1) '0' ++ digits
  else
    let size := e.toNat + 1
    if digits.length ≤ size then
      digits ++ List.replicate (size - digits.length) '0' ++ layout.wholeEnding
    else digits.take size ++ '.' :: digits.drop size

def dropTrailingZeros (digits : List Char) : List Char :=
  (digits.reverse.dropWhile (· = '0')).reverse

namespace Magnitude

def text (m : Magnitude) : List Char :=
  if m.mantissa = 0 then doubleLayout.write ['0'] 0
  else
    let d := m.shortest
    let digits := decimalDigits d.coefficient
    doubleLayout.write (dropTrailingZeros digits) (d.exponent + digits.length - 1)

end Magnitude

def Double.text : Double → List Char
  | .finite negative m => (if negative then ['-'] else []) ++ m.text
  | .infinite negative => (if negative then ['-'] else []) ++ ['i', 'n', 'f']
  | .nan => ['n', 'a', 'n']

end Gamebook
