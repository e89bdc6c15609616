import Gamebook.Number.Double
import Gamebook.Text.Digit

/-!
# Decimal text to doubles

A decimal is a coefficient times a power of ten, with a sign. `Decimal.toDouble` rounds it to the
nearest double; an exponent that lies far beyond the range is settled by the size of the
coefficient, without computing the power. `readDouble?` reads a whole text by the usual grammar:
digits with at most one point, an optional exponent, or a word for infinity or not-a-number.
-/

namespace Gamebook

/-- `coefficient * 10 ^ exponent`, with a sign. -/
structure Decimal where
  negative : Bool
  coefficient : Nat
  exponent : Int
deriving DecidableEq

namespace Decimal

def toDouble (d : Decimal) : Double :=
  if d.coefficient = 0 then .finite d.negative .zero
  else
    let bits := d.coefficient.log2
    match d.exponent with
    | .ofNat up =>
      if 1024 ≤ bits + 3 * up then .infinite d.negative
      else .ofRatio d.negative (d.coefficient * Nat.pow 10 up) 1
    | .negSucc down =>
      if bits + 1076 ≤ 3 * (down + 1) then .finite d.negative .zero
      else .ofRatio d.negative d.coefficient (Nat.pow 10 (down + 1))

end Decimal

/-- A sign in front of the rest of a numeral: `true` for a minus. -/
def takeSign : List Char → Bool × List Char
  | '-' :: cs => (true, cs)
  | '+' :: cs => (false, cs)
  | cs => (false, cs)

def takeDigits (digit? : Char → Option Nat) (cs : List Char) : List Nat × List Char :=
  ((cs.takeWhile fun c => (digit? c).isSome).filterMap digit?,
    cs.dropWhile fun c => (digit? c).isSome)

/-- The digits after a point, if there is one. -/
def takeFraction (digit? : Char → Option Nat) : List Char → List Nat × List Char
  | '.' :: cs => takeDigits digit? cs
  | cs => ([], cs)

/-- An exponent part that ends the text; an empty text is the exponent zero. -/
def readExponent? (digit? : Char → Option Nat) : List Char → Option Int
  | [] => some 0
  | c :: cs =>
    if c = 'e' || c = 'E' then
      let (negative, cs) := takeSign cs
      match takeDigits digit? cs with
      | ([], _) => none
      | (digits, []) =>
        let n : Int := Text.ofDigits digits
        some (if negative then -n else n)
      | _ => none
    else none

/-- A numeral of digits with an optional point and an optional exponent. -/
def readNumeral? (digit? : Char → Option Nat) (negative : Bool) (cs : List Char) : Option Decimal :=
  let (whole, rest) := takeDigits digit? cs
  let (fraction, rest) := takeFraction digit? rest
  if whole.isEmpty && fraction.isEmpty then none
  else
    (readExponent? digit? rest).map fun e =>
      ⟨negative, Text.ofDigits (whole ++ fraction), e - fraction.length⟩

/-- The words for what is no finite number, in any case. -/
def readSpecial? (negative : Bool) (cs : List Char) : Option Double :=
  let word := String.ofList (cs.map Char.toLower)
  if word = "inf" || word = "infinity" then some (.infinite negative)
  else if word = "nan" then some .nan
  else none

/-- The double that a whole text spells, its digits being those of `digit?`. -/
def readDouble? (digit? : Char → Option Nat) (cs : List Char) : Option Double :=
  let (negative, cs) := takeSign cs
  match readSpecial? negative cs with
  | some x => some x
  | none => (readNumeral? digit? negative cs).map Decimal.toDouble

end Gamebook
