/-!
# Doubles

The numbers of 64-bit binary floating point, kept exactly. A finite magnitude is a mantissa below
`2 ^ 53` times a power of two, counted in units of `2 ^ -1074`, and it has one representation only.
A ratio of natural numbers is rounded to the nearest magnitude, ties to the even mantissa.
-/

namespace Gamebook

/-- A finite magnitude: `mantissa * 2 ^ exponent` units of `2 ^ -1074`. -/
structure Magnitude where
  mantissa : Nat
  exponent : Nat
  mantissa_lt : mantissa < Nat.pow 2 53
  exponent_le : exponent ≤ 2045
  canonical : Nat.pow 2 52 ≤ mantissa ∨ exponent = 0
deriving DecidableEq

/-- A double: a signed finite magnitude, an infinity, or no number at all. -/
inductive Double where
  | finite (negative : Bool) (magnitude : Magnitude)
  | infinite (negative : Bool)
  | nan
deriving DecidableEq

def unitsPerOne : Nat := Nat.pow 2 1074

/-- The quotient rounded to the nearest whole number, a half to the even one. -/
def divNearest (num den : Nat) : Nat :=
  let below := num / den
  match compare (2 * (num % den)) den with
  | .lt => below
  | .gt => below + 1
  | .eq => if below % 2 = 0 then below else below + 1

namespace Magnitude

def zero : Magnitude := ⟨0, 0, by decide, by decide, .inr rfl⟩

/-- The value in units of `2 ^ -1074`. -/
def units (m : Magnitude) : Nat := m.mantissa * Nat.pow 2 m.exponent

/-- The magnitude with these parts, if they are in range and in canonical form. -/
def ofParts? (mantissa exponent : Nat) : Option Magnitude :=
  if h : mantissa < Nat.pow 2 53 ∧ exponent ≤ 2045 ∧
      (Nat.pow 2 52 ≤ mantissa ∨ exponent = 0) then
    some ⟨mantissa, exponent, h.1, h.2.1, h.2.2⟩
  else none

/-- The magnitude nearest to `num / den` units, or `none` beyond the largest one. The exponent is
the least at which the whole part has at most 53 binary digits. -/
def nearest? (num den : Nat) : Option Magnitude :=
  let exponent := (num / den).log2 - 52
  let mantissa := divNearest num (den * Nat.pow 2 exponent)
  if mantissa = Nat.pow 2 53 then ofParts? (Nat.pow 2 52) (exponent + 1)
  else ofParts? mantissa exponent

def isWhole (m : Magnitude) : Bool := m.units % unitsPerOne == 0

/-- The value without its fraction. -/
def whole (m : Magnitude) : Nat := m.units / unitsPerOne

end Magnitude

namespace Double

def zero : Double := .finite false .zero

/-- The double of a magnitude, an infinity without one. -/
def ofMagnitude? (negative : Bool) : Option Magnitude → Double
  | some m => .finite negative m
  | none => .infinite negative

/-- The double nearest to `num / den`, an infinity beyond the largest one. -/
def ofRatio (negative : Bool) (num den : Nat) : Double :=
  ofMagnitude? negative (Magnitude.nearest? (num * unitsPerOne) den)

def ofInt (n : Int) : Double := ofRatio (decide (n < 0)) n.natAbs 1

def isFinite : Double → Bool
  | finite _ _ => true
  | _ => false

def toInt? : Double → Option Int
  | finite negative m =>
    if m.isWhole then some (if negative then -(m.whole : Int) else m.whole) else none
  | _ => none

def isZero : Double → Bool
  | finite _ m => m.mantissa == 0
  | _ => false

/-- A double times a natural number, rounded once. -/
def scale (k : Nat) : Double → Double
  | finite negative m => ofRatio negative (m.units * k) unitsPerOne
  | x => x

/-- The whole part toward zero; nothing for what is not finite. -/
def truncate : Double → Int
  | finite negative m => if negative then -(m.whole : Int) else m.whole
  | _ => 0

end Double

end Gamebook
