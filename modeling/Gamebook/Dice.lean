import Gamebook.Scalar
import Gamebook.Text.Blank

/-!
# Dice

Dice are written `NdS`, maybe with a signed modifier behind: `N` dice of `S` sides each. A plain
number stands for itself. What can be rolled is a little more than what passes as an expression:
white space inside a formula is dropped before rolling.

The numbers of a formula are read like all whole numbers, so one with too many digits stops whoever
asks for it. `askFormula`, `askExpression` and `tryRoll` are what a program runs; `isFormula`,
`isExpression` and `roll` tell what they come to as long as nothing stops them.
-/

namespace Gamebook.Dice

/-- A number of dice of some sides, and what is added to their sum. -/
structure Formula where
  count : Nat
  sides : Nat
  modifier : Int
deriving DecidableEq

namespace Formula

def isProper (f : Formula) : Bool := 0 < f.count && 0 < f.sides

end Formula

/-- A formula as it is written: the digits of its numbers and the sign of the modifier, which has no
digits if there is none. -/
structure Writing where
  count : List Nat
  sides : List Nat
  isNegative : Bool
  modifier : List Nat

namespace Writing

/-- The modifier behind the sides, if the text ends after it. -/
def modifierOf? : List Char → Option (Bool × List Nat)
  | [] => some (false, [])
  | c :: cs =>
    match takeDigits Text.digit? cs with
    | ([], _) => none
    | (digits, []) =>
      if c = '+' then some (false, digits) else if c = '-' then some (true, digits) else none
    | _ => none

/-- The formula that makes up a whole text; the `d` may be a capital. -/
def ofChars? (cs : List Char) : Option Writing :=
  match takeDigits Text.digit? cs with
  | ([], _) => none
  | (count, d :: rest) =>
    if d = 'd' || d = 'D' then
      match takeDigits Text.digit? rest with
      | ([], _) => none
      | (sides, rest) =>
        (modifierOf? rest).map fun (isNegative, modifier) => ⟨count, sides, isNegative, modifier⟩
    else none
  | _ => none

def signed (w : Writing) (modifier : Nat) : Int := if w.isNegative then -modifier else modifier

/-- What is written, whatever the length of its numbers. -/
def formula (w : Writing) : Formula :=
  ⟨Text.ofDigits w.count, Text.ofDigits w.sides, w.signed (Text.ofDigits w.modifier)⟩

/-- What is written, unless one of its numbers is too long to be read. -/
def read (w : Writing) : Except Text.Oversized Formula := do
  return ⟨← Text.readDigits w.count, ← Text.readDigits w.sides,
    w.signed (← Text.readDigits w.modifier)⟩

/-- Is it a proper formula? The sides are read only behind a count above zero, the modifier
never. -/
def readProper (w : Writing) : Except Text.Oversized Bool := do
  if 0 < (← Text.readDigits w.count) then return 0 < (← Text.readDigits w.sides)
  else return false

end Writing

def Formula.ofChars? (cs : List Char) : Option Formula :=
  (Writing.ofChars? cs).map Writing.formula

/-- The text of a scalar for dice: what is not truthy is empty. -/
def source (s : Scalar) : List Char := if s.truthy then s.plain.toList else []

/-- The number that a text is by itself. -/
def flat? (cs : List Char) : Option Number :=
  if cs.isEmpty then none else Number.ofText? cs

def isPlainNumber (s : Scalar) : Bool := (flat? (Text.trimBy Text.isBlank (source s))).isSome

/-- What stands for a formula in a text, as it is. One line feed at the end does no harm. -/
def line (s : Scalar) : List Char := Text.dropFinalLineFeed (source s)

/-- Is it a proper formula, whatever the length of its numbers? -/
def isFormula (s : Scalar) : Bool :=
  match Formula.ofChars? (line s) with
  | some f => f.isProper
  | none => false

def isExpression (s : Scalar) : Bool := isFormula s || isPlainNumber s

/-- Asks whether it is a proper formula. A number that is too long stops the question. -/
def askFormula (s : Scalar) : Except Text.Oversized Bool :=
  match Writing.ofChars? (line s) with
  | some w => w.readProper
  | none => return false

/-- Asks whether it is an expression. Nothing but a formula has numbers that can stop the
question. -/
def askExpression (s : Scalar) : Except Text.Oversized Bool := do
  if ← askFormula s then return true else return isPlainNumber s

/-- Can it be told whether it is an expression? -/
def isReadable (s : Scalar) : Bool := (askExpression s).isOk

inductive Fault where
  | malformed
  | improper
deriving DecidableEq

def Fault.message (fault : Fault) (given : Scalar) : String :=
  (match fault with
    | malformed => "Invalid dice notation fallback to 0: "
    | improper => "Invalid dice bounds fallback to 0: ") ++ given.toJson.display

/-- The dice as they fell, what was added, and the sum of it all. -/
structure Roll where
  rolls : List Nat
  modifier : Number
  total : Number
  fault : Option Fault

namespace Roll

def nothing (fault : Fault) : Roll := ⟨[], 0, 0, some fault⟩

def flat (n : Number) : Roll := ⟨[], n, n, none⟩

def ofRolls (rolls : List Nat) (modifier : Int) : Roll :=
  ⟨rolls, .int modifier, .int ((rolls.foldr (· + ·) 0 : Nat) + modifier), none⟩

end Roll

/-- What is to be rolled: a plain number, proper dice, or nothing. -/
inductive Throw where
  | flat (n : Number)
  | dice (f : Formula)
  | fault (f : Fault)

def Throw.ofFormula (f : Formula) : Throw := if f.isProper then .dice f else .fault .improper

/-- What a text asks to be rolled: a plain number, or else the formula that it writes, if it writes
one. White space in a formula is dropped. -/
def asked (s : Scalar) : Number ⊕ Option Writing :=
  let cs := Text.trimBy Text.isBlank (source s)
  match flat? cs with
  | some n => .inl n
  | none => .inr (Writing.ofChars? (cs.filter fun c => !Text.isBlank c))

/-- What is rolled for a text, whatever the length of its numbers. -/
def throwOf (s : Scalar) : Throw :=
  match asked s with
  | .inl n => .flat n
  | .inr (some w) => .ofFormula w.formula
  | .inr none => .fault .malformed

/-- What is rolled for a text, unless a number of it is too long to be read. -/
def readThrow (s : Scalar) : Except Text.Oversized Throw :=
  match asked s with
  | .inl n => return .flat n
  | .inr (some w) => return .ofFormula (← w.read)
  | .inr none => return .fault .malformed

/-- Rolls, drawing each die from a source of chance that is told the number of sides. -/
def Throw.roll {σ : Type} (draw : Nat → StateM σ Nat) : Throw → StateM σ Roll
  | .flat n => pure (.flat n)
  | .fault f => pure (.nothing f)
  | .dice f => do
    let rolls ← (List.replicate f.count ()).mapM fun _ => draw f.sides
    return .ofRolls rolls f.modifier

def roll {σ : Type} (draw : Nat → StateM σ Nat) (s : Scalar) : StateM σ Roll :=
  (throwOf s).roll draw

/-- Rolls for a text, unless a number of it is too long to be read. -/
def tryRoll {σ : Type} (draw : Nat → StateM σ Nat) (s : Scalar) :
    ExceptT Text.Oversized (StateM σ) Roll :=
  match readThrow s with
  | .ok t => t.roll draw
  | .error e => throw e

/-- A source that goes through a list of numbers again and again. -/
def scripted (script : List Int) (sides : Nat) : StateM Nat Nat := fun i =>
  ((script.getD (i % max script.length 1) 0 % sides).toNat + 1, i + 1)

end Gamebook.Dice
