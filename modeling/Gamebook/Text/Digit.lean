/-!
# Decimal digits

The digits of every script: the characters of the Unicode category Nd come in runs of ten, and a
run is known by its zero. A whole number with very many digits is neither read nor written, in
whatever place it stands.
-/

namespace Gamebook.Text

/-- The zeros of all decimal digit runs. -/
def digitZeros : List Nat := [
    0x30, 0x660, 0x6F0, 0x7C0, 0x966, 0x9E6, 0xA66, 0xAE6, 0xB66, 0xBE6, 0xC66, 0xCE6, 0xD66,
    0xDE6, 0xE50, 0xED0, 0xF20, 0x1040, 0x1090, 0x17E0, 0x1810, 0x1946, 0x19D0, 0x1A80, 0x1A90,
    0x1B50, 0x1BB0, 0x1C40, 0x1C50, 0xA620, 0xA8D0, 0xA900, 0xA9D0, 0xA9F0, 0xAA50, 0xABF0, 0xFF10,
    0x104A0, 0x10D30, 0x11066, 0x110F0, 0x11136, 0x111D0, 0x112F0, 0x11450, 0x114D0, 0x11650,
    0x116C0, 0x11730, 0x118E0, 0x11950, 0x11C50, 0x11D50, 0x11DA0, 0x16A60, 0x16AC0, 0x16B50,
    0x1D7CE, 0x1D7D8, 0x1D7E2, 0x1D7EC, 0x1D7F6, 0x1E140, 0x1E2F0, 0x1E950, 0x1FBF0]

/-- The value of a decimal digit of any script. -/
def digit? (c : Char) : Option Nat :=
  (digitZeros.find? fun z => z ≤ c.toNat && c.toNat < z + 10).map (c.toNat - ·)

def asciiDigit? (c : Char) : Option Nat :=
  if '0' ≤ c ∧ c ≤ '9' then some (c.toNat - '0'.toNat) else none

/-- The digits of a number in base `base`, the least significant first, taken two at a time: the
digits of the same number in base `base * base`. -/
def pairDigits (base : Nat) : List Nat → List Nat
  | low :: high :: rest => (low + base * high) :: pairDigits base rest
  | digits => digits

/-- The number whose digits in base `base` are given, the least significant first. The digits are
paired up `rounds` times before the number is put together from those that are left; a long numeral
takes far less work that way, and the number is the same for every count of rounds. -/
def gatherDigits (base : Nat) (digits : List Nat) : Nat → Nat
  | 0 => digits.foldr (fun d n => d + base * n) 0
  | rounds + 1 => gatherDigits (base * base) (pairDigits base digits) rounds

/-- The number that a run of digit values writes, the most significant first. -/
def ofDigits (digits : List Nat) : Nat :=
  gatherDigits 10 digits.reverse digits.length.log2

/-- The most digits of a whole number that is read or written. Needless zeros count. -/
def maxDigits : Nat := 4300

/-- The refusal of a number with more digits. -/
structure Oversized where

/-- The number that a run of digit values writes, unless the run is too long. -/
def readDigits (digits : List Nat) : Except Oversized Nat :=
  if digits.length ≤ maxDigits then .ok (ofDigits digits) else .error ⟨⟩

theorem foldr_pairDigits (base : Nat) (digits : List Nat) :
    (pairDigits base digits).foldr (fun d n => d + base * base * n) 0
      = digits.foldr (fun d n => d + base * n) 0 := by
  fun_induction pairDigits base digits with
  | case1 low high rest ih =>
    simp only [List.foldr_cons, ih]
    rw [Nat.mul_add, Nat.mul_assoc, Nat.add_assoc]
  | case2 digits short =>
    match digits with
    | [] => rfl
    | [d] => simp
    | low :: high :: rest => exact (short low high rest rfl).elim

/-- Pairing the digits up beforehand does not change the number. -/
theorem gatherDigits_eq_foldr (base : Nat) (digits : List Nat) (rounds : Nat) :
    gatherDigits base digits rounds = digits.foldr (fun d n => d + base * n) 0 := by
  induction rounds generalizing base digits with
  | zero => rfl
  | succ rounds ih => rw [gatherDigits, ih, foldr_pairDigits]

theorem ofDigits_eq_foldl (digits : List Nat) :
    ofDigits digits = digits.foldl (fun n d => 10 * n + d) 0 := by
  rw [ofDigits, gatherDigits_eq_foldr, List.foldr_reverse]
  congr 1
  funext n d
  exact Nat.add_comm d (10 * n)

end Gamebook.Text
