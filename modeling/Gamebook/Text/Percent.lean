import Gamebook.Text.Digit

/-!
# Percent signs

In a percent-encoded text a percent sign and two hexadecimal digits stand for a byte, and every
other character for its own bytes. The bytes are read as a text as far as they are one: a
replacement character stands for each sequence that begins like a character and does not go on like
one.
-/

namespace Gamebook.Text

def hexDigit? (c : Char) : Option Nat :=
  if '0' ≤ c ∧ c ≤ '9' then some (c.toNat - '0'.toNat)
  else if 'a' ≤ c ∧ c ≤ 'f' then some (c.toNat - 'a'.toNat + 10)
  else if 'A' ≤ c ∧ c ≤ 'F' then some (c.toNat - 'A'.toNat + 10)
  else none

/-! ## Bytes to characters -/

/-- What stands for bytes that are no character. -/
def replacement : Char := '\ufffd'

/-- A character of which some bytes are read: the number of bytes left, the value so far, and the
least and the greatest next byte. -/
structure OpenChar where
  left : Nat
  value : Nat
  least : Nat
  greatest : Nat

/-- What a byte comes to: a character, or the beginning of one. -/
inductive Progress where
  | char (c : Char)
  | opened (o : OpenChar)

def Progress.start (b : Nat) : Progress :=
  if b < 0x80 then char (Char.ofNat b)
  else if b < 0xC2 then char replacement
  else if b < 0xE0 then opened ⟨1, b - 0xC0, 0x80, 0xBF⟩
  else if b = 0xE0 then opened ⟨2, 0, 0xA0, 0xBF⟩
  else if b = 0xED then opened ⟨2, 0xD, 0x80, 0x9F⟩
  else if b < 0xF0 then opened ⟨2, b - 0xE0, 0x80, 0xBF⟩
  else if b = 0xF0 then opened ⟨3, 0, 0x90, 0xBF⟩
  else if b < 0xF4 then opened ⟨3, b - 0xF0, 0x80, 0xBF⟩
  else if b = 0xF4 then opened ⟨3, 4, 0x80, 0x8F⟩
  else char replacement

/-- Reads the next byte of a character, if it goes on like that. -/
def OpenChar.next? (o : OpenChar) (b : Nat) : Option Progress :=
  if o.least ≤ b && b ≤ o.greatest then
    let value := o.value * 0x40 + (b - 0x80)
    if o.left = 1 then some (.char (Char.ofNat value))
    else some (.opened ⟨o.left - 1, value, 0x80, 0xBF⟩)
  else none

/-- The characters that bytes encode, after `done` (in reverse) and maybe within a character. -/
def decodeFrom (done : List Char) : Option OpenChar → List Nat → List Char
  | none, [] => done.reverse
  | some _, [] => (replacement :: done).reverse
  | none, b :: bs =>
    match Progress.start b with
    | .char c => decodeFrom (c :: done) none bs
    | .opened o => decodeFrom done (some o) bs
  | some o, b :: bs =>
    match o.next? b with
    | some (.char c) => decodeFrom (c :: done) none bs
    | some (.opened o) => decodeFrom done (some o) bs
    | none =>
      match Progress.start b with
      | .char c => decodeFrom (c :: replacement :: done) none bs
      | .opened o => decodeFrom (replacement :: done) (some o) bs

/-! ## Percent signs to bytes -/

def bytesOf (c : Char) : List Nat := (String.singleton c).toUTF8.data.toList.map UInt8.toNat

/-- The bytes that a percent-encoded text stands for, after `done` (in reverse). A percent sign
without two digits stands for itself. -/
def percentBytes (done : List Nat) : List Char → List Nat
  | [] => done.reverse
  | '%' :: a :: b :: cs =>
    match hexDigit? a, hexDigit? b with
    | some high, some low => percentBytes ((high * 16 + low) :: done) cs
    | _, _ => percentBytes ('%'.toNat :: done) (a :: b :: cs)
  | c :: cs => percentBytes ((bytesOf c).reverse ++ done) cs

def percentDecode (cs : List Char) : List Char := decodeFrom [] none (percentBytes [] cs)

end Gamebook.Text
