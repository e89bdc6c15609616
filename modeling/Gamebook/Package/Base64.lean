/-!
# Base64

Decoding is lenient: characters outside the alphabet are skipped, and so are padding signs where
they complete no group. A padding sign that completes one ends the data. A group that is open at the
end of the text is an error, and so is any character that is not ASCII.
-/

namespace Gamebook.Package

/-- The six bits of a character of the alphabet. -/
def sextet? (c : Char) : Option Nat :=
  if 'A' ≤ c ∧ c ≤ 'Z' then some (c.toNat - 'A'.toNat)
  else if 'a' ≤ c ∧ c ≤ 'z' then some (c.toNat - 'a'.toNat + 26)
  else if '0' ≤ c ∧ c ≤ '9' then some (c.toNat - '0'.toNat + 52)
  else if c = '+' then some 62
  else if c = '/' then some 63
  else none

/-- A group of up to three sextets that is being read. -/
structure Group where
  /-- The sextets so far. -/
  count : Nat
  /-- The bits of the last sextet that no byte holds yet. -/
  bits : Nat
  /-- The padding signs since the last sextet. -/
  padding : Nat

/-- The byte that a further sextet completes, and the bits that are left. -/
def Group.add (g : Group) (six : Nat) : Option Nat × Group :=
  match g.count with
  | 0 => (none, ⟨1, six, 0⟩)
  | 1 => (some (g.bits * 4 + six / 16), ⟨2, six % 16, 0⟩)
  | 2 => (some (g.bits * 16 + six / 4), ⟨3, six % 4, 0⟩)
  | _ => (some (g.bits * 64 + six), ⟨0, 0, 0⟩)

/-- Reads on in a group, after bytes `done` (in reverse). -/
def decodeFrom (g : Group) (done : List UInt8) : List Char → Option (List UInt8)
  | [] => if g.count = 0 then some done.reverse else none
  | c :: cs =>
    if c = '=' then
      if 2 ≤ g.count then
        if 4 ≤ g.count + (g.padding + 1) then some done.reverse
        else decodeFrom { g with padding := g.padding + 1 } done cs
      else decodeFrom g done cs
    else
      match sextet? c with
      | none => decodeFrom g done cs
      | some six =>
        match g.add six with
        | (some byte, g) => decodeFrom g (UInt8.ofNat byte :: done) cs
        | (none, g) => decodeFrom g done cs

def decode64? (s : String) : Option (List UInt8) :=
  if s.toList.all fun c => c.toNat < 0x80 then decodeFrom ⟨0, 0, 0⟩ [] s.toList else none

end Gamebook.Package
