import Gamebook.Package.Base64
import Mathlib.Data.Nat.Notation
import Mathlib.Tactic.Lemma

/-!
# Bytes in base64

The standard encoding turns three bytes into four letters of six bits each; padding signs fill the
last group. Decoding, lenient as it is with other texts, gives the bytes back.
-/

namespace Gamebook.Proofs

open Package

/-- The letters of the alphabet in the order of their bits. -/
def letters64 : List Char :=
  "ABCDEFGHIJKLMNOPQRSTUVWXYZabcdefghijklmnopqrstuvwxyz0123456789+/".toList

/-- The letter for six bits. -/
def letter (six : ℕ) : Char := letters64.getD six '='

/-- The characters of the standard encoding. -/
def encodeChars : List UInt8 → List Char
  | [] => []
  | [a] => [letter (a.toNat / 4), letter (a.toNat % 4 * 16), '=', '=']
  | [a, b] =>
    [letter (a.toNat / 4), letter (a.toNat % 4 * 16 + b.toNat / 16), letter (b.toNat % 16 * 4), '=']
  | a :: b :: c :: rest =>
    letter (a.toNat / 4) :: letter (a.toNat % 4 * 16 + b.toNat / 16) ::
      letter (b.toNat % 16 * 4 + c.toNat / 64) :: letter (c.toNat % 64) :: encodeChars rest

/-- The standard encoding of bytes. -/
def encode64 (data : List UInt8) : String := String.ofList (encodeChars data)

/-! ## Letters -/

lemma sextet?_letter {six : ℕ} (h : six < 64) : sextet? (letter six) = some six := by
  have hall : ∀ six < 64, sextet? (letter six) = some six := by decide +kernel
  exact hall six h

lemma letter_ne_pad {six : ℕ} (h : six < 64) : letter six ≠ '=' := by
  intro hpad
  have hnone : sextet? '=' = none := by decide
  have hsextet := sextet?_letter h
  rw [hpad, hnone] at hsextet
  exact absurd hsextet (by simp)

lemma isAscii_letter (six : ℕ) : (letter six).toNat < 0x80 := by
  have hall : letters64.all (fun c => c.toNat < 0x80) = true := by decide +kernel
  unfold letter
  rw [List.getD_eq_getElem?_getD]
  cases hsix : letters64[six]? with
  | none => decide
  | some c =>
    exact of_decide_eq_true (List.all_eq_true.mp hall c (List.mem_of_getElem? hsix))

/-! ## Groups -/

section

variable {six bits padding byte : ℕ} {g next : Group} {done : List UInt8} {cs : List Char}

lemma decodeFrom_of_kept (h : six < 64) (hadd : g.add six = (none, next)) :
    decodeFrom g done (letter six :: cs) = decodeFrom next done cs := by
  rw [decodeFrom, if_neg (letter_ne_pad h), sextet?_letter h]
  simp only [hadd]

lemma decodeFrom_of_byte (h : six < 64) (hadd : g.add six = (some byte, next)) :
    decodeFrom g done (letter six :: cs) = decodeFrom next (UInt8.ofNat byte :: done) cs := by
  rw [decodeFrom, if_neg (letter_ne_pad h), sextet?_letter h]
  simp only [hadd]

lemma decodeFrom_first (h : six < 64) :
    decodeFrom ⟨0, bits, padding⟩ done (letter six :: cs) = decodeFrom ⟨1, six, 0⟩ done cs :=
  decodeFrom_of_kept h rfl

lemma decodeFrom_second (h : six < 64) :
    decodeFrom ⟨1, bits, padding⟩ done (letter six :: cs) =
      decodeFrom ⟨2, six % 16, 0⟩ (UInt8.ofNat (bits * 4 + six / 16) :: done) cs :=
  decodeFrom_of_byte h rfl

lemma decodeFrom_third (h : six < 64) :
    decodeFrom ⟨2, bits, padding⟩ done (letter six :: cs) =
      decodeFrom ⟨3, six % 4, 0⟩ (UInt8.ofNat (bits * 16 + six / 4) :: done) cs :=
  decodeFrom_of_byte h rfl

lemma decodeFrom_fourth (h : six < 64) :
    decodeFrom ⟨3, bits, padding⟩ done (letter six :: cs) =
      decodeFrom ⟨0, 0, 0⟩ (UInt8.ofNat (bits * 64 + six) :: done) cs :=
  decodeFrom_of_byte h rfl

end

lemma ofNat_eq {n : ℕ} {byte : UInt8} (h : n = byte.toNat) : UInt8.ofNat n = byte := by
  rw [h, UInt8.ofNat_toNat]

lemma firstByte_eq (a b : UInt8) :
    UInt8.ofNat (a.toNat / 4 * 4 + (a.toNat % 4 * 16 + b.toNat / 16) / 16) = a := by
  have hb := b.toNat_lt
  exact ofNat_eq (by omega)

/-- The letters of a group give its bytes back, and padding signs end the data. -/
lemma decodeFrom_encodeChars (done data : List UInt8) :
    decodeFrom ⟨0, 0, 0⟩ done (encodeChars data) = some (done.reverse ++ data) := by
  induction data using encodeChars.induct generalizing done with
  | case1 => simp [encodeChars, decodeFrom]
  | case2 a =>
    have ha := a.toNat_lt
    have hfirst : UInt8.ofNat (a.toNat / 4 * 4 + a.toNat % 4 * 16 / 16) = a := ofNat_eq (by omega)
    rw [encodeChars, decodeFrom_first (by omega), decodeFrom_second (by omega), hfirst]
    simp [decodeFrom]
  | case3 a b =>
    have ha := a.toNat_lt
    have hb := b.toNat_lt
    have hsecond : UInt8.ofNat ((a.toNat % 4 * 16 + b.toNat / 16) % 16 * 16 +
        b.toNat % 16 * 4 / 4) = b := ofNat_eq (by omega)
    rw [encodeChars, decodeFrom_first (by omega), decodeFrom_second (by omega),
      decodeFrom_third (by omega), firstByte_eq, hsecond]
    simp [decodeFrom]
  | case4 a b c rest ih =>
    have ha := a.toNat_lt
    have hb := b.toNat_lt
    have hc := c.toNat_lt
    have hsecond : UInt8.ofNat ((a.toNat % 4 * 16 + b.toNat / 16) % 16 * 16 +
        (b.toNat % 16 * 4 + c.toNat / 64) / 4) = b := ofNat_eq (by omega)
    have hthird : UInt8.ofNat ((b.toNat % 16 * 4 + c.toNat / 64) % 4 * 64 + c.toNat % 64) = c :=
      ofNat_eq (by omega)
    rw [encodeChars, decodeFrom_first (by omega), decodeFrom_second (by omega),
      decodeFrom_third (by omega), decodeFrom_fourth (by omega), firstByte_eq, hsecond, hthird, ih]
    simp

lemma isAscii_encodeChars (data : List UInt8) : ∀ c ∈ encodeChars data, c.toNat < 0x80 := by
  induction data using encodeChars.induct with
  | case1 => simp [encodeChars]
  | case2 a => simp [encodeChars, isAscii_letter]
  | case3 a b => simp [encodeChars, isAscii_letter]
  | case4 a b c rest ih => simpa [encodeChars, isAscii_letter] using ih

@[simp] lemma decode64?_encode64 (data : List UInt8) : decode64? (encode64 data) = some data := by
  have hascii : (encodeChars data).all (fun c => c.toNat < 0x80) = true :=
    List.all_eq_true.mpr fun c hc => decide_eq_true (isAscii_encodeChars data c hc)
  unfold decode64? encode64
  rw [String.toList_ofList, if_pos hascii, decodeFrom_encodeChars, List.reverse_nil,
    List.nil_append]

end Gamebook.Proofs
